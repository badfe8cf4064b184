import ScreenQuery.Failure
import ScreenQuery.Regex.Escape

/-!
# Faults of selectors

* A `SelectorFault` says why a selector cannot be read; a `SelectorError` adds the text that was
  given.

These are the reasons that `invalid_selector` is given.
-/

namespace ScreenQuery

/-- Why a selector cannot be read. -/
inductive SelectorFault
  | emptySelector
  | emptyId
  | emptyClass
  | unclosedBracket
  | missingAttributeName
  | badAttributeName (name : Text)
  | emptyPath
  | missingSlash (rest : Text)
  | missingElementName
  | largePosition
  | zeroPosition
  | unknownPredicate (body : Text)
  | missingEquals (body : Text)
  | unknownPathAttribute (name : Text)
  | unquotedValue (name : Text)
  | noAlternatives
  | wrongShape
  | invalidJson
  | invalidRegex (fault : Regex.Fault)
  | missingRegex (field : Text)
  | wrongFieldValue (field : Text)
  deriving DecidableEq

/-- The wording of a fault. -/
def SelectorFault.message : SelectorFault → Text
  | emptySelector => "empty selector"
  | emptyId => "'#' needs an id"
  | emptyClass => "'.' needs a class name"
  | unclosedBracket => "unterminated '['"
  | missingAttributeName => "missing attribute name"
  | badAttributeName name => "bad attribute name '" ++ name ++ "'"
  | emptyPath => "empty path query"
  | missingSlash rest => "expected '/' or '//' at '" ++ rest ++ "'"
  | missingElementName => "missing element name"
  | largePosition => "position out of range"
  | zeroPosition => "positions start at 1"
  | unknownPredicate body => "unsupported predicate '[" ++ body ++ "]'"
  | missingEquals body => "predicate '[" ++ body ++ "]' needs '='"
  | unknownPathAttribute name =>
    "unsupported attribute '@" ++ name ++
      "' (use text, resource-id, content-desc or clickable)"
  | unquotedValue name => "value for '@" ++ name ++ "' must be quoted"
  | noAlternatives => "no alternatives given"
  | wrongShape => "expected a string, object or array"
  | invalidJson => "invalid JSON: the text is not a JSON value"
  | invalidRegex fault => "invalid regex: " ++ fault.message
  | missingRegex field => "field '" ++ field ++ "' expects \x7b\"regex\": \"...\"\x7d"
  | wrongFieldValue field => "unsupported value for field '" ++ field ++ "'"

/-- A selector that cannot be read, and why. -/
structure SelectorError where
  selector : Text
  fault : SelectorFault
  deriving DecidableEq

/-- The failure that reports the error. -/
def SelectorError.failure (error : SelectorError) : Failure :=
  .invalidSelector error.selector error.fault.message

end ScreenQuery
