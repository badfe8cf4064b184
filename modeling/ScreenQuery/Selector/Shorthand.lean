import ScreenQuery.Node
import ScreenQuery.Selector.Fault

/-!
# Shorthand selectors

* `#login` means a resource id, `.Button` a part of the class, `[text=OK]` an attribute with a
  value, `[text*=Log]` an attribute that contains a part, `[hint]` an attribute that is not empty,
  and any other text a text or description.
* Blanks around a selector, an attribute name and a value do not matter; one pair of quotes around
  a value is taken off.

`parse` is that of `Shorthand`, with `parse_attribute` (`ofBody`), `attribute_name`
(`attributeName`) and `unquote`; `picks` is its `matches`, and `matchesId` is `resource_id_matches`.
-/

namespace ScreenQuery

/-- A shorthand selector. -/
inductive Shorthand
  | resource (name : Text)
  | classPart (part : Text)
  | equals (name value : Text)
  | containing (name part : Text)
  | present (name : Text)
  | literal (words : Text)
  deriving DecidableEq

namespace Shorthand

/-- The separator of a package and the name of a resource. -/
def idSeparator : Text := ":id/"

/-- A resource id is wanted by itself, or by the name that ends it after the separator. -/
def matchesId (actual wanted : Text) : Bool :=
  actual == wanted ||
    match Text.dropSuffix? wanted actual with
    | some before => Text.endsWith idSeparator before
    | none => false

/-- The text between one pair of a quote, when it starts and ends with it. -/
def betweenQuotes? (quote : Char) (text : Text) : Option Text :=
  if 2 ≤ text.length ∧ text.head? = some quote ∧ text.getLast? = some quote then
    some (text.drop 1).dropLast
  else none

/-- The text without blanks around it and without one pair of quotes. -/
def unquote (raw : Text) : Text :=
  let text := Text.trim raw
  ((betweenQuotes? '"' text).orElse fun _ => betweenQuotes? '\'' text).getD text

/-- The name of an attribute: not empty, and without blanks and brackets inside. -/
def attributeName (raw : Text) : Except SelectorFault Text :=
  let name := Text.trim raw
  if name.isEmpty then .error .missingAttributeName
  else if name.any fun c => Text.isBlank c || c == '[' || c == ']' then
    .error (.badAttributeName name)
  else .ok name

/-- The selector that stands between brackets. -/
def ofBody (body : Text) : Except SelectorFault Shorthand :=
  match Text.splitFirst "*=" body with
  | some (name, value) => (attributeName name).map fun name => .containing name (unquote value)
  | none =>
    match Text.splitFirst "=" body with
    | some (name, value) => (attributeName name).map fun name => .equals name (unquote value)
    | none => (attributeName body).map .present

/-- The selector of a text without blanks around it. -/
def ofTrimmed : Text → Except SelectorFault Shorthand
  | [] => .error .emptySelector
  | '#' :: name => if name.isEmpty then .error .emptyId else .ok (.resource name)
  | '.' :: part => if part.isEmpty then .error .emptyClass else .ok (.classPart part)
  | '[' :: rest =>
    match Text.dropSuffix? "]" rest with
    | some body => ofBody body
    | none => .error .unclosedBracket
  | words => .ok (.literal words)

/-- The shorthand selector of a text. -/
def parse (input : Text) : Except SelectorError Shorthand :=
  (ofTrimmed (Text.trim input)).mapError fun fault => ⟨input, fault⟩

/-- True when the selector picks an element. -/
def picks (selector : Shorthand) (node : Node) : Bool :=
  match selector with
  | .resource name => matchesId node.resourceId name
  | .classPart part => Text.contains part node.className
  | .equals name value => node.attribute? name == some value
  | .containing name part => (node.attribute? name).any (Text.contains part)
  | .present name => (node.attribute? name).any fun value => !value.isEmpty
  | .literal words => node.text == words || node.description == words

/-- The way the selector is shown. -/
def toText : Shorthand → Text
  | .resource name => '#' :: name
  | .classPart part => '.' :: part
  | .equals name value => "[" ++ name ++ "=\"" ++ value ++ "\"]"
  | .containing name part => "[" ++ name ++ "*=\"" ++ part ++ "\"]"
  | .present name => "[" ++ name ++ "]"
  | .literal words => words

end Shorthand

end ScreenQuery
