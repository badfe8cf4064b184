import ScreenQuery.Json.Basic
import ScreenQuery.Regex.Basic
import ScreenQuery.Selector.Shorthand
import ScreenQuery.Text.Casing
import ScreenQuery.Text.Quoted

/-!
# Predicates

* A `Predicate` is a list of clauses that must all hold; the empty list picks every element.
* A `Clause` compares a field with a matcher: an exact text, a regular expression or a truth value.
* `contains` looks for a part of the text or the description, whatever the case; `resourceId` takes
  an exact id as shorthand does. A field without a meaning of its own is an extra attribute, which
  an element without it never satisfies.

`picks` is `matches` of `Predicate`, `Clause.holds` is `clause_matches`, `ofFields` is `from_json`,
`Field.ofName` is `from_name`, and `Matcher.accepts` is `matches_str`. Of the functions that build a
predicate only `contains` is here, as `containing`.
-/

namespace ScreenQuery

/-- What a clause looks at. -/
inductive Field
  | text | description | contains | resourceId | className
  | flag (which : Flag)
  | index | bounds | package
  | extra (name : Text)
  deriving DecidableEq

namespace Field

/-- The spellings of the fields that are neither flags nor extra attributes. -/
def spellings : List (Field × List Text) :=
  [(text, ["text"]),
    (description, ["description", "desc", "contentDesc", "content-desc"]),
    (contains, ["contains", "textContains"]),
    (resourceId, ["resourceId", "resource-id", "id"]),
    (className, ["className", "class"]),
    (index, ["index"]),
    (bounds, ["bounds"]),
    (package, ["package"])]

/-- The field that a name spells; flags come first, and what nothing else spells is extra. -/
def ofName (name : Text) : Field :=
  match Flag.ofName? name with
  | some which => flag which
  | none =>
    match spellings.find? fun entry => entry.2.contains name with
    | some (field, _) => field
    | none => extra name

/-- The name under which the field is shown. -/
def name : Field → Text
  | text => "text"
  | description => "description"
  | contains => "contains"
  | resourceId => "resourceId"
  | className => "className"
  | flag which => which.attributeName
  | index => "index"
  | bounds => "bounds"
  | package => "package"
  | extra name => name

end Field

/-- How a clause compares. -/
inductive Matcher
  | exact (value : Text)
  | regex (expression : Regex)
  | truth (value : Bool)

namespace Matcher

/-- The matcher of the source of a regular expression. -/
def ofRegex (source : Text) : Except SelectorError Matcher :=
  match Regex.compile source with
  | .ok expression => .ok (.regex expression)
  | .error fault => .error ⟨source, .invalidRegex fault⟩

/-- True when a text satisfies the matcher; a truth value compares with its text. -/
def accepts (matcher : Matcher) (value : Text) : Bool :=
  match matcher with
  | exact wanted => value == wanted
  | regex expression => expression.isMatch value
  | truth wanted => value == Node.truthText wanted

/-- The way the matcher is shown. -/
def toText : Matcher → Text
  | exact value => Text.quote value
  | regex expression => '/' :: expression.source ++ ['/']
  | truth value => Node.truthText value

end Matcher

/-- A field and what it is compared with. -/
structure Clause where
  field : Field
  matcher : Matcher

namespace Clause

/-- True when `part` occurs in `text`, whatever the case of either. -/
def containsFolded (part text : Text) : Bool :=
  Text.contains (Text.lowercase part) (Text.lowercase text)

/-- True when the clause holds of an element. -/
def holds (clause : Clause) (node : Node) : Bool :=
  match clause.field with
  | .text => clause.matcher.accepts node.text
  | .description => clause.matcher.accepts node.description
  | .contains =>
    match clause.matcher with
    | .exact part => containsFolded part node.text || containsFolded part node.description
    | .regex expression => expression.isMatch node.text || expression.isMatch node.description
    | .truth _ => false
  | .resourceId =>
    match clause.matcher with
    | .exact wanted => Shorthand.matchesId node.resourceId wanted
    | matcher => matcher.accepts node.resourceId
  | .className => clause.matcher.accepts node.className
  | .flag which => clause.matcher.accepts (Node.truthText (node.flag which))
  | .index => clause.matcher.accepts (Text.ofNat node.index.toNat)
  | .bounds => clause.matcher.accepts node.bounds.toText
  | .package => clause.matcher.accepts node.package
  | .extra name => (node.extras.get? name).any clause.matcher.accepts

/-- The way the clause is shown. -/
def toText (clause : Clause) : Text := clause.field.name ++ ": " ++ clause.matcher.toText

end Clause

/-- A conjunction of clauses. -/
structure Predicate where
  clauses : List Clause

namespace Predicate

/-- The predicate with one more clause. -/
def and (predicate : Predicate) (field : Field) (matcher : Matcher) : Predicate :=
  ⟨predicate.clauses ++ [⟨field, matcher⟩]⟩

/-- The predicate that every element satisfies. -/
def always : Predicate := ⟨[]⟩

/-- The predicate that looks for a part of the text or the description. -/
def containing (part : Text) : Predicate := always.and .contains (.exact part)

/-- True when every clause holds of an element. -/
def picks (predicate : Predicate) (node : Node) : Bool :=
  predicate.clauses.all fun clause => clause.holds node

/-- The matcher that the value of a field denotes: a text or a number is exact, an object holds a
regular expression. -/
def matcherOf (field : Text) (value : Json) : Except SelectorError Matcher :=
  match value with
  | .string text => .ok (.exact text)
  | .bool truth => .ok (.truth truth)
  | .number number => .ok (.exact number.toText)
  | .object fields =>
    match (Json.object fields).field? "regex" with
    | some (.string source) => Matcher.ofRegex source
    | _ => .error ⟨(Json.object fields).compact, .missingRegex field⟩
  | _ => .error ⟨value.compact, .wrongFieldValue field⟩

/-- The predicate that the fields of an object denote. -/
def ofFields (fields : List (Text × Json)) : Except SelectorError Predicate := do
  let clauses ← fields.mapM fun (name, value) => do
    let matcher ← matcherOf name value
    return (⟨Field.ofName name, matcher⟩ : Clause)
  return ⟨clauses⟩

/-- The way the predicate is shown. -/
def toText (predicate : Predicate) : Text :=
  '\x7b' :: Text.joinWith ", " (predicate.clauses.map Clause.toText) ++ ['\x7d']

end Predicate

end ScreenQuery
