import ScreenQuery.Json.Term
import ScreenQuery.Selector.Path
import ScreenQuery.Selector.Predicate

/-!
# Selectors

* A `Selector` is a predicate, a shorthand selector, a path query, or a list of alternatives, of
  which the first with a result counts.
* `parse` reads a path query from a text that starts with a slash, and a shorthand selector from any
  other. `ofJson` takes objects for predicates and arrays for alternatives. `ofInput` reads whatever
  looks like JSON as JSON.

`parse`, `ofJson` and `ofInput` are `parse`, `from_json` and `from_input` of `Selector`. Out of
scope: `any_of`, which only makes a list of alternatives.
-/

namespace ScreenQuery

/-- What elements are wanted. -/
inductive Selector
  | predicate (clauses : Predicate)
  | shorthand (short : Shorthand)
  | path (query : PathQuery)
  | alternatives (items : List Selector)

namespace Selector

/-- The selector of a text. -/
def parse (input : Text) : Except SelectorError Selector :=
  match Text.trimStart input with
  | '/' :: _ => (PathQuery.parse input).map .path
  | _ => (Shorthand.parse input).map .shorthand

mutual

/-- The selector that a JSON value denotes. -/
def ofJson : Json → Except SelectorError Selector
  | .string text => parse text
  | .object fields => (Predicate.ofFields fields).map .predicate
  | .array [] => .error ⟨"[]", .noAlternatives⟩
  | .array (first :: rest) => do
    let selector ← ofJson first
    let selectors ← ofItems rest
    return .alternatives (selector :: selectors)
  | .null => .error ⟨Json.null.compact, .wrongShape⟩
  | .bool value => .error ⟨(Json.bool value).compact, .wrongShape⟩
  | .number value => .error ⟨(Json.number value).compact, .wrongShape⟩

/-- The selectors that JSON values denote. -/
def ofItems : List Json → Except SelectorError (List Selector)
  | [] => .ok []
  | item :: rest => do
    let selector ← ofJson item
    let selectors ← ofItems rest
    return selector :: selectors

end

/-- True for a text that is meant as JSON: an object, or an array that begins with an object, an
array or a string. A text in brackets that begins otherwise is a shorthand selector. -/
def looksLikeJson (input : Text) : Bool :=
  match Text.trimStart input with
  | '\x7b' :: _ => true
  | '[' :: rest =>
    match Text.trimStart rest with
    | c :: _ => c == '\x7b' || c == '[' || c == '"'
    | [] => false
  | _ => false

/-- The selector of a text that may be JSON. -/
def ofInput (input : Text) : Except SelectorError Selector :=
  if looksLikeJson input then
    match Json.parse? (Text.trimStart input) with
    | some value => ofJson value
    | none => .error ⟨input, .invalidJson⟩
  else parse input

mutual

/-- The way the selector is shown. -/
def toText : Selector → Text
  | .predicate clauses => clauses.toText
  | .shorthand short => short.toText
  | .path query => query.toText
  | .alternatives items => itemsText items

/-- Alternatives with bars between them. -/
def itemsText : List Selector → Text
  | [] => []
  | [item] => toText item
  | item :: next :: rest => toText item ++ " || " ++ itemsText (next :: rest)

end

end Selector

end ScreenQuery
