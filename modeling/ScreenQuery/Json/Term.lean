import ScreenQuery.Json.Basic
import ScreenQuery.Json.Token

/-!
# Reading JSON

* A `Term` is a JSON text as it was read: repeated keys are all there, in their order, and a string
  or a number may denote nothing.
* `Term.read?` keeps the containers that are not yet complete in a list (`Frame`), so it takes one
  token at a time.
* `Json.parse?` is the value of a text. Strings and numbers must denote something, containers may
  be nested at most 127 deep, and of a repeated key the last field counts.

`Json.parse?` is the reader behind `from_input`; `Term.read?` is the one behind records, which must
see repeated keys. Out of scope: where in the text a fault is.
-/

namespace ScreenQuery.Json

/-- A JSON text as it was read. -/
inductive Term
  | null
  | bool (value : Bool)
  | number (value : Option Number)
  | string (value : Option Text)
  | array (items : List Term)
  | object (fields : List (Option Text × Term))

/-- A container that is not yet complete, its items reversed. -/
inductive Frame
  | array (items : List Term)
  | object (fields : List (Option Text × Term))
  | field (fields : List (Option Text × Term)) (key : Option Text)

/-- What may come next. -/
inductive Phase
  | item | firstItem | key | firstKey | colon | separator

/-- The state of reading: the incomplete containers, innermost first, and what may come next. After
the last token of a text nothing is incomplete and `done` is its term. -/
structure Reader where
  frames : List Frame
  phase : Phase
  done : Option Term

/-- The state before the first token. -/
def Reader.start : Reader := ⟨[], .item, none⟩

/-- A complete term goes into the innermost container. -/
def Reader.receive (term : Term) (frames : List Frame) : Option Reader :=
  match frames with
  | [] => some ⟨[], .separator, some term⟩
  | .array items :: outer => some ⟨.array (term :: items) :: outer, .separator, none⟩
  | .field fields key :: outer => some ⟨.object ((key, term) :: fields) :: outer, .separator, none⟩
  | .object _ :: _ => none

/-- The term that a word is. -/
def wordTerm? (name : Text) : Option Term :=
  if name = "null" then some .null
  else if name = "true" then some (.bool true)
  else if name = "false" then some (.bool false)
  else none

/-- A token where an item may stand. -/
def Reader.item (frames : List Frame) : Token → Option Reader
  | .openArray => some ⟨.array [] :: frames, .firstItem, none⟩
  | .openObject => some ⟨.object [] :: frames, .firstKey, none⟩
  | .number value => receive (.number value) frames
  | .string value => receive (.string value) frames
  | .word name => do receive (← wordTerm? name) frames
  | _ => none

/-- The state after one more token. -/
def Reader.step (reader : Reader) (token : Token) : Option Reader :=
  match reader.phase, reader.frames, token with
  | .firstItem, .array [] :: outer, .closeArray => receive (.array []) outer
  | .firstKey, .object [] :: outer, .closeObject => receive (.object []) outer
  | .item, frames, token => item frames token
  | .firstItem, frames, token => item frames token
  | .key, .object fields :: outer, .string key => some ⟨.field fields key :: outer, .colon, none⟩
  | .firstKey, .object fields :: outer, .string key =>
    some ⟨.field fields key :: outer, .colon, none⟩
  | .colon, frames, .colon => some ⟨frames, .item, none⟩
  | .separator, .array items :: outer, .comma => some ⟨.array items :: outer, .item, none⟩
  | .separator, .array items :: outer, .closeArray => receive (.array items.reverse) outer
  | .separator, .object fields :: outer, .comma => some ⟨.object fields :: outer, .key, none⟩
  | .separator, .object fields :: outer, .closeObject => receive (.object fields.reverse) outer
  | _, _, _ => none

/-- The term of a text; containers may be nested at most `limit` deep. -/
def Term.read? (limit : Nat) (text : Text) : Option Term := do
  let tokens ← Token.readAll text
  let step := fun (reader : Reader) token => do
    let next ← reader.step token
    if next.frames.length ≤ limit then some next else none
  let reader ← tokens.foldlM step .start
  reader.done

mutual

/-- The value of a term, if its strings and numbers denote something. -/
def Term.toJson? : Term → Option Json
  | .null => some .null
  | .bool value => some (.bool value)
  | .number value => value.map .number
  | .string value => value.map .string
  | .array items => (itemsToJson? items).map .array
  | .object fields => (fieldsToJson? fields).map fun fields => .object (Dictionary.ofList fields)

/-- The values of some terms. -/
def itemsToJson? : List Term → Option (List Json)
  | [] => some []
  | item :: rest => do
    let value ← Term.toJson? item
    let values ← itemsToJson? rest
    return value :: values

/-- The fields of an object in their order. -/
def fieldsToJson? : List (Option Text × Term) → Option (List (Text × Json))
  | [] => some []
  | (key, term) :: rest => do
    let key ← key
    let value ← Term.toJson? term
    let fields ← fieldsToJson? rest
    return (key, value) :: fields

end

/-- The deepest nesting of a value. -/
def maxDepth : Nat := 127

/-- The value of a JSON text. -/
def parse? (text : Text) : Option Json := do (← Term.read? maxDepth text).toJson?

end ScreenQuery.Json
