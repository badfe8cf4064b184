import ScreenQuery.Json.Number
import ScreenQuery.Text.Dictionary

/-!
# JSON values

* An object is a list of fields in the order in which they are written. Values that were read have
  their fields in the order of the keys, without repetition.
* `Json.compact` writes a value without blanks, `Json.pretty` with two spaces per level and one
  item per line.
* In a string only the quote, the backslash and the characters below U+0020 are escaped.

`Json.pretty` is what `print_json` prints. Out of scope: values that are no JSON, such as infinite
floats.
-/

namespace ScreenQuery

open Json (Number)

/-- A JSON value. -/
inductive Json
  | null
  | bool (value : Bool)
  | number (value : Number)
  | string (value : Text)
  | array (items : List Json)
  | object (fields : List (Text × Json))
  deriving Inhabited

namespace Json

/-- An integer as a value. -/
def ofInt (i : Int) : Json := .number (.integer i)

/-- A natural number as a value. -/
def ofNat (n : Nat) : Json := .number (.integer n)

/-- The field of a value under a key, when the value is an object. -/
def field? : Json → Text → Option Json
  | .object fields, key => (fields.find? fun entry => entry.1 == key).map Prod.snd
  | _, _ => none

/-! ## Strings -/

/-- One character inside a string. -/
def escapeChar (c : Char) : Text :=
  if c = '"' then "\\\""
  else if c = '\\' then "\\\\"
  else if c = '\n' then "\\n"
  else if c = '\r' then "\\r"
  else if c = '\t' then "\\t"
  else if c = '\x08' then "\\b"
  else if c = '\x0c' then "\\f"
  else if c.toNat < 0x20 then "\\u" ++ Text.ofHexPadded 4 c.toNat
  else [c]

/-- A text as a string. -/
def quoted (text : Text) : Text := '"' :: text.flatMap escapeChar ++ ['"']

/-! ## One line -/

mutual

/-- A value without blanks. -/
def compact : Json → Text
  | .null => "null"
  | .bool true => "true"
  | .bool false => "false"
  | .number value => value.toText
  | .string value => quoted value
  | .array items => '[' :: compactItems items ++ [']']
  | .object fields => '\x7b' :: compactFields fields ++ ['\x7d']

/-- Values with commas between them. -/
def compactItems : List Json → Text
  | [] => []
  | [item] => compact item
  | item :: next :: rest => compact item ++ ',' :: compactItems (next :: rest)

/-- Fields with commas between them. -/
def compactFields : List (Text × Json) → Text
  | [] => []
  | [(key, value)] => quoted key ++ ':' :: compact value
  | (key, value) :: next :: rest =>
    quoted key ++ ':' :: compact value ++ ',' :: compactFields (next :: rest)

end

/-! ## Several lines -/

/-- A line break and the indentation of a level. -/
def newline (level : Nat) : Text := '\n' :: List.replicate (2 * level) ' '

mutual

/-- A value at a level of indentation. -/
def prettyAt (level : Nat) : Json → Text
  | .array (item :: rest) =>
    '[' :: newline (level + 1) ++ prettyItems (level + 1) (item :: rest) ++ newline level ++ [']']
  | .object (field :: rest) =>
    '\x7b' :: newline (level + 1) ++ prettyFields (level + 1) (field :: rest) ++
      newline level ++ ['\x7d']
  | .null => "null"
  | .bool true => "true"
  | .bool false => "false"
  | .number value => value.toText
  | .string value => quoted value
  | .array [] => "[]"
  | .object [] => ['\x7b', '\x7d']

/-- Values on lines of their own. -/
def prettyItems (level : Nat) : List Json → Text
  | [] => []
  | [item] => prettyAt level item
  | item :: next :: rest =>
    prettyAt level item ++ ',' :: newline level ++ prettyItems level (next :: rest)

/-- Fields on lines of their own. -/
def prettyFields (level : Nat) : List (Text × Json) → Text
  | [] => []
  | [(key, value)] => quoted key ++ ':' :: ' ' :: prettyAt level value
  | (key, value) :: next :: rest =>
    quoted key ++ ':' :: ' ' :: prettyAt level value ++ ',' :: newline level ++
      prettyFields level (next :: rest)

end

/-- A value with one item per line. -/
def pretty (value : Json) : Text := prettyAt 0 value

end Json

end ScreenQuery
