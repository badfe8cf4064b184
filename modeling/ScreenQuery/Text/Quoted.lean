import ScreenQuery.Text.Property

/-!
# Quoted text

* `quote` writes a text between double quotes so that it can be told from every other: a quote, a
  backslash and the usual controls get a backslash, and a character that shows nothing of itself,
  or attaches to its neighbour, is written by its code point.
* Single quotes stay as they are.

`quote` is how a selector shows the texts that it holds.
-/

namespace ScreenQuery.Text

/-- One character inside double quotes. -/
def quoteChar (c : Char) : Text :=
  if c = '"' then "\\\""
  else if c = '\\' then "\\\\"
  else if c = '\n' then "\\n"
  else if c = '\r' then "\\r"
  else if c = '\t' then "\\t"
  else if c.toNat = 0 then "\\0"
  else if ' ' ≤ c ∧ c ≤ '~' then [c]
  else if graphemeExtend.contains c || isUnprintable c then
    "\\u" ++ ('\x7b' :: ofHex c.toNat) ++ ['\x7d']
  else [c]

/-- A text between double quotes. -/
def quote (text : Text) : Text := '"' :: text.flatMap quoteChar ++ ['"']

end ScreenQuery.Text
