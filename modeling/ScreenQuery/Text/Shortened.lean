import ScreenQuery.Text.Width

/-!
# Shortened text

* `shorten` fits a text into a number of columns on one line: a line break becomes a blank, and a
  text that is too wide is cut, with an ellipsis in the last column.
* Whether a text fits is a matter of its width as a whole; the cut adds up the characters one by
  one, and a control character then takes no column.

`shorten` is `truncate`.
-/

namespace ScreenQuery.Text

/-- The text with blanks for line breaks. -/
def onOneLine (text : Text) : Text := text.map fun c => if c = '\n' ∨ c = '\r' then ' ' else c

/-- The columns of one character in a cut. -/
def cutColumns (c : Char) : Nat := (charWidth? c).getD 0

/-- The characters from the start that together take at most `budget` columns. -/
def takeColumns (budget : Nat) : Text → Text
  | [] => []
  | c :: text =>
    if cutColumns c ≤ budget then c :: takeColumns (budget - cutColumns c) text else []

/-- The mark of a cut. -/
def ellipsis : Char := '…'

/-- A text of at most `room` columns on one line. -/
def shorten (room : Nat) (text : Text) : Text :=
  let line := onOneLine text
  if width line ≤ room then line
  else if room = 0 then []
  else takeColumns (room - 1) line ++ [ellipsis]

end ScreenQuery.Text
