/-!
# Text

* `Text` is a list of characters: a cut, a search or a test on it is an operation on lists.
* `splitFirst`, `dropPrefix?`, `dropSuffix?` and `contains` find a part of a text; `splitFirst`
  takes the first occurrence, so the part before it holds no earlier one.
* Functions that walk a whole text keep what they have read in an accumulator, because a dump may
  be long.
-/

namespace ScreenQuery

/-- Text is a list of characters. -/
abbrev Text := List Char

/-- A string literal may stand where text is expected. -/
instance : Coe String Text := ⟨String.toList⟩

namespace Text

/-! ## Parts of a text -/

/-- What follows `lead` at the start of a text. -/
def dropPrefix? : (lead text : Text) → Option Text
  | [], text => some text
  | _ :: _, [] => none
  | a :: lead, b :: text => if a = b then dropPrefix? lead text else none

/-- What precedes `tail` at the end of a text. -/
def dropSuffix? (tail text : Text) : Option Text :=
  (dropPrefix? tail.reverse text.reverse).map List.reverse

/-- True when `text` begins with `lead`. -/
def startsWith (lead text : Text) : Bool := (dropPrefix? lead text).isSome

/-- True when `text` ends with `tail`. -/
def endsWith (tail text : Text) : Bool := (dropSuffix? tail text).isSome

/-- True when `part` occurs somewhere in a text. -/
def contains (part : Text) : Text → Bool
  | [] => part.isEmpty
  | c :: text => startsWith part (c :: text) || contains part text

/-- The search behind `splitFirst`: `before` holds, reversed, what has been passed over. -/
def splitFirstFrom (mark before : Text) : Text → Option (Text × Text)
  | [] => if mark.isEmpty then some (before.reverse, []) else none
  | c :: text =>
    match dropPrefix? mark (c :: text) with
    | some after => some (before.reverse, after)
    | none => splitFirstFrom mark (c :: before) text

/-- The texts before and after the first occurrence of `mark`. -/
def splitFirst (mark text : Text) : Option (Text × Text) := splitFirstFrom mark [] text

/-- What follows the last `c`, or the whole text when it holds none. -/
def afterLast (c : Char) (text : Text) : Text :=
  (text.reverse.takeWhile fun d => d != c).reverse

/-- The first line, without its line feed. -/
def firstLine (text : Text) : Text := text.takeWhile fun c => c != '\n'

/-- The texts in order, with `mark` between neighbours. -/
def joinWith (mark : Text) (texts : List Text) : Text := mark.intercalate texts

/-! ## Character classes of the C locale -/

/-- The value of an ASCII digit. -/
def digit? (c : Char) : Option Nat :=
  if '0' ≤ c ∧ c ≤ '9' then some (c.toNat - '0'.toNat) else none

/-- True for `0` to `9`. -/
def isDigit (c : Char) : Bool := (digit? c).isSome

/-- The value of an ASCII hexadecimal digit of either case. -/
def hexDigit? (c : Char) : Option Nat :=
  if '0' ≤ c ∧ c ≤ '9' then some (c.toNat - '0'.toNat)
  else if 'a' ≤ c ∧ c ≤ 'f' then some (c.toNat - 'a'.toNat + 10)
  else if 'A' ≤ c ∧ c ≤ 'F' then some (c.toNat - 'A'.toNat + 10)
  else none

/-- True for an ASCII hexadecimal digit of either case. -/
def isHexDigit (c : Char) : Bool := (hexDigit? c).isSome

/-- A control character: U+0000 to U+001F and U+007F to U+009F. -/
def isControl (c : Char) : Bool := c.toNat < 0x20 || (0x7f ≤ c.toNat && c.toNat < 0xa0)

/-- An ASCII capital becomes the small letter; every other character stays. -/
def asciiLower (c : Char) : Char :=
  if 'A' ≤ c ∧ c ≤ 'Z' then Char.ofNat (c.toNat + 32) else c

/-- The hexadecimal digits of a number, in small letters. -/
def ofHex (n : Nat) : Text := Nat.toDigits 16 n

/-- The hexadecimal digits of a number, filled up with zeros to `width`. -/
def ofHexPadded (width n : Nat) : Text :=
  List.replicate (width - (ofHex n).length) '0' ++ ofHex n

end Text

end ScreenQuery
