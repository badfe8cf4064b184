import ScreenQuery.Text.Basic

/-!
# Decimal numerals

* `ofNat` and `ofInt` write a number in decimal, without leading zeros or a plus sign.
* `natUpTo?` and `intWithin?` read one: a sign, then one or more ASCII digits and nothing else,
  not even blanks. A number outside the given range is refused, leading zeros are not.

These are the numbers in rectangles, dumps, arguments and the environment, as they are read and
shown.
-/

namespace ScreenQuery.Text

/-- A natural number in decimal. -/
def ofNat (n : Nat) : Text := Nat.toDigits 10 n

/-- An integer in decimal. -/
def ofInt (i : Int) : Text := if i < 0 then '-' :: ofNat i.natAbs else ofNat i.natAbs

/-- The number that a run of decimal digits denotes, most significant first. -/
def digitsValue (digits : Text) : Nat :=
  digits.foldl (fun value c => value * 10 + (c.toNat - '0'.toNat)) 0

/-- The number that a nonempty run of ASCII digits denotes. -/
def digits? (text : Text) : Option Nat :=
  if text.isEmpty || !text.all isDigit then none else some (digitsValue text)

/-- A natural number of at most `limit`, with an optional plus sign. -/
def natUpTo? (limit : Nat) (text : Text) : Option Nat :=
  let unsigned := match text with
    | '+' :: rest => rest
    | _ => text
  (digits? unsigned).filter (· ≤ limit)

/-- An integer from `low` to `high`, with an optional sign. -/
def intWithin? (low high : Int) (text : Text) : Option Int :=
  let value := match text with
    | '+' :: rest => (digits? rest).map Int.ofNat
    | '-' :: rest => (digits? rest).map fun n => -Int.ofNat n
    | _ => (digits? text).map Int.ofNat
  value.filter fun i => low ≤ i && i ≤ high

/-- A 32-bit integer with an optional sign. -/
def int32? (text : Text) : Option Int32 :=
  (intWithin? Int32.minValue.toInt Int32.maxValue.toInt text).map Int32.ofInt

/-- An unsigned 32-bit number. -/
def uint32? (text : Text) : Option UInt32 :=
  (natUpTo? (UInt32.size - 1) text).map UInt32.ofNat

/-- The largest number of an unsigned 64-bit field. -/
def uint64Limit : Nat := UInt64.size - 1

end ScreenQuery.Text
