import ScreenQuery.Decimal.Shortest

/-!
# Numbers of JSON

* A number without a fraction or exponent that fits into 64 bits, signed or unsigned, stays an
  integer; every other number, and minus zero, becomes a 64-bit float.
* A float is read in one multiplication or division: its digits are gathered while they fit into
  64 bits, the later ones only move the point, and the result is scaled by a power of ten. A number
  beyond the range of floats denotes nothing.
* A float is written with the fewest digits that lead back to it.

These are the numbers that `from_json` and `from_input` meet in selectors, and that records hold.
-/

namespace ScreenQuery.Json

/-- A number. -/
inductive Number
  | integer (value : Int)
  | float (value : Float)

/-- Numbers are written with a point from 10⁻⁵ up to, but not including, 10¹⁶. -/
def numberLayout : Decimal.Layout := ⟨-5, 15⟩

/-- The text of a number. -/
def Number.toText : Number → Text
  | .integer value => Text.ofInt value
  | .float value => Decimal.ofFloat numberLayout value

namespace Number

/-- A number as it is spelled: its sign, and the digits of its parts. The exponent is a sign and
digits. -/
structure Spelling where
  negative : Bool
  whole : Text
  fraction : Option Text
  exponent : Option (Bool × Text)
  deriving DecidableEq

/-- The value of a digit. -/
def digitValue (c : Char) : Nat := (Text.digit? c).getD 0

/-- Digits gathered into a number of at most 64 bits, and the digits that no longer fit. -/
def gather (significand : Nat) : Text → Nat × Text
  | [] => (significand, [])
  | c :: rest =>
    if significand * 10 + digitValue c ≤ Text.uint64Limit then
      gather (significand * 10 + digitValue c) rest
    else (significand, c :: rest)

/-- The largest power of ten that a float can be scaled by in one step. -/
def maxScale : Nat := 308

/-- A power of ten as a float. -/
def power (n : Nat) : Float := Float.ofScientific 1 false n

/-- `value` divided by `10 ^ down`, at most 308 powers at a time. -/
def scaleDown (value : Float) (down : Nat) : Float :=
  if down ≤ maxScale then value / power down
  else if value == 0 then value
  else scaleDown (value / power maxScale) (down - maxScale)
termination_by down
decreasing_by simp only [maxScale] at *; omega

/-- The float `significand * 10 ^ exponent`; nothing when it is too large. -/
def scaled? (significand : Nat) (exponent : Int) : Option Float :=
  let value := (UInt64.ofNat significand).toFloat
  if exponent < 0 then some (scaleDown value exponent.natAbs)
  else if exponent ≤ maxScale then
    let result := value * power exponent.toNat
    if result.isInf then none else some result
  else if significand = 0 then some value
  else none

/-- The largest exponent that is read digit by digit. -/
def maxExponent : Nat := 2147483647

/-- The float with a significand, a place of its point and a spelled exponent. -/
def withExponent? (significand : Nat) (point : Int) : Option (Bool × Text) → Option Float
  | none => scaled? significand point
  | some (negative, digits) =>
    let exponent := Text.digitsValue digits
    if maxExponent < exponent then
      if significand ≠ 0 ∧ !negative then none else some 0
    else scaled? significand (if negative then point - exponent else point + exponent)

/-- The largest magnitude of a negative integer of 64 bits. -/
def maxNegative : Nat := 9223372036854775808

/-- The number that a spelling denotes. -/
def ofSpelling? (spelling : Spelling) : Option Number :=
  let (significand, surplus) := gather 0 spelling.whole
  let signed := fun (value : Float) => Number.float (if spelling.negative then -value else value)
  match spelling.fraction, spelling.exponent, surplus with
  | none, none, [] =>
    if !spelling.negative then some (.integer significand)
    else if significand = 0 ∨ maxNegative < significand then
      some (signed (UInt64.ofNat significand).toFloat)
    else some (.integer (-(significand : Int)))
  | _, _, _ =>
    let (significand, unused) := gather significand (spelling.fraction.getD [])
    let taken := (spelling.fraction.getD []).length - unused.length
    (withExponent? significand ((surplus.length : Int) - taken) spelling.exponent).map signed

end Number

end ScreenQuery.Json
