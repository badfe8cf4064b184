import ScreenQuery.Text.Numeral

/-!
# Shortest decimals

* `Binary` is a positive number `mantissa * 2 ^ exponent` as a 64-bit float holds it, and
  `Binary.Rounds` are the numbers that round to it: between the midpoints to its neighbours, the
  midpoints included when the mantissa is even.
* `Binary.shortest` is the decimal with the fewest digits among them, and of those the nearest.
  For a grid of decimals it looks at the two neighbours of the number on that grid: if any point of
  the grid rounds to the number, one of these two does.
* All arithmetic is exact, in fractions of natural numbers.

This is how reports in JSON write floats.
-/

namespace ScreenQuery.Decimal

/-- A fraction of natural numbers. -/
structure Fraction where
  num : Nat
  den : Nat

/-- The fraction times a power of two. -/
def Fraction.scale2 (f : Fraction) (e : Int) : Fraction :=
  if e < 0 then ⟨f.num, f.den * Nat.pow 2 e.natAbs⟩ else ⟨f.num * Nat.pow 2 e.natAbs, f.den⟩

/-- The fraction times a power of ten. -/
def Fraction.scale10 (f : Fraction) (e : Int) : Fraction :=
  if e < 0 then ⟨f.num, f.den * Nat.pow 10 e.natAbs⟩ else ⟨f.num * Nat.pow 10 e.natAbs, f.den⟩

/-- The order of fractions. -/
def Fraction.le (a b : Fraction) : Bool := a.num * b.den ≤ b.num * a.den

/-- The strict order of fractions. -/
def Fraction.lt (a b : Fraction) : Bool := a.num * b.den < b.num * a.den

/-- The distance between two fractions. -/
def Fraction.distance (a b : Fraction) : Fraction :=
  ⟨((a.num * b.den : Int) - b.num * a.den).natAbs, a.den * b.den⟩

/-- A decimal `digits * 10 ^ exponent`. -/
structure Scaled where
  digits : Nat
  exponent : Int
  deriving DecidableEq

/-- The decimal as a fraction. -/
def Scaled.value (d : Scaled) : Fraction := Fraction.scale10 ⟨d.digits, 1⟩ d.exponent

/-- A positive number as a 64-bit float holds it. -/
structure Binary where
  mantissa : Nat
  exponent : Int

namespace Binary

/-- The exponent of the smallest floats. -/
def minExponent : Int := -1074

/-- The smallest mantissa of a float that is not among the smallest, two to the power 52. -/
def leastNormal : Nat := 4503599627370496

/-- The number itself. -/
def value (b : Binary) : Fraction := Fraction.scale2 ⟨b.mantissa, 1⟩ b.exponent

/-- The midpoint to the next number above. -/
def high (b : Binary) : Fraction := Fraction.scale2 ⟨2 * b.mantissa + 1, 2⟩ b.exponent

/-- The midpoint to the next number below, which is nearer where the exponent changes. -/
def low (b : Binary) : Fraction :=
  if b.mantissa = leastNormal ∧ minExponent < b.exponent then
    Fraction.scale2 ⟨4 * b.mantissa - 1, 4⟩ b.exponent
  else Fraction.scale2 ⟨2 * b.mantissa - 1, 2⟩ b.exponent

/-- True for the numbers that round to `b`. -/
def rounds (b : Binary) (f : Fraction) : Bool :=
  if b.mantissa % 2 = 0 then b.low.le f && f.le b.high else b.low.lt f && f.lt b.high

/-- The power of ten of the first digit of a positive fraction: the number of digits before the
point, less one, or else what moves the first digit before the point. -/
def magnitude (f : Fraction) : Int :=
  if f.den ≤ f.num then ((Nat.toDigits 10 (f.num / f.den)).length : Int) - 1
  else
    let shift := (Nat.toDigits 10 (f.den / f.num)).length
    if f.den ≤ f.num * Nat.pow 10 (shift - 1) then -((shift - 1 : Nat) : Int) else -(shift : Int)

/-- The nearest multiple of `10 ^ exponent` that rounds to `b`, if there is one. -/
def onGrid? (b : Binary) (exponent : Int) : Option Scaled :=
  let scaled := b.value.scale10 (-exponent)
  let below : Scaled := ⟨scaled.num / scaled.den, exponent⟩
  let above : Scaled := ⟨scaled.num / scaled.den + 1, exponent⟩
  match b.rounds below.value, b.rounds above.value with
  | true, true =>
    let gapBelow := Fraction.distance b.value below.value
    let gapAbove := Fraction.distance b.value above.value
    if gapBelow.lt gapAbove then some below
    else if gapAbove.lt gapBelow then some above
    else if below.digits % 2 = 0 then some below else some above
  | true, false => some below
  | false, true => some above
  | false, false => none

/-- The decimal with the fewest digits, at most seventeen, that rounds to `b`. -/
def shortest (b : Binary) : Scaled :=
  let first := magnitude b.value
  ((List.range 17).findSome? fun (n : Nat) => b.onGrid? (first - n)).getD ⟨0, 0⟩

end Binary

/-- The digits of a decimal without the zeros at their end, and the power of ten of the last. -/
def trimZeros (digits : Text) (exponent : Int) : Text × Int :=
  let zeros := (digits.reverse.takeWhile fun c => c == '0').length
  (digits.take (digits.length - zeros), exponent + zeros)

/-- How the text of a number is laid out. -/
structure Layout where
  /-- The least power of ten of the first digit that is written with a point. -/
  pointFrom : Int
  /-- The greatest power of ten of the first digit that is written with a point. -/
  pointTo : Int

/-- A number by its digits and the power of ten of its first digit: with a point in the range of
the layout, and otherwise with an exponent that always has a sign. -/
def Layout.write (layout : Layout) (digits : Text) (first : Int) : Text :=
  if layout.pointFrom ≤ first ∧ first ≤ layout.pointTo then
    if first < 0 then "0." ++ List.replicate (first.natAbs - 1) '0' ++ digits
    else
      let places := first.toNat + 1
      if digits.length ≤ places then
        digits ++ List.replicate (places - digits.length) '0' ++ ".0"
      else digits.take places ++ "." ++ digits.drop places
  else
    let fraction := match digits.drop 1 with
      | [] => []
      | rest => '.' :: rest
    digits.take 1 ++ fraction ++ "e" ++ (if first < 0 then "-" else "+") ++
      Text.ofNat first.natAbs

/-- The text of a finite float: its sign, and its shortest decimal in a layout. -/
def ofFloat (layout : Layout) (x : Float) : Text :=
  let bits := x.toBits.toNat
  let sign : Text := if bits / (Binary.leastNormal * 2048) = 1 then "-" else []
  let biased := bits / Binary.leastNormal % 2048
  let fraction := bits % Binary.leastNormal
  let b : Binary :=
    if biased = 0 then ⟨fraction, Binary.minExponent⟩
    else ⟨fraction + Binary.leastNormal, Binary.minExponent + (biased - 1 : Nat)⟩
  if b.mantissa = 0 then sign ++ "0.0"
  else
    let d := b.shortest
    let (digits, _) := trimZeros (Text.ofNat d.digits) d.exponent
    let first := d.exponent + ((Text.ofNat d.digits).length : Int) - 1
    sign ++ layout.write digits first

end ScreenQuery.Decimal
