import ScreenQuery.Text.Blank
import ScreenQuery.Text.Numeral

/-!
# Screen geometry

* Coordinates are 32-bit pixels. `Bounds.of` clamps reversed edges, so a rectangle made by it has
  its far edges at or beyond its near ones.
* `Bounds.parse?` reads exactly the encoding `[x1,y1][x2,y2]`, with blanks allowed around it and
  around each number; `Bounds.toText` writes it without blanks.
* Width and height stop at the largest 32-bit number, so the centre stays inside.

`Bounds.of` is `new` of `Bounds`, `parse?` is its `parse` with `parse_pair`, and `contains` is also
`is_within`; the others have the names that they have there.
-/

namespace ScreenQuery

/-- A place on the screen. -/
structure Point where
  x : Int32
  y : Int32
  deriving DecidableEq, Repr

/-- Width and height in pixels. -/
structure Size where
  width : Int32
  height : Int32
  deriving DecidableEq, Repr

/-- A rectangle, by its near and far corners. -/
structure Bounds where
  x1 : Int32
  y1 : Int32
  x2 : Int32
  y2 : Int32
  deriving DecidableEq, Repr

/-- The difference, held at the limits of 32 bits. -/
def clampedSub (a b : Int32) : Int32 :=
  Int32.ofInt (max Int32.minValue.toInt (min Int32.maxValue.toInt (a.toInt - b.toInt)))

namespace Bounds

/-- The rectangle at the origin that covers nothing. -/
def zero : Bounds := ⟨0, 0, 0, 0⟩

/-- The rectangle with these edges; a reversed pair collapses onto the near edge. -/
def of (x1 y1 x2 y2 : Int32) : Bounds := ⟨x1, y1, max x2 x1, max y2 y1⟩

/-- Two integers with a comma between them. -/
def pair? (text : Text) : Option (Int32 × Int32) := do
  let (first, second) ← Text.splitFirst "," text
  let x ← Text.int32? (Text.trim first)
  let y ← Text.int32? (Text.trim second)
  return (x, y)

/-- The rectangle that `[x1,y1][x2,y2]` denotes. -/
def parse? (raw : Text) : Option Bounds := do
  let inside ← Text.dropPrefix? "[" (Text.trim raw)
  let (near, rest) ← Text.splitFirst "][" inside
  let far ← Text.dropSuffix? "]" rest
  let (x1, y1) ← pair? near
  let (x2, y2) ← pair? far
  return of x1 y1 x2 y2

/-- The encoding `[x1,y1][x2,y2]`. -/
def toText (b : Bounds) : Text :=
  "[" ++ Text.ofInt b.x1.toInt ++ "," ++ Text.ofInt b.y1.toInt ++ "][" ++
    Text.ofInt b.x2.toInt ++ "," ++ Text.ofInt b.y2.toInt ++ "]"

/-- The distance between the vertical edges. -/
def width (b : Bounds) : Int32 := clampedSub b.x2 b.x1

/-- The distance between the horizontal edges. -/
def height (b : Bounds) : Int32 := clampedSub b.y2 b.y1

/-- Width and height. -/
def size (b : Bounds) : Size := ⟨b.width, b.height⟩

/-- The midpoint, rounded towards the near corner. -/
def center (b : Bounds) : Point := ⟨b.x1 + b.width / 2, b.y1 + b.height / 2⟩

/-- True when the rectangle covers no area. -/
def isEmpty (b : Bounds) : Bool := b.width == 0 || b.height == 0

/-- True when all edges of `inner` lie within or on `b`. -/
def contains (b inner : Bounds) : Bool :=
  decide (b.x1 ≤ inner.x1) && decide (b.y1 ≤ inner.y1) &&
    decide (inner.x2 ≤ b.x2) && decide (inner.y2 ≤ b.y2)

end Bounds

end ScreenQuery
