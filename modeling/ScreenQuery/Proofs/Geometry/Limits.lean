import ScreenQuery.Proofs.Geometry
import Mathlib.Order.Defs.Unbundled

/-!
# Rectangles at the limits of 32 bits

The size and the centre of a rectangle are computed in 32 bits, and the difference of two edges need
not fit into them. Measured in integers, nothing is lost but that: the distance stops at the largest
number, no step from there to the middle leaves the 32 bits, and the middle is the exact one
whenever the distance fits.

* `Measured` says so of one direction. It is proved once, of two edges in order (`measured_edges`),
  and then holds across and down.
* A rectangle contains another when it reaches at least as far in all four directions. That is a
  partial order, and what lies between the edges of the inner one lies between those of the outer.
* `Bounds.lawful_and_ordered` is both, for the rectangles with any four edges whatsoever.

About `new`, `width`, `height`, `center`, `is_empty` and `contains` of `Bounds`.
-/

namespace ScreenQuery

/-! ## One direction -/

/-- What the distance and the middle of two edges are in integers. -/
structure Measured (near far distance middle : Int32) : Prop where
  distance_nonneg : 0 ≤ distance
  /-- The distance is held at the largest number. -/
  distance_eq : distance.toInt = min Int32.maxValue.toInt (far.toInt - near.toInt)
  /-- The distance is halved, and its half added to the near edge, within 32 bits. -/
  no_overflow : distance.toBitVec.sdivOverflow 2 = false ∧
    near.toBitVec.saddOverflow (distance / 2).toBitVec = false
  near_le : near ≤ middle
  le_far : middle ≤ far
  lt_far : near < far → middle < far
  /-- The half is rounded down. -/
  middle_eq : far.toInt - near.toInt ≤ Int32.maxValue.toInt →
    middle.toInt = near.toInt + (far.toInt - near.toInt) / 2

section Edges

variable {near far : Int32} (h : near ≤ far)

include h

theorem clampedSub_eq_zero_iff : clampedSub far near = 0 ↔ near = far := by
  have hOrder := Int32.le_iff_toInt_le.mp h
  rw [← Int32.toInt_inj, ← Int32.toInt_inj, toInt_clampedSub h, Int32.toInt_zero]
  omega

/-- **Two edges in order are measured without an overflow.** -/
theorem measured_edges :
    Measured near far (clampedSub far near) (near + clampedSub far near / 2) := by
  have hOrder := Int32.le_iff_toInt_le.mp h
  have hFar := far.toInt_lt
  have hNear := near.le_toInt
  have hDistance := toInt_clampedSub h
  have hMiddle := toInt_midpoint h
  constructor
  case distance_nonneg =>
    rw [Int32.le_iff_toInt_le, hDistance, Int32.toInt_zero]
    omega
  case distance_eq => rw [hDistance, Int32.toInt_maxValue]
  case no_overflow =>
    constructor
    · rw [BitVec.sdivOverflow, Bool.or_eq_false_iff, decide_eq_false_iff_not,
        decide_eq_false_iff_not, Int32.toInt_toBitVec, show (2 : BitVec 32).toInt = 2 from rfl]
      omega
    · rw [BitVec.saddOverflow, Bool.or_eq_false_iff, decide_eq_false_iff_not,
        decide_eq_false_iff_not, Int32.toInt_toBitVec, Int32.toInt_toBitVec, toInt_half h]
      omega
  case near_le =>
    rw [Int32.le_iff_toInt_le, hMiddle]
    omega
  case le_far =>
    rw [Int32.le_iff_toInt_le, hMiddle]
    omega
  case lt_far => exact fun hLt => (midpoint_bounds hLt).2
  case middle_eq =>
    intro hFits
    rw [Int32.toInt_maxValue] at hFits
    rw [hMiddle, hDistance]
    omega

end Edges

namespace Bounds

/-! ## Rectangles in rectangles -/

/-- The place lies within or on the edges. -/
structure Holds (b : Bounds) (spot : Point) : Prop where
  x1_le : b.x1 ≤ spot.x
  le_x2 : spot.x ≤ b.x2
  y1_le : b.y1 ≤ spot.y
  le_y2 : spot.y ≤ b.y2

variable {a b c : Bounds} {spot : Point}

theorem contains_iff : b.contains a = true ↔
    (b.x1 ≤ a.x1 ∧ b.y1 ≤ a.y1) ∧ a.x2 ≤ b.x2 ∧ a.y2 ≤ b.y2 := by
  unfold contains
  simp only [Bool.and_eq_true, decide_eq_true_eq, and_assoc]

/-- What lies between the edges of a rectangle lies between those of one around it. -/
theorem Holds.mono (h : a.Holds spot) (hContains : b.contains a = true) : b.Holds spot := by
  obtain ⟨⟨hx1, hy1⟩, hx2, hy2⟩ := contains_iff.mp hContains
  exact ⟨Int32.le_trans hx1 h.x1_le, Int32.le_trans h.le_x2 hx2, Int32.le_trans hy1 h.y1_le,
    Int32.le_trans h.le_y2 hy2⟩

theorem contains_self (b : Bounds) : b.contains b = true :=
  contains_iff.mpr ⟨⟨Int32.le_refl _, Int32.le_refl _⟩, Int32.le_refl _, Int32.le_refl _⟩

theorem contains_trans (hab : b.contains a = true) (hbc : c.contains b = true) :
    c.contains a = true := by
  obtain ⟨⟨hx1, hy1⟩, hx2, hy2⟩ := contains_iff.mp hab
  obtain ⟨⟨hx1', hy1'⟩, hx2', hy2'⟩ := contains_iff.mp hbc
  exact contains_iff.mpr ⟨⟨Int32.le_trans hx1' hx1, Int32.le_trans hy1' hy1⟩,
    Int32.le_trans hx2 hx2', Int32.le_trans hy2 hy2'⟩

/-- Two rectangles that contain each other have the same edges. -/
theorem contains_antisymm (hab : b.contains a = true) (hba : a.contains b = true) : a = b := by
  obtain ⟨⟨hx1, hy1⟩, hx2, hy2⟩ := contains_iff.mp hab
  obtain ⟨⟨hx1', hy1'⟩, hx2', hy2'⟩ := contains_iff.mp hba
  cases a
  cases b
  rw [mk.injEq]
  exact ⟨Int32.le_antisymm hx1' hx1, Int32.le_antisymm hy1' hy1, Int32.le_antisymm hx2 hx2',
    Int32.le_antisymm hy2 hy2'⟩

/-! ## Any four edges -/

/-- The measures of a rectangle are those of its edges, and its centre stays in every rectangle
around it. -/
structure Lawful (b : Bounds) : Prop where
  across : Measured b.x1 b.x2 b.width b.center.x
  down : Measured b.y1 b.y2 b.height b.center.y
  isEmpty_iff : b.isEmpty = true ↔ b.x1 = b.x2 ∨ b.y1 = b.y2
  holds_center : ∀ outer : Bounds, outer.contains b = true → outer.Holds b.center

theorem Proper.lawful (h : b.Proper) : b.Lawful := by
  have hAcross : Measured b.x1 b.x2 b.width b.center.x := measured_edges h.x_le
  have hDown : Measured b.y1 b.y2 b.height b.center.y := measured_edges h.y_le
  constructor
  case across => exact hAcross
  case down => exact hDown
  case isEmpty_iff =>
    unfold isEmpty
    rw [Bool.or_eq_true, beq_iff_eq, beq_iff_eq]
    exact or_congr (clampedSub_eq_zero_iff h.x_le) (clampedSub_eq_zero_iff h.y_le)
  case holds_center =>
    have hSelf : b.Holds b.center := ⟨hAcross.near_le, hAcross.le_far, hDown.near_le, hDown.le_far⟩
    exact fun outer hContains => hSelf.mono hContains

/-- **The geometry of rectangles is safe at the limits of 32 bits.** Whatever four edges a rectangle
is made of, its size and centre are computed without an overflow and are what they are in integers,
it is empty just when two of its edges meet, and its centre lies in every rectangle that contains
it. To be contained is a partial order. -/
theorem lawful_and_ordered :
    (∀ x1 y1 x2 y2 : Int32, (of x1 y1 x2 y2).Lawful) ∧
      IsPartialOrder Bounds fun inner outer => outer.contains inner = true where
  left x1 y1 x2 y2 := (proper_of x1 y1 x2 y2).lawful
  right := {
    refl := contains_self
    trans := fun _ _ _ => contains_trans
    antisymm := fun _ _ => contains_antisymm }

/-- The distance between the outermost edges does not fit, so the middle is not the exact one. -/
example : (of Int32.minValue 0 Int32.maxValue 0).center.x = -1073741825 := by decide

end Bounds

end ScreenQuery
