import ScreenQuery.Geometry
import ScreenQuery.Proofs.Text.Numeral
import ScreenQuery.Proofs.Text.Parts
import Mathlib.Algebra.Ring.Int.Defs

/-!
# Rectangles and their centres

* Between two edges in order the distance is what it should be, up to the largest 32-bit number, and
  the midpoint lies on or behind the near edge and before the far one (`midpoint_bounds`).
* So the centre of a rectangle that covers some area is a place of the rectangle
  (`Bounds.covers_center`).
* Different rectangles are written differently (`Bounds.toText_inj`).
-/

namespace ScreenQuery

/-! ## Edges -/

section Edges

variable {near far : Int32} (h : near ≤ far)

include h

/-- The distance of two edges in order. -/
theorem toInt_clampedSub :
    (clampedSub far near).toInt = min (2 ^ 31 - 1) (far.toInt - near.toInt) := by
  have hOrder := Int32.le_iff_toInt_le.mp h
  unfold clampedSub
  rw [Int32.toInt_maxValue, Int32.toInt_minValue, Int32.toInt_ofInt_of_le (by omega) (by omega)]
  omega

theorem clampedSub_pos_iff : 0 < clampedSub far near ↔ near < far := by
  rw [Int32.lt_iff_toInt_lt, Int32.lt_iff_toInt_lt, toInt_clampedSub h, Int32.toInt_zero]
  omega

theorem clampedSub_ne_zero_iff : clampedSub far near ≠ 0 ↔ 0 < clampedSub far near := by
  have hOrder := Int32.le_iff_toInt_le.mp h
  rw [Ne, ← Int32.toInt_inj, Int32.lt_iff_toInt_lt, toInt_clampedSub h, Int32.toInt_zero]
  omega

theorem toInt_half : (clampedSub far near / 2).toInt = (clampedSub far near).toInt / 2 := by
  have hOrder := Int32.le_iff_toInt_le.mp h
  have hDistance := toInt_clampedSub h
  rw [Int32.toInt_div_of_ne_right _ _ (by decide), show (2 : Int32).toInt = 2 from rfl,
    Int.tdiv_eq_ediv_of_nonneg (by omega)]

theorem toInt_midpoint :
    (near + clampedSub far near / 2).toInt = near.toInt + (clampedSub far near).toInt / 2 := by
  have hOrder := Int32.le_iff_toInt_le.mp h
  have hDistance := toInt_clampedSub h
  have hFar := far.toInt_lt
  have hNear := near.le_toInt
  rw [Int32.toInt_add, toInt_half h, Int.bmod_eq_of_le (by omega) (by omega)]

end Edges

/-- The midpoint of two different edges lies on or behind the near one, and before the far one. -/
theorem midpoint_bounds {near far : Int32} (h : near < far) :
    near ≤ near + clampedSub far near / 2 ∧ near + clampedSub far near / 2 < far := by
  have hLe : near ≤ far := Int32.le_of_lt h
  have hOrder := Int32.lt_iff_toInt_lt.mp h
  have hDistance := toInt_clampedSub hLe
  rw [Int32.le_iff_toInt_le, Int32.lt_iff_toInt_lt, toInt_midpoint hLe]
  omega

namespace Bounds

/-! ## Places of a rectangle -/

/-- The far edges are at or beyond the near ones. -/
structure Proper (b : Bounds) : Prop where
  x_le : b.x1 ≤ b.x2
  y_le : b.y1 ≤ b.y2

/-- The place lies in the rectangle: on or behind the near edges, and before the far ones. -/
structure Covers (b : Bounds) (spot : Point) : Prop where
  x1_le : b.x1 ≤ spot.x
  lt_x2 : spot.x < b.x2
  y1_le : b.y1 ≤ spot.y
  lt_y2 : spot.y < b.y2

theorem proper_zero : zero.Proper := ⟨Int32.le_refl _, Int32.le_refl _⟩

theorem le_max_near (far near : Int32) : near ≤ max far near := by
  show near ≤ if far ≤ near then near else far
  split
  · exact Int32.le_refl near
  · rename_i h
    exact Int32.le_of_lt (Int32.not_le.mp h)

theorem proper_of (x1 y1 x2 y2 : Int32) : (of x1 y1 x2 y2).Proper :=
  ⟨le_max_near x2 x1, le_max_near y2 y1⟩

theorem proper_of_parse? {raw : Text} {b : Bounds} (h : parse? raw = some b) : b.Proper := by
  unfold parse? at h
  simp only [Option.bind_eq_bind, Option.bind_eq_some_iff, Option.pure_def, Option.some.injEq,
    Prod.exists] at h
  obtain ⟨-, -, -, -, -, -, -, x1, y1, -, x2, y2, -, rfl⟩ := h
  exact proper_of x1 y1 x2 y2

theorem isEmpty_eq_false_iff {b : Bounds} (h : b.Proper) :
    b.isEmpty = false ↔ 0 < b.width ∧ 0 < b.height := by
  unfold isEmpty
  rw [Bool.or_eq_false_iff, beq_eq_false_iff_ne, beq_eq_false_iff_ne]
  exact and_congr (clampedSub_ne_zero_iff h.x_le) (clampedSub_ne_zero_iff h.y_le)

/-- **The centre of a rectangle that covers some area lies in it.** -/
theorem covers_center {b : Bounds} (h : b.Proper) (hWidth : 0 < b.width) (hHeight : 0 < b.height) :
    b.Covers b.center := by
  have hx := midpoint_bounds ((clampedSub_pos_iff h.x_le).mp hWidth)
  have hy := midpoint_bounds ((clampedSub_pos_iff h.y_le).mp hHeight)
  exact ⟨hx.1, hx.2, hy.1, hy.2⟩

/-! ## The encoding -/

theorem toText_eq (b : Bounds) :
    b.toText = '[' :: (Text.ofInt b.x1.toInt ++ ',' :: (Text.ofInt b.y1.toInt ++ ']' :: '[' ::
      (Text.ofInt b.x2.toInt ++ ',' :: (Text.ofInt b.y2.toInt ++ [']'])))) := by
  unfold toText
  simp only [List.append_assoc]
  rfl

theorem not_mem_ofInt {c : Char} (i : Int) (hSign : c ≠ '-') (hDigit : c.isDigit = false) :
    c ∉ Text.ofInt i := by
  intro h
  rcases Text.mem_ofInt h with rfl | hc
  · exact hSign rfl
  · rw [hDigit] at hc
    cases hc

/-- **Different rectangles are written differently.** -/
theorem toText_inj {a b : Bounds} : a.toText = b.toText ↔ a = b := by
  refine ⟨fun h => ?_, congrArg toText⟩
  have hComma := fun i => not_mem_ofInt (c := ',') i (by decide) (by decide)
  have hClose := fun i => not_mem_ofInt (c := ']') i (by decide) (by decide)
  rw [toText_eq, toText_eq] at h
  obtain ⟨hx1, h⟩ := (Text.append_cons_inj (hComma _) (hComma _)).mp (List.cons.inj h).2
  obtain ⟨hy1, h⟩ := (Text.append_cons_inj (hClose _) (hClose _)).mp h
  obtain ⟨hx2, h⟩ := (Text.append_cons_inj (hComma _) (hComma _)).mp (List.cons.inj h).2
  obtain ⟨hy2, -⟩ := (Text.append_cons_inj (hClose _) (hClose _)).mp h
  rw [Text.ofInt_inj, Int32.toInt_inj] at hx1 hy1 hx2 hy2
  cases a
  cases b
  rw [mk.injEq]
  exact ⟨hx1, hy1, hx2, hy2⟩

end Bounds

end ScreenQuery
