import ScreenQuery.Proofs.Dump.Draft
import ScreenQuery.Proofs.Dump.Elements
import ScreenQuery.Proofs.Geometry

/-!
# The rectangles of a dump

Whatever a dump says of the rectangle of an element, the snapshot has one whose far edges are at or
beyond the near ones: it was read, which puts reversed edges in order, or there is none to read and
it is the empty one at the origin. Nothing writes another rectangle (`lasting_proper`), so all
elements of a screen have such rectangles (`proper_parse`). On these, an element that counts as
visible has some width and some height (`Node.isVisible_iff`).
-/

namespace ScreenQuery

/-- Visible to the user, with some width and some height. -/
structure Node.Shown (node : Node) : Prop where
  visible : node.flag .visibleToUser = true
  width_pos : 0 < node.bounds.width
  height_pos : 0 < node.bounds.height

theorem Node.isVisible_iff {node : Node} (h : node.bounds.Proper) :
    node.isVisible = true ↔ node.Shown := by
  unfold isVisible
  rw [Bool.and_eq_true, Bool.not_eq_true', Bounds.isEmpty_eq_false_iff h]
  exact ⟨fun ⟨hVisible, hWidth, hHeight⟩ => ⟨hVisible, hWidth, hHeight⟩,
    fun ⟨hVisible, hWidth, hHeight⟩ => ⟨hVisible, hWidth, hHeight⟩⟩

namespace Dump

/-- All rectangles have their far edges at or beyond the near ones. -/
def AllProper (nodes : Array Node) : Prop :=
  ∀ (i : NodeId) (node : Node), nodes[i]? = some node → node.bounds.Proper

/-! ## Drafts -/

theorem Draft.Applied.proper {draft after : Draft} {name value : Text}
    (h : draft.Applied value name after) (hProper : draft.bounds.Proper) : after.bounds.Proper := by
  cases h with
  | bounds =>
    cases hRead : Bounds.parse? value with
    | none => simpa [hRead] using Bounds.proper_zero
    | some read => simpa [hRead] using Bounds.proper_of_parse? hRead
  | flag | className | resourceId | text | description | package | index | extra => exact hProper

/-! ## Elements -/

theorem lasting_proper : Lasting fun node => node.bounds.Proper where
  made := fun _ hDraft => Draft.kept_ofTag Bounds.proper_zero Draft.Applied.proper hDraft
  kept := fun _ hProper => hProper
  degraded := fun _ => Bounds.proper_zero

/-- **Every element of a dump has its far edges at or beyond its near ones.** -/
theorem proper_parse (id : Nat) (raw : Text) : AllProper (parse id raw).nodes :=
  lasting_proper.parse id raw

end Dump

end ScreenQuery
