import ScreenQuery.Proofs.Arena

/-!
# What holds of every element of a dump

A tag makes the root or a child of an open element, and that is all that happens to the elements
(`push_cases`). So a property of an element by itself holds of all elements of a screen when every
tag gives it to the element that it makes, and one more child does not take it away (`Lasting`,
`Lasting.parse`).
-/

namespace ScreenQuery.Dump

open Markup (Event Tag Reading)

/-- What every element has when it is made, and keeps. -/
structure Lasting (P : Node → Prop) : Prop where
  made : ∀ {tag : Tag} {draft : Draft} (slot : Slot), Draft.ofTag tag = .ok draft →
    P (draft.toNode tag slot)
  kept : ∀ {parent : Node} (id : NodeId), P parent → P (parent.withChild id)
  degraded : ∀ reason : Text, P (Snapshot.failureRoot reason)

variable {nodes after : Array Node} {opened : List NodeId} {tag : Tag} {arena next : Arena}
  {event : Event} {P : Node → Prop}

/-- A tag makes the root or a child of an open element. -/
theorem push_cases (h : push nodes opened tag = .ok after) :
    ∃ draft slot, Draft.ofTag tag = .ok draft ∧
      (after = nodes.push (draft.toNode tag slot) ∨ ∃ p parent, nodes[p]? = some parent ∧
        after = addBelow nodes p (draft.toNode tag slot)) := by
  unfold push at h
  cases hDraft : Draft.ofTag tag with
  | error fault => rw [hDraft] at h; cases h
  | ok draft =>
    simp only [hDraft, bind, Except.bind] at h
    cases opened with
    | nil =>
      simp only at h
      split at h
      · cases h
        exact ⟨draft, .root, rfl, Or.inl rfl⟩
      · cases h
    | cons p outer =>
      simp only at h
      split at h
      · cases h
      · rename_i parent hParent
        cases h
        exact ⟨draft, .below nodes.size parent, rfl, Or.inr ⟨p, parent, hParent, rfl⟩⟩

namespace Lasting

variable (hLasting : Lasting P)

include hLasting

theorem push (hAll : ∀ (i : NodeId) (node : Node), nodes[i]? = some node → P node)
    (h : push nodes opened tag = .ok after) {i : NodeId} {node : Node}
    (hNode : after[i]? = some node) : P node := by
  obtain ⟨draft, slot, hDraft, rfl | ⟨p, parent, hParent, rfl⟩⟩ := push_cases h
  · rw [Array.getElem?_push] at hNode
    split at hNode
    · cases hNode
      exact hLasting.made slot hDraft
    · exact hAll i node hNode
  · rcases getElem?_addBelow_cases hParent hNode with ⟨-, rfl⟩ | ⟨-, rfl⟩ | ⟨-, hNode⟩
    · exact hLasting.made slot hDraft
    · exact hLasting.kept _ (hAll p parent hParent)
    · exact hAll i node hNode

theorem step (hAll : ∀ (i : NodeId) (node : Node), arena.nodes[i]? = some node → P node)
    (h : arena.Stepped event next) (i : NodeId) (node : Node)
    (hNode : next.nodes[i]? = some node) : P node := by
  cases h with
  | opening _ hPush | empty _ hPush => exact hLasting.push hAll hPush hNode
  | passed | closing | aside => exact hAll i node hNode

theorem layOut {reading : Reading} (h : layOut reading = .ok nodes) :
    ∀ (i : NodeId) (node : Node), nodes[i]? = some node → P node := by
  obtain ⟨arena, hArena, -, -, rfl, -⟩ := layOut_eq_ok h
  refine Arena.kept_foldlM (P := fun arena => ∀ (i : NodeId) (node : Node),
    arena.nodes[i]? = some node → P node) hLasting.step (fun i node hNode => ?_) hArena
  simp [Arena.empty] at hNode

/-- **Such a property holds of all elements of a screen**, also of one that could not be read. -/
theorem parse (id : Nat) (raw : Text) (i : NodeId) (node : Node)
    (hNode : (parse id raw).nodes[i]? = some node) : P node := by
  unfold Dump.parse at hNode
  cases hRead : read raw with
  | ok nodes =>
    rw [hRead] at hNode
    simp only [read] at hRead
    split at hRead
    · cases hRead
    · exact hLasting.layOut hRead i node hNode
  | error fault =>
    rw [hRead] at hNode
    cases i with
    | zero =>
      cases hNode
      exact hLasting.degraded fault.message
    | succ i => cases hNode

end Lasting

end ScreenQuery.Dump
