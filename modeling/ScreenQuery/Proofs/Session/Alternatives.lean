import ScreenQuery.Proofs.Query.Alternatives
import ScreenQuery.Session.Operation

/-!
# Waits for one of several elements

A wait looks whether an element is shown only after the alternatives have been decided: the first of
them that picks anything counts, even if nothing that it picks is shown.

* `isShown` is what a wait for an element asks of a screen, and `isHidden` is its opposite. Both
  depend on the picked elements alone (`isShown_eq_any`).
* `Masked` says that an alternative which picks elements, but no shown one, counts, while another
  behind it picks a shown one. Unless it is so, alternatives are shown when one of them is, and
  hidden when all of them are (`shown_unless_masked`).

About `wait_for` and `wait_for_hidden` with alternatives.
-/

namespace ScreenQuery.Session

open Query

variable {s : Snapshot} {item : Selector} {items rest : List Selector}

/-- True when a wait for an element accepts the screen: the selector picks a shown element. -/
def isShown (selector : Selector) (s : Snapshot) : Bool := (firstShown selector s).isSome

/-- True when one of some elements is shown. -/
def anyShown (s : Snapshot) (ids : List NodeId) : Bool :=
  ids.any fun id => (s.get? id).any Node.isVisible

theorem any_isVisible_of? (s : Snapshot) (id : NodeId) (selector : Option Selector) :
    (Handle.of? s id selector).any Handle.isVisible = (s.get? id).any Node.isVisible := by
  cases hNode : s.get? id with
  | none =>
    have hNone : Handle.of? s id selector = none := by
      refine Option.eq_none_iff_forall_ne_some.mpr fun handle hHandle => ?_
      obtain ⟨rfl, rfl⟩ := Handle.of?_cases hHandle
      cases hNode.symm.trans handle.get?_id
    rw [hNone]
    rfl
  | some node =>
    rw [Handle.of?_eq_some hNode]
    rfl

theorem any_isVisible_findAll (selector : Selector) (s : Snapshot) :
    (Handle.findAll s selector).any Handle.isVisible = anyShown s (Query.findAll s selector) := by
  unfold Handle.findAll anyShown
  rw [List.any_filterMap]
  refine congrArg (List.any _) (funext fun id => ?_)
  rw [← any_isVisible_of? s id (some selector)]
  cases Handle.of? s id (some selector) <;> rfl

theorem isShown_eq_any (selector : Selector) (s : Snapshot) :
    isShown selector s = anyShown s (Query.findAll s selector) := by
  rw [isShown, firstShown, List.isSome_find?, any_isVisible_findAll]

theorem isHidden_eq_not_isShown (selector : Selector) (s : Snapshot) :
    isHidden selector s = !isShown selector s := by
  rw [isHidden, any_isVisible_findAll, isShown_eq_any]

/-- The first of some alternatives that picks anything picks no shown element, but another behind it
does. -/
inductive Masked (s : Snapshot) : List Selector → Prop
  | here {item other : Selector} {rest : List Selector} (hSome : Query.findAll s item ≠ [])
      (hHidden : isHidden item s = true) (hOther : other ∈ rest) (hShown : isShown other s = true) :
      Masked s (item :: rest)
  | later {item : Selector} {rest : List Selector} (hNone : Query.findAll s item = [])
      (h : Masked s rest) : Masked s (item :: rest)

theorem masked_cons_iff_of_nil (hNone : Query.findAll s item = []) :
    Masked s (item :: rest) ↔ Masked s rest := by
  refine ⟨fun h => ?_, .later hNone⟩
  cases h with
  | here hSome => exact absurd hNone hSome
  | later _ h => exact h

theorem masked_cons_iff_of_ne_nil (hSome : Query.findAll s item ≠ []) :
    Masked s (item :: rest) ↔ isHidden item s = true ∧ ∃ other ∈ rest, isShown other s = true := by
  constructor
  · intro h
    cases h with
    | here _ hHidden hOther hShown => exact ⟨hHidden, _, hOther, hShown⟩
    | later hNone _ => exact absurd hNone hSome
  · rintro ⟨hHidden, other, hOther, hShown⟩
    exact .here hSome hHidden hOther hShown

theorem isShown_alternatives_iff (s : Snapshot) (items : List Selector) :
    isShown (.alternatives items) s = true ↔
      (∃ item ∈ items, isShown item s = true) ∧ ¬ Masked s items := by
  rw [isShown_eq_any]
  show anyShown s (firstResult s none items) = true ↔ _
  induction items with
  | nil => simp [firstResult, anyShown]
  | cons item rest ih =>
    rw [firstResult_cons, List.exists_mem_cons_iff]
    by_cases hNone : Query.findAll s item = []
    · have hItem : isShown item s = false := by
        rw [isShown_eq_any, hNone]
        rfl
      have hEmpty : evaluate s none item = [] := hNone
      rw [if_pos hEmpty, ih, masked_cons_iff_of_nil hNone, hItem]
      simp
    · have hFull : evaluate s none item ≠ [] := hNone
      have hItem : anyShown s (evaluate s none item) = isShown item s :=
        (isShown_eq_any item s).symm
      rw [if_neg hFull, hItem, masked_cons_iff_of_ne_nil hNone, isHidden_eq_not_isShown]
      cases isShown item s <;> simp

/-- **Alternatives are shown when one of them is, and hidden when all of them are**, unless one that
is not shown counts in front of a shown one: then a wait for an element does not see that one, and a
wait for its disappearance succeeds before it has disappeared. -/
theorem shown_unless_masked (s : Snapshot) (items : List Selector) :
    (isShown (.alternatives items) s = true ↔
      (∃ item ∈ items, isShown item s = true) ∧ ¬ Masked s items) ∧
    (isHidden (.alternatives items) s = true ↔
      (∀ item ∈ items, isHidden item s = true) ∨ Masked s items) := by
  refine ⟨isShown_alternatives_iff s items, ?_⟩
  have hHidden : ∀ selector, isHidden selector s = true ↔ ¬ isShown selector s = true := by
    intro selector
    rw [isHidden_eq_not_isShown, Bool.not_eq_true', Bool.not_eq_true]
  simp only [hHidden, isShown_alternatives_iff, not_and_or, not_not, not_exists, imp_iff_not_or]

/-- A screen with a `b` that covers no area and a `c` that is shown. -/
def halfShown : Snapshot := Dump.parse 1 "<a><b/><c bounds='[0,0][9,9]'/></a>"

/-- A wait for a `b` or a `c` does not see the `c` there, and a wait for both to disappear ends. -/
theorem masked_halfShown :
    let either : List Selector := [ofClass "b", ofClass "c"]
    isShown (.alternatives either) halfShown = false ∧
      (∃ item ∈ either, isShown item halfShown = true) ∧
      isHidden (.alternatives either) halfShown = true ∧
      ¬ ∀ item ∈ either, isHidden item halfShown = true := by
  decide +kernel

end ScreenQuery.Session
