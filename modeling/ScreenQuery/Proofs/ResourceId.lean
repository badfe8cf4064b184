import ScreenQuery.Outline
import ScreenQuery.Proofs.Query.Names

/-!
# Resource ids and their short names

A resource id may hold the separator `:id/` several times, and nothing may follow the last one.

* A name is accepted for an id if it is the id, or if it ends the id behind any of its separators
  (`Shorthand.matchesId_iff`).
* The short name is what stands behind the first separator (`Node.shortResourceId_cases`). The
  separator does not overlap with itself, so none begins further ahead (`suffix_of_first`): the
  short name is the longest name that is accepted, but for the id.
* Descriptions and outlines show the short name, and what they show is accepted
  (`Node.shortResourceId_accepted`).

About `resource_id_matches` and `short_resource_id`.
-/

namespace ScreenQuery

open Shorthand (idSeparator matchesId matchesId_iff)

variable {node : Node} {before name wanted : Text}

/-- The short name stands behind the first separator; without any it is the id. -/
theorem Node.shortResourceId_cases (node : Node) :
    (¬ idSeparator <:+: node.resourceId ∧ node.shortResourceId = node.resourceId) ∨
    ∃ before, node.resourceId = before ++ (idSeparator ++ node.shortResourceId) ∧
      ¬ idSeparator <:+: before := by
  unfold shortResourceId
  cases hSplit : Text.splitFirst ":id/" node.resourceId with
  | none => exact .inl ⟨Text.splitFirst_eq_none_iff.mp hSplit, rfl⟩
  | some parts =>
    obtain ⟨before, name⟩ := parts
    exact .inr ⟨before, Text.splitFirst_eq_some hSplit⟩

/-- No separator begins ahead of the first one, not even one that would reach into it. -/
theorem Shorthand.suffix_of_first (hFirst : ¬ idSeparator <:+: before)
    (hSuffix : idSeparator ++ wanted <:+ before ++ (idSeparator ++ name)) : wanted <:+ name := by
  have hEnd : idSeparator ++ name <:+ before ++ (idSeparator ++ name) := List.suffix_append ..
  rcases List.suffix_or_suffix_of_suffix hSuffix hEnd with hShort | ⟨between, hLong⟩
  · have hLength := hShort.length_le
    rw [List.length_append, List.length_append] at hLength
    exact List.suffix_of_suffix_length_le ((List.suffix_append idSeparator wanted).trans hShort)
      (List.suffix_append idSeparator name) (by omega)
  · obtain ⟨front, hFront⟩ := hSuffix
    rw [← hLong, ← List.append_assoc, List.append_cancel_right_eq] at hFront
    cases between with
    | nil =>
      rw [List.nil_append, List.append_cancel_left_eq] at hLong
      exact hLong ▸ List.suffix_refl name
    | cons c between =>
      -- a separator that begins here ends before the first one, which has another colon
      obtain ⟨rfl, hRest⟩ : c = ':' ∧ between ++ (idSeparator ++ name) = "id/" ++ wanted :=
        List.cons.inj hLong
      have hStart : between ++ [':'] <+: ("id/" : Text) ++ wanted :=
        ⟨"id/" ++ name, by rw [← hRest]; simp [idSeparator]⟩
      have hId : ("id/" : Text) <+: between := by
        rcases List.prefix_or_prefix_of_prefix hStart (List.prefix_append _ wanted) with h | h
        · exact absurd (h.subset (List.mem_append_right between (List.mem_singleton_self ':')))
            (by decide)
        · refine (List.prefix_concat_iff.mp h).resolve_left fun hEq => ?_
          have hLast := congrArg List.getLast? hEq
          rw [List.getLast?_concat] at hLast
          exact absurd hLast (by decide)
      refine absurd ?_ hFirst
      rw [← hFront]
      exact (List.cons_prefix_cons.mpr ⟨rfl, hId⟩).isInfix.trans (List.suffix_append ..).isInfix

/-! ## What is shown -/

/-- A description begins with the name of the element by itself. -/
theorem Snapshot.baseDescription_prefix_describe {s : Snapshot} {id : NodeId}
    (h : s.get? id = some node) : baseDescription node <+: s.describe id := by
  unfold describe
  rw [h]
  dsimp only
  split
  · exact List.prefix_refl _
  · split
    · exact List.prefix_refl _
    · rw [List.append_assoc, List.append_assoc]
      exact List.prefix_append ..

/-- **The short name of an element is accepted for its resource id**, whatever the id. A name is
accepted for an id just when it is the id, or ends it behind a separator; so the accepted names are
the id, the short name and what ends the short name behind further separators. Descriptions and
outlines show the short name behind the class. -/
theorem Node.shortResourceId_accepted :
    (∀ actual wanted : Text, matchesId actual wanted = true ↔
      actual = wanted ∨ (":id/" : Text) ++ wanted <:+ actual) ∧
    ∀ node : Node, matchesId node.resourceId node.shortResourceId = true ∧
      (∀ wanted, matchesId node.resourceId wanted = true →
        wanted = node.resourceId ∨ wanted <:+ node.shortResourceId) ∧
      (node.resourceId ≠ [] →
        (∀ (s : Snapshot) (id : NodeId), s.get? id = some node →
          (node.shortClass ++ "#" ++ node.shortResourceId : Text) <+: s.describe id) ∧
        ∀ style, (NodeId.toText node.id ++ " [" ++ node.shortClass ++ "]" ++
          (" #" ++ node.shortResourceId) : Text) <+: Outline.line style node) := by
  refine ⟨fun _ _ => matchesId_iff, fun node => ⟨?accepted, fun wanted h => ?longest,
    fun hSome => ⟨fun s id h => ?described, fun style => ?outlined⟩⟩⟩
  case accepted =>
    rcases node.shortResourceId_cases with ⟨-, hWhole⟩ | ⟨before, hId, -⟩
    · exact matchesId_iff.mpr (.inl hWhole.symm)
    · exact matchesId_iff.mpr (.inr ⟨before, hId.symm⟩)
  case longest =>
    refine (matchesId_iff.mp h).imp Eq.symm fun hSuffix => ?_
    rcases node.shortResourceId_cases with ⟨hNone, -⟩ | ⟨before, hId, hFirst⟩
    · exact absurd ((List.prefix_append ..).isInfix.trans hSuffix.isInfix) hNone
    · exact Shorthand.suffix_of_first hFirst (hId ▸ hSuffix)
  case described =>
    have hBase : Snapshot.baseDescription node = node.shortClass ++ "#" ++ node.shortResourceId :=
      if_pos (by simpa using hSome)
    exact hBase ▸ Snapshot.baseDescription_prefix_describe h
  case outlined =>
    unfold Outline.line
    rw [if_neg (by simpa using hSome)]
    exact (List.prefix_append _ _).trans (List.prefix_append _ _)

end ScreenQuery
