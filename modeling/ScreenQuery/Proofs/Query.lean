import ScreenQuery.Handle
import ScreenQuery.Proofs.Path

/-!
# What queries find

* `evaluate_sorted` and `evaluate_valid` say that every selector picks elements of the screen, in
  document order and once each, on the whole screen or inside one element. Only the kinds that look
  at elements themselves need a proof; alternatives pass on the result of one of them.
* `findFirst_eq_head?` says that the search for the first element, which stops there, finds the
  first of all that are picked.
* As every id that is found is that of an element, handles are found in the same order, and none is
  lost: `Handle.map_id_findAll`.
* A path query with no steps would lead to the element where it starts, which may not be there. No
  text is read as such a query, and `Selector.WellFormed` says that all path queries were read.
-/

namespace ScreenQuery

/-- The path queries of a selector were read from texts. -/
inductive Selector.WellFormed : Selector → Prop
  | predicate (clauses : Predicate) : WellFormed (.predicate clauses)
  | shorthand (short : Shorthand) : WellFormed (.shorthand short)
  | path {input : Text} {query : PathQuery} (h : PathQuery.parse input = .ok query) :
      WellFormed (.path query)
  | alternatives {items : List Selector} (h : ∀ item ∈ items, WellFormed item) :
      WellFormed (.alternatives items)

/-! ## Selectors that are read -/

namespace PathQuery

theorem length_lt_of_stepsFrom {read steps : List Step} {text : Text}
    (h : stepsFrom read text = .ok steps) :
    read.length ≤ steps.length ∧ (text.isEmpty = false → read.length < steps.length) := by
  fun_induction stepsFrom read text with
  | case1 read text hEmpty =>
    cases h
    rw [List.length_reverse, hEmpty]
    exact ⟨Nat.le_refl _, fun hFalse => Bool.noConfusion hFalse⟩
  | case2 => cases h
  | case3 => cases h
  | case4 => cases h
  | case5 read text _ axis rest _ name _ predicate rest' _ _ step ih =>
    have hLength : read.length < steps.length := (ih h).1
    exact ⟨Nat.le_of_lt hLength, fun _ => hLength⟩

/-- A query that is read has a step. -/
theorem steps_ne_nil_of_parse {input : Text} {query : PathQuery} (h : parse input = .ok query) :
    query.steps ≠ [] := by
  unfold parse stepsOf at h
  split at h
  · rename_i steps hSteps
    cases h
    split at hSteps
    · cases hSteps
    · rename_i hSource
      exact List.ne_nil_of_length_pos
        ((length_lt_of_stepsFrom hSteps).2 (Bool.eq_false_iff.mpr hSource))
  · cases h

end PathQuery

namespace Selector

theorem wellFormed_of_parse {input : Text} {selector : Selector}
    (h : parse input = .ok selector) : selector.WellFormed := by
  unfold parse at h
  split at h
  · cases hQuery : PathQuery.parse input with
    | error error => rw [hQuery] at h; cases h
    | ok query =>
      rw [hQuery] at h
      cases h
      exact .path hQuery
  · cases hShort : Shorthand.parse input with
    | error error => rw [hShort] at h; cases h
    | ok short =>
      rw [hShort] at h
      cases h
      exact .shorthand short

mutual

theorem wellFormed_of_ofJson : ∀ {value : Json} {selector : Selector},
    ofJson value = .ok selector → selector.WellFormed
  | .string text, selector, h => wellFormed_of_parse h
  | .object fields, selector, h => by
    unfold ofJson at h
    cases hFields : Predicate.ofFields fields with
    | error error => rw [hFields] at h; cases h
    | ok clauses =>
      rw [hFields] at h
      cases h
      exact .predicate clauses
  | .array [], selector, h => by cases h
  | .array (first :: rest), selector, h => by
    unfold ofJson at h
    cases hFirst : ofJson first with
    | error error => rw [hFirst] at h; cases h
    | ok head =>
      cases hRest : ofItems rest with
      | error error => rw [hFirst, hRest] at h; cases h
      | ok tail =>
        rw [hFirst, hRest] at h
        cases h
        exact .alternatives (List.forall_mem_cons.mpr
          ⟨wellFormed_of_ofJson hFirst, wellFormed_of_ofItems hRest⟩)
  | .null, selector, h => by cases h
  | .bool value, selector, h => by cases h
  | .number value, selector, h => by cases h

theorem wellFormed_of_ofItems : ∀ {items : List Json} {selectors : List Selector},
    ofItems items = .ok selectors → ∀ selector ∈ selectors, selector.WellFormed
  | [], selectors, h => by
    cases h
    exact fun _ hSelector => absurd hSelector List.not_mem_nil
  | item :: rest, selectors, h => by
    unfold ofItems at h
    cases hItem : ofJson item with
    | error error => rw [hItem] at h; cases h
    | ok head =>
      cases hRest : ofItems rest with
      | error error => rw [hItem, hRest] at h; cases h
      | ok tail =>
        rw [hItem, hRest] at h
        cases h
        exact List.forall_mem_cons.mpr
          ⟨wellFormed_of_ofJson hItem, wellFormed_of_ofItems hRest⟩

end

theorem wellFormed_of_ofInput {input : Text} {selector : Selector}
    (h : ofInput input = .ok selector) : selector.WellFormed := by
  unfold ofInput at h
  split at h
  · split at h
    · exact wellFormed_of_ofJson h
    · cases h
  · exact wellFormed_of_parse h

end Selector

/-! ## Elements in document order -/

/-- The ids of all elements are the numbers from zero on. -/
theorem PreOrder.map_id_eq_range {nodes : Array Node} (hTree : PreOrder nodes) :
    nodes.toList.map Node.id = List.range nodes.size := by
  refine List.ext_getElem (by simp) fun i hi _ => ?_
  have hSize : i < nodes.size := by simpa using hi
  rw [List.getElem_map, List.getElem_range, Array.getElem_toList]
  exact hTree.id_eq (Array.getElem?_eq_getElem hSize)

/-- A chain with a step ends at an element. -/
theorem Chain.exists_node {s : Snapshot} {steps : List Step} {c n : NodeId}
    (h : Chain s steps c n) (hSteps : steps ≠ []) : ∃ node, s.get? n = some node := by
  induction h with
  | nil => exact absurd rfl hSteps
  | @cons step steps c next n node _ hNode _ hRest ih =>
    cases hRest with
    | nil => exact ⟨node, hNode⟩
    | cons hLeads hNext hFits hRest => exact ih (List.cons_ne_nil _ _)

namespace Query

variable {s : Snapshot}

theorem candidates_sublist (context : Option NodeId) :
    (candidates s context).Sublist s.nodes.toList := by
  unfold candidates Snapshot.descendants
  cases context with
  | none => exact List.Sublist.refl _
  | some id =>
    dsimp only
    split
    · exact (List.takeWhile_sublist _).trans (List.drop_sublist _ _)
    · exact List.nil_sublist _

/-- The result of alternatives is that of one of them, or there is none. -/
theorem firstResult_cases (context : Option NodeId) (items : List Selector) :
    firstResult s context items = [] ∨
      ∃ item ∈ items, firstResult s context items = evaluate s context item := by
  induction items with
  | nil => exact Or.inl rfl
  | cons item rest ih =>
    unfold firstResult
    split
    · rcases ih with hNone | ⟨other, hOther, hEq⟩
      · exact Or.inl hNone
      · exact Or.inr ⟨other, List.mem_cons_of_mem _ hOther, hEq⟩
    · exact Or.inr ⟨item, List.mem_cons_self, rfl⟩

section Tree

variable (hTree : PreOrder s.nodes)

include hTree

/-- Some of the elements that are looked at, by their ids. -/
theorem scan_sorted (context : Option NodeId) (p : Node → Bool) :
    (((candidates s context).filter p).map Node.id).Pairwise (· < ·) := by
  have hSublist := (List.filter_sublist (p := p)).trans (candidates_sublist (s := s) context)
  refine List.Pairwise.sublist (hSublist.map Node.id) ?_
  rw [hTree.map_id_eq_range]
  exact List.pairwise_lt_range

theorem get?_of_mem_scan (context : Option NodeId) (p : Node → Bool) :
    ∀ n ∈ ((candidates s context).filter p).map Node.id, ∃ node, s.get? n = some node := by
  intro n hn
  obtain ⟨node, hNode, rfl⟩ := List.mem_map.mp hn
  obtain ⟨i, hi⟩ := List.mem_iff_getElem?.mp
    ((candidates_sublist context).subset (List.mem_filter.mp hNode).1)
  rw [Array.getElem?_toList] at hi
  exact ⟨node, by rw [hTree.id_eq hi]; exact hi⟩

variable {selector : Selector} (h : selector.WellFormed) (context : Option NodeId)

include h

/-- **Every selector picks elements in document order**, once each. -/
theorem evaluate_sorted : (evaluate s context selector).Pairwise (· < ·) := by
  induction h with
  | predicate clauses => exact scan_sorted hTree context _
  | shorthand short => exact scan_sorted hTree context _
  | path hQuery => exact PathQuery.pairwise_lt_follow (List.pairwise_singleton _ _)
  | @alternatives items _ ih =>
    unfold evaluate
    rcases firstResult_cases (s := s) context items with hNone | ⟨item, hItem, hEq⟩
    · rw [hNone]
      exact List.Pairwise.nil
    · rw [hEq]
      exact ih item hItem

/-- **Every selector picks elements of the screen**, and no ids that are none. -/
theorem evaluate_valid : ∀ n ∈ evaluate s context selector, ∃ node, s.get? n = some node := by
  induction h with
  | predicate clauses => exact get?_of_mem_scan hTree context _
  | shorthand short => exact get?_of_mem_scan hTree context _
  | path hQuery =>
    intro n hn
    obtain ⟨c, -, hChain⟩ :=
      (PathQuery.mem_follow_iff hTree (PathQuery.countsFromOne_of_parse hQuery)).mp hn
    exact hChain.exists_node (PathQuery.steps_ne_nil_of_parse hQuery)
  | @alternatives items _ ih =>
    unfold evaluate
    rcases firstResult_cases (s := s) context items with hNone | ⟨item, hItem, hEq⟩
    · rw [hNone]
      exact fun n hn => absurd hn List.not_mem_nil
    · rw [hEq]
      exact ih item hItem

end Tree

/-- **The search for the first element finds the first of all.** -/
theorem findFirst_eq_head? (s : Snapshot) (selector : Selector) :
    findFirst s selector = (findAll s selector).head? := by
  cases selector with
  | predicate clauses =>
    unfold findFirst findAll evaluate candidates
    rw [List.head?_map, List.head?_filter]
  | shorthand short =>
    unfold findFirst findAll evaluate candidates
    rw [List.head?_map, List.head?_filter]
  | path query => rfl
  | alternatives items => rfl

end Query

/-! ## Handles -/

namespace Handle

variable {s : Snapshot} {ids : List NodeId} {selector : Option Selector}

theorem of?_eq_some {id : NodeId} {node : Node} (h : s.get? id = some node) :
    of? s id selector = some ⟨s, id, node, selector, h⟩ := by
  unfold of?
  split
  · rename_i other hOther
    cases hOther.symm.trans h
    rfl
  · rename_i hNone
    cases hNone.symm.trans h

theorem of?_cases {id : NodeId} {handle : Handle} (h : of? s id selector = some handle) :
    handle.snapshot = s ∧ handle.id = id := by
  unfold of? at h
  split at h
  · cases h
    exact ⟨rfl, rfl⟩
  · cases h

/-- Handles of elements that are there are in the same order. -/
theorem map_id_filterMap (h : ∀ id ∈ ids, ∃ node, s.get? id = some node) :
    (ids.filterMap fun id => of? s id selector).map Handle.id = ids := by
  induction ids with
  | nil => rfl
  | cons id rest ih =>
    obtain ⟨⟨node, hNode⟩, hRest⟩ := List.forall_mem_cons.mp h
    simp only [List.filterMap_cons, of?_eq_some hNode, List.map_cons, ih hRest]

theorem head?_filterMap (h : ∀ id ∈ ids, ∃ node, s.get? id = some node) :
    (ids.filterMap fun id => of? s id selector).head? =
      ids.head?.bind fun id => of? s id selector := by
  cases ids with
  | nil => rfl
  | cons id rest =>
    obtain ⟨⟨node, hNode⟩, -⟩ := List.forall_mem_cons.mp h
    simp only [List.filterMap_cons, of?_eq_some hNode, List.head?_cons, Option.bind_some]

section Tree

variable (hTree : PreOrder s.nodes) {wanted : Selector} (h : wanted.WellFormed)

include hTree h

theorem map_id_findAll : (findAll s wanted).map Handle.id = Query.findAll s wanted :=
  map_id_filterMap (Query.evaluate_valid hTree h none)

theorem findFirst_eq_head? : findFirst s wanted = (findAll s wanted).head? := by
  unfold findFirst
  rw [Query.findFirst_eq_head?]
  exact (head?_filterMap (Query.evaluate_valid hTree h none)).symm

end Tree

theorem map_id_findAllWithin (outer : Handle) (hTree : PreOrder outer.snapshot.nodes)
    {wanted : Selector} (h : wanted.WellFormed) : (outer.findAllWithin wanted).map Handle.id =
      Query.findWithin outer.snapshot outer.id wanted :=
  map_id_filterMap (Query.evaluate_valid hTree h (some outer.id))

end Handle

end ScreenQuery
