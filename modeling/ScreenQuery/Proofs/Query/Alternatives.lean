import ScreenQuery.Proofs.Query

/-!
# Alternatives in alternatives

* The leaves of a selector are what is left when its lists of alternatives are joined, whatever
  their nesting. A search gives the result of the first leaf that has one (`evaluate_eq_leaves`):
  each list passes on the first result in it, and so does a list of such lists
  (`firstResult_append`).
* `Regroups` is any change to the brackets of nested lists. It is the same as having the same leaves
  in the same order (`regroups_iff`), so it changes no search.
* `Removes` takes one selector out of a list, at any depth. Without a result of its own it was never
  the first that has one.

About `evaluate`, `find_one` and `find_all_within`, and `from_json` of `Selector`.
-/

namespace ScreenQuery

namespace Selector

/-! ## Leaves -/

mutual

/-- The selectors without alternatives that a selector is made of, from left to right. -/
def leaves : Selector → List Selector
  | .predicate clauses => [.predicate clauses]
  | .shorthand short => [.shorthand short]
  | .path query => [.path query]
  | .alternatives items => leavesOf items

/-- The leaves of some selectors, one after another. -/
def leavesOf : List Selector → List Selector
  | [] => []
  | item :: rest => leaves item ++ leavesOf rest

end

variable {a b c part : Selector}

theorem leavesOf_append (before after : List Selector) :
    leavesOf (before ++ after) = leavesOf before ++ leavesOf after := by
  induction before with
  | nil => rfl
  | cons item before ih => rw [List.cons_append, leavesOf, leavesOf, ih, List.append_assoc]

theorem leaves_around (before after : List Selector) (item : Selector) :
    (alternatives (before ++ item :: after)).leaves =
      leavesOf before ++ (item.leaves ++ leavesOf after) := by
  rw [leaves, leavesOf_append, leavesOf]

mutual

/-- A leaf is no list of alternatives. -/
theorem ne_alternatives_of_mem_leaves : ∀ {a leaf : Selector}, leaf ∈ a.leaves →
    ∀ items, leaf ≠ .alternatives items
  | .predicate clauses, leaf, h, items => by rw [List.mem_singleton.mp h]; nofun
  | .shorthand short, leaf, h, items => by rw [List.mem_singleton.mp h]; nofun
  | .path query, leaf, h, items => by rw [List.mem_singleton.mp h]; nofun
  | .alternatives _, leaf, h, items => ne_alternatives_of_mem_leavesOf h items

theorem ne_alternatives_of_mem_leavesOf : ∀ {selectors : List Selector} {leaf : Selector},
    leaf ∈ leavesOf selectors → ∀ items, leaf ≠ .alternatives items
  | [], _, h, _ => absurd h List.not_mem_nil
  | item :: rest, leaf, h, items => by
    rcases List.mem_append.mp h with hItem | hRest
    · exact ne_alternatives_of_mem_leaves hItem items
    · exact ne_alternatives_of_mem_leavesOf hRest items

end

/-! ## Changes to the brackets -/

/-- One selector comes from another by changes to the brackets of its nested lists. -/
inductive Regroups : Selector → Selector → Prop
  | refl (a : Selector) : Regroups a a
  | symm {a b : Selector} (h : Regroups a b) : Regroups b a
  | trans {a b c : Selector} (hab : Regroups a b) (hbc : Regroups b c) : Regroups a c
  /-- A list of one selector is that selector. -/
  | single (item : Selector) : Regroups (.alternatives [item]) item
  /-- A list in a list is joined with it, also when it is empty. -/
  | nested (before inner after : List Selector) :
      Regroups (.alternatives (before ++ .alternatives inner :: after))
        (.alternatives (before ++ (inner ++ after)))
  /-- The change takes place somewhere inside. -/
  | inside {a b : Selector} (before after : List Selector) (h : Regroups a b) :
      Regroups (.alternatives (before ++ a :: after)) (.alternatives (before ++ b :: after))

theorem Regroups.leaves_eq (h : Regroups a b) : a.leaves = b.leaves := by
  induction h with
  | refl => rfl
  | symm _ ih => exact ih.symm
  | trans _ _ hab hbc => exact hab.trans hbc
  | single item => rw [leaves, leavesOf, leavesOf, List.append_nil]
  | nested before inner after =>
    rw [leaves_around, leaves, leaves, leavesOf_append, leavesOf_append]
  | inside before after _ ih => rw [leaves_around, leaves_around, ih]

mutual

/-- Every selector is a list of its leaves. -/
theorem regroups_leaves : ∀ a : Selector, Regroups a (.alternatives a.leaves)
  | .predicate clauses => .symm (.single (.predicate clauses))
  | .shorthand short => .symm (.single (.shorthand short))
  | .path query => .symm (.single (.path query))
  | .alternatives items => regroups_leavesOf [] items

theorem regroups_leavesOf : ∀ before items : List Selector,
    Regroups (.alternatives (before ++ items)) (.alternatives (before ++ leavesOf items))
  | _, [] => .refl _
  | before, item :: rest => by
    have hInside := Regroups.inside before rest (regroups_leaves item)
    have hJoined := Regroups.nested before item.leaves rest
    have hRest := regroups_leavesOf (before ++ item.leaves) rest
    rw [List.append_assoc, List.append_assoc] at hRest
    exact hInside.trans (hJoined.trans hRest)

end

/-- **Selectors with the same leaves differ in their brackets only.** -/
theorem regroups_iff : Regroups a b ↔ a.leaves = b.leaves := by
  refine ⟨Regroups.leaves_eq, fun h => (regroups_leaves a).trans ?_⟩
  rw [h]
  exact (regroups_leaves b).symm

/-- One selector is another without `part`, which stands in one of its lists. -/
inductive Removes (part : Selector) : Selector → Selector → Prop
  | here (before after : List Selector) :
      Removes part (.alternatives (before ++ part :: after)) (.alternatives (before ++ after))
  | inside {a b : Selector} (before after : List Selector) (h : Removes part a b) :
      Removes part (.alternatives (before ++ a :: after)) (.alternatives (before ++ b :: after))

theorem Removes.exists_leaves (h : Removes part a b) :
    ∃ before after, a.leaves = before ++ (part.leaves ++ after) ∧ b.leaves = before ++ after := by
  induction h with
  | here before after =>
    exact ⟨leavesOf before, leavesOf after, leaves_around before after part, by
      rw [leaves, leavesOf_append]⟩
  | inside before after _ ih =>
    obtain ⟨lead, trail, ha, hb⟩ := ih
    refine ⟨leavesOf before ++ lead, trail ++ leavesOf after, ?_, ?_⟩
    · rw [leaves_around, ha]
      simp only [List.append_assoc]
    · rw [leaves_around, hb]
      simp only [List.append_assoc]

end Selector

namespace Query

/-! ## The first result -/

/-- The first of some results that is not empty. -/
def firstNonempty (results : List (List NodeId)) : List NodeId :=
  (results.find? fun found => !found.isEmpty).getD []

theorem firstNonempty_cons (found : List NodeId) (results : List (List NodeId)) :
    firstNonempty (found :: results) = if found = [] then firstNonempty results else found := by
  cases found <;> rfl

theorem firstNonempty_append (a b : List (List NodeId)) :
    firstNonempty (a ++ b) = if firstNonempty a = [] then firstNonempty b else firstNonempty a := by
  induction a with
  | nil => rfl
  | cons found a ih =>
    rw [List.cons_append, firstNonempty_cons, firstNonempty_cons, ih]
    by_cases hFound : found = []
    · rw [if_pos hFound, if_pos hFound]
    · rw [if_neg hFound, if_neg hFound, if_neg hFound]

section

variable {s : Snapshot} {context : Option NodeId}

theorem firstResult_cons (item : Selector) (rest : List Selector) :
    firstResult s context (item :: rest) =
      if evaluate s context item = [] then firstResult s context rest
      else evaluate s context item := by
  rw [firstResult]
  cases evaluate s context item <;> rfl

/-- A leaf is all the leaves that it has. -/
theorem firstNonempty_singleton (found : List NodeId) : firstNonempty [found] = found := by
  cases found <;> rfl

mutual

/-- **A search gives the result of the first leaf that has one.** -/
theorem evaluate_eq_leaves : ∀ selector : Selector,
    evaluate s context selector = firstNonempty (selector.leaves.map (evaluate s context))
  | .predicate clauses => (firstNonempty_singleton _).symm
  | .shorthand short => (firstNonempty_singleton _).symm
  | .path query => (firstNonempty_singleton _).symm
  | .alternatives items => by rw [evaluate, Selector.leaves, firstResult_eq_leaves items]

theorem firstResult_eq_leaves : ∀ items : List Selector,
    firstResult s context items =
      firstNonempty ((Selector.leavesOf items).map (evaluate s context))
  | [] => rfl
  | item :: rest => by
    rw [firstResult_cons, Selector.leavesOf, List.map_append, firstNonempty_append,
      ← evaluate_eq_leaves item, ← firstResult_eq_leaves rest]

end

variable {a b part : Selector}

theorem evaluate_regroups (h : Selector.Regroups a b) :
    evaluate s context a = evaluate s context b := by
  rw [evaluate_eq_leaves, evaluate_eq_leaves, h.leaves_eq]

theorem evaluate_removes (h : Selector.Removes part a b) (hPart : evaluate s context part = []) :
    evaluate s context a = evaluate s context b := by
  obtain ⟨before, after, ha, hb⟩ := h.exists_leaves
  rw [evaluate_eq_leaves] at hPart
  rw [evaluate_eq_leaves, evaluate_eq_leaves b, ha, hb, List.map_append, List.map_append,
    List.map_append, firstNonempty_append, firstNonempty_append, firstNonempty_append, hPart,
    if_pos rfl]

end

/-- Two selectors cannot be told apart by the searches on a screen. -/
structure SameAnswers (s : Snapshot) (a b : Selector) : Prop where
  all : findAll s a = findAll s b
  first : findFirst s a = findFirst s b
  within : ∀ context, findWithin s context a = findWithin s context b

/-- **The first leaf with a result counts**, however the alternatives are nested and wherever the
search takes place. So nothing is changed by other brackets, nor by leaving out a selector that has
no result in that search. -/
theorem answers_of_first_leaf (s : Snapshot) :
    (∀ selector : Selector,
      (∀ leaf ∈ selector.leaves, ∀ items, leaf ≠ .alternatives items) ∧
      findAll s selector = firstNonempty (selector.leaves.map (findAll s)) ∧
      findFirst s selector = (firstNonempty (selector.leaves.map (findAll s))).head? ∧
      ∀ context, findWithin s context selector =
        firstNonempty (selector.leaves.map (findWithin s context))) ∧
    (∀ a b : Selector, a.Regroups b → SameAnswers s a b) ∧
    ∀ part a b : Selector, Selector.Removes part a b →
      (findAll s part = [] → findAll s a = findAll s b ∧ findFirst s a = findFirst s b) ∧
      ∀ context, findWithin s context part = [] →
        findWithin s context a = findWithin s context b := by
  have hFirst : ∀ {a b : Selector}, findAll s a = findAll s b → findFirst s a = findFirst s b := by
    intro a b hAll
    rw [findFirst_eq_head?, findFirst_eq_head?, hAll]
  refine ⟨fun selector => ⟨fun leaf => Selector.ne_alternatives_of_mem_leaves,
    evaluate_eq_leaves selector, ?_, fun context => evaluate_eq_leaves selector⟩, fun a b h => ?_,
    fun part a b h => ⟨fun hPart => ?_, fun context => evaluate_removes h⟩⟩
  · rw [findFirst_eq_head?]
    exact congrArg List.head? (evaluate_eq_leaves selector)
  · exact ⟨evaluate_regroups h, hFirst (evaluate_regroups h), fun context => evaluate_regroups h⟩
  · have hAll : findAll s a = findAll s b := evaluate_removes h hPart
    exact ⟨hAll, hFirst hAll⟩

/-- The elements of a class, as a selector. -/
def ofClass (part : Text) : Selector := .shorthand (.classPart part)

/-- Three selectors in nested lists, one of them empty. -/
def nestedClasses : Selector :=
  .alternatives [.alternatives [], .alternatives [ofClass "x", .alternatives [ofClass "c"]],
    ofClass "b"]

/-- On a screen without an `x`, the `c` counts, in whatever brackets and also without the `x`. -/
theorem answers_nestedClasses :
    let s := Dump.parse 1 "<a><b/><c/></a>"
    let flat : Selector := .alternatives [ofClass "x", ofClass "c", ofClass "b"]
    let without : Selector := .alternatives [ofClass "c", ofClass "b"]
    nestedClasses.Regroups flat ∧ Selector.Removes (ofClass "x") flat without ∧
      findAll s (ofClass "x") = [] ∧ findWithin s rootId (ofClass "x") = [] ∧
      findAll s nestedClasses = [2] ∧ findWithin s rootId nestedClasses = [2] ∧
      findFirst s without = some 2 := by
  intro s flat without
  have hRegroups : nestedClasses.Regroups flat := Selector.regroups_iff.mpr rfl
  have hRemoves : Selector.Removes (ofClass "x") flat without := .here [] [ofClass "c", ofClass "b"]
  have hNone : findAll s (ofClass "x") = [] ∧ findWithin s rootId (ofClass "x") = [] := by
    decide +kernel
  have hFound : findAll s without = [2] ∧ findWithin s rootId without = [2] := by decide +kernel
  obtain ⟨-, hSame, hWithout⟩ := answers_of_first_leaf s
  obtain ⟨hAll, -, hWithin⟩ := hSame nestedClasses flat hRegroups
  obtain ⟨hAll', hWithin'⟩ := hWithout _ flat without hRemoves
  refine ⟨hRegroups, hRemoves, hNone.1, hNone.2, ?_, ?_, ?_⟩
  · rw [hAll, (hAll' hNone.1).1, hFound.1]
  · rw [hWithin, hWithin' rootId hNone.2, hFound.2]
  · rw [findFirst_eq_head?, hFound.1]
    rfl

end Query

end ScreenQuery
