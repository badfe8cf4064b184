import ScreenQuery.Proofs.Query
import Mathlib.Data.List.Sort

/-!
# Searches inside an element

* Whatever selector is used, a search inside an element finds elements below it and no others
  (`below_of_mem_findWithin`). For a path query that is so because each step leads further down
  (`Chain.leads_below`).
* A predicate and a shorthand selector look at each element by itself, so that a search inside an
  element finds those of all that lie below it. A path query is followed from where it starts; when
  its first step goes to every element below, what it finds from there it also finds from the root
  (`Chain.of_below`).
* Everything but the root lies below the root (`below_rootId_iff`), so a search inside the root
  finds all that is found on the screen but the root.
* Both sides of these equations are in document order, so it is enough to compare their members.

About `find_all_within`, with `descendants` of `Snapshot` and `evaluate` of `PathQuery`.
-/

namespace ScreenQuery

variable {s : Snapshot} {c n : NodeId}

/-! ## Chains go down -/

/-- Both axes lead down. -/
theorem Axis.Leads.below {axis : Axis} {nodes : Array Node} (h : axis.Leads nodes c n) :
    Below nodes c n := by
  cases axis with
  | child => exact .single h
  | descendant => exact h

/-- A chain with a step ends below its start. -/
theorem Chain.leads_below {steps : List Step} (h : Chain s steps c n) (hSteps : steps ≠ []) :
    Below s.nodes c n := by
  induction h with
  | nil => exact absurd rfl hSteps
  | @cons step steps c next n node hLeads _ _ hRest ih =>
    cases hRest with
    | nil => exact hLeads.below
    | cons hLeads' hNode' hFits' hRest' =>
      exact hLeads.below.trans (ih (List.cons_ne_nil _ _))

/-- A chain that starts by going anywhere below may start further up. -/
theorem Chain.of_below {top : NodeId} {step : Step} {steps : List Step}
    (h : Chain s (step :: steps) c n) (hAxis : step.axis = .descendant)
    (hTop : ∀ next, Below s.nodes c next → Below s.nodes top next) :
    Chain s (step :: steps) top n := by
  cases h with
  | cons hLeads hNode hFits hRest =>
    refine .cons ?_ hNode hFits hRest
    rw [hAxis] at hLeads ⊢
    exact hTop _ hLeads

namespace PathQuery

/-! ## Queries that start anywhere -/

/-- The steps that are read come first, and the next step has the axis that the text starts with. -/
theorem stepsFrom_cases {read steps : List Step} {text : Text}
    (h : stepsFrom read text = .ok steps) :
    (text = [] ∧ steps = read.reverse) ∨
      ∃ axis rest step more, axisOf text = .ok (axis, rest) ∧ step.axis = axis ∧
        steps = read.reverse ++ step :: more := by
  fun_induction stepsFrom read text with
  | case1 read text hEmpty =>
    cases h
    exact .inl ⟨List.isEmpty_iff.mp hEmpty, rfl⟩
  | case2 => cases h
  | case3 => cases h
  | case4 => cases h
  | case5 read text _ axis rest hAxis name _ predicate rest' _ _ step ih =>
    refine .inr ⟨axis, rest, step, ?_⟩
    rcases ih h with ⟨-, rfl⟩ | ⟨-, -, next, more, -, -, rfl⟩
    · exact ⟨[], hAxis, rfl, by simp⟩
    · exact ⟨next :: more, hAxis, rfl, by simp⟩

/-- A query that starts with two slashes goes to every element below at first. -/
theorem exists_descendant_of_parse {input : Text} {query : PathQuery} (h : parse input = .ok query)
    (hSource : Text.startsWith "//" query.source = true) :
    ∃ step steps, query.steps = step :: steps ∧ step.axis = .descendant := by
  unfold parse stepsOf at h
  split at h
  · rename_i steps hSteps
    cases h
    obtain ⟨text, hText : _ = Text.trim input⟩ := Text.startsWith_iff.mp hSource
    rw [← hText] at hSteps
    obtain ⟨hEmpty, -⟩ | ⟨axis, rest, step, more, hAxis, hStep, rfl⟩ := stepsFrom_cases hSteps
    · cases hEmpty
    · cases hAxis
      exact ⟨step, more, rfl, hStep⟩
  · cases h

end PathQuery

namespace Query

/-! ## What is found inside an element -/

section Tree

variable (hTree : PreOrder s.nodes)

include hTree

theorem mem_findAll_scan {p : Node → Bool} :
    n ∈ ((candidates s none).filter p).map Node.id ↔
      ∃ node, s.get? n = some node ∧ p node = true := by
  simp only [candidates, List.mem_map, List.mem_filter]
  constructor
  · rintro ⟨node, ⟨hMem, hPicked⟩, rfl⟩
    obtain ⟨i, hi⟩ := List.mem_iff_getElem?.mp hMem
    rw [Array.getElem?_toList] at hi
    exact ⟨node, by rw [hTree.id_eq hi]; exact hi, hPicked⟩
  · rintro ⟨node, hNode, hPicked⟩
    have hGet : s.nodes[n]? = some node := hNode
    refine ⟨node, ⟨List.mem_iff_getElem?.mpr ⟨n, ?_⟩, hPicked⟩, hTree.id_eq hGet⟩
    rw [Array.getElem?_toList]
    exact hGet

theorem mem_findWithin_scan {p : Node → Bool} :
    n ∈ ((candidates s (some c)).filter p).map Node.id ↔
      n ∈ ((candidates s none).filter p).map Node.id ∧ Below s.nodes c n := by
  rw [mem_findAll_scan hTree]
  simp only [candidates, List.mem_map, List.mem_filter, Snapshot.mem_descendants_iff hTree]
  constructor
  · rintro ⟨node, ⟨⟨hNode, hBelow⟩, hPicked⟩, rfl⟩
    exact ⟨⟨node, hNode, hPicked⟩, hBelow⟩
  · rintro ⟨⟨node, hNode, hPicked⟩, hBelow⟩
    have hId : node.id = n := hTree.id_eq hNode
    subst hId
    exact ⟨node, ⟨⟨hNode, hBelow⟩, hPicked⟩, rfl⟩

variable {selector : Selector} (h : selector.WellFormed)

include h

/-- **A search inside an element finds what lies below it.** -/
theorem below_of_mem_findWithin : ∀ n ∈ findWithin s c selector, Below s.nodes c n := by
  unfold findWithin
  induction h with
  | predicate clauses => exact fun n hn => ((mem_findWithin_scan hTree).mp hn).2
  | shorthand short => exact fun n hn => ((mem_findWithin_scan hTree).mp hn).2
  | path hQuery =>
    intro n hn
    obtain ⟨start, hStart, hChain⟩ :=
      (PathQuery.mem_follow_iff hTree (PathQuery.countsFromOne_of_parse hQuery)).mp hn
    obtain rfl : start = c := List.mem_singleton.mp hStart
    exact hChain.leads_below (PathQuery.steps_ne_nil_of_parse hQuery)
  | @alternatives items _ ih =>
    unfold evaluate
    rcases firstResult_cases (s := s) (some c) items with hNone | ⟨item, hItem, hEq⟩
    · rw [hNone]
      exact fun n hn => absurd hn List.not_mem_nil
    · rw [hEq]
      exact ih item hItem

/-- Below an element that is not there, or that has no children, nothing is found. -/
theorem findWithin_eq_nil (hLeaf : s.children c = []) : findWithin s c selector = [] := by
  refine List.eq_nil_iff_forall_not_mem.mpr fun n hn => ?_
  obtain ⟨next, hLink, -⟩ :=
    Relation.TransGen.head'_iff.mp (below_of_mem_findWithin hTree h n hn)
  obtain ⟨parent, node, -, hNode, -⟩ := hTree.placed_of_link hLink
  have hId : node.id = next := hTree.id_eq hNode
  subst hId
  have hChild : node ∈ s.children c := (Snapshot.mem_children_iff hTree).mpr ⟨hNode, hLink⟩
  rw [hLeaf] at hChild
  exact List.not_mem_nil hChild

end Tree

end Query

/-- The selector looks at each element by itself. -/
inductive Selector.Scans : Selector → Prop
  | predicate (clauses : Predicate) : Scans (.predicate clauses)
  | shorthand (short : Shorthand) : Scans (.shorthand short)

theorem Selector.Scans.wellFormed {selector : Selector} (h : selector.Scans) :
    selector.WellFormed := by
  cases h with
  | predicate clauses => exact .predicate clauses
  | shorthand short => exact .shorthand short

namespace Query

section Tree

variable (hTree : PreOrder s.nodes)

include hTree

open scoped Classical in
theorem findWithin_eq_filter {selector : Selector} (h : selector.Scans) :
    findWithin s c selector =
      (findAll s selector).filter fun n => decide (Below s.nodes c n) := by
  refine List.Pairwise.eq_of_mem_iff (evaluate_sorted hTree h.wellFormed _)
    ((evaluate_sorted hTree h.wellFormed _).sublist List.filter_sublist) fun n => ?_
  rw [List.mem_filter, decide_eq_true_eq]
  cases h with
  | predicate clauses => exact mem_findWithin_scan hTree
  | shorthand short => exact mem_findWithin_scan hTree

/-- Every element but the root lies below it. -/
theorem below_rootId_iff {node : Node} (hNode : s.get? n = some node) :
    Below s.nodes rootId n ↔ n ≠ rootId := by
  refine ⟨fun hBelow hRoot => ?_, hTree.below_root hNode⟩
  rw [hRoot] at hBelow
  exact lt_irrefl _ (hTree.lt_of_below hBelow)

theorem findWithin_path_subset {input : Text} {query : PathQuery}
    (h : PathQuery.parse input = .ok query)
    (hSource : Text.startsWith "//" query.source = true) :
    findWithin s c (.path query) ⊆ findAll s (.path query) := by
  intro n hn
  have hCounts := PathQuery.countsFromOne_of_parse h
  obtain ⟨step, steps, hSteps, hAxis⟩ := PathQuery.exists_descendant_of_parse h hSource
  obtain ⟨start, hStart, hChain⟩ := (PathQuery.mem_follow_iff hTree hCounts).mp hn
  refine (PathQuery.mem_follow_iff hTree hCounts).mpr ⟨rootId, List.mem_singleton_self _, ?_⟩
  rw [hSteps] at hChain ⊢
  refine hChain.of_below hAxis fun next hBelow => ?_
  have hNode := Array.getElem?_eq_getElem hBelow.lt_size
  exact (below_rootId_iff hTree hNode).mpr (Nat.ne_zero_of_lt (hTree.lt_of_below hBelow))

theorem findWithin_root {selector : Selector} (h : selector.WellFormed)
    (hSingle : ∀ items, selector ≠ .alternatives items) :
    findWithin s rootId selector = (findAll s selector).filter fun n => n != rootId := by
  -- a search looks at elements that are there, and of these the root alone is not below the root
  refine List.Pairwise.eq_of_mem_iff (evaluate_sorted hTree h _)
    ((evaluate_sorted hTree h _).sublist List.filter_sublist) fun n => ?_
  rw [List.mem_filter, bne_iff_ne]
  have hScan : ∀ p : Node → Bool,
      n ∈ ((candidates s (some rootId)).filter p).map Node.id ↔
        n ∈ ((candidates s none).filter p).map Node.id ∧ n ≠ rootId := fun p => by
    rw [mem_findWithin_scan hTree]
    refine and_congr_right fun hn => ?_
    obtain ⟨node, hNode, -⟩ := (mem_findAll_scan hTree).mp hn
    exact below_rootId_iff hTree hNode
  cases h with
  | predicate clauses => exact hScan _
  | shorthand short => exact hScan _
  | path hQuery =>
    refine ⟨fun hn => ⟨hn, ?_⟩, And.left⟩
    obtain ⟨node, hNode⟩ := evaluate_valid hTree (.path hQuery) _ n hn
    exact (below_rootId_iff hTree hNode).mp
      (below_of_mem_findWithin hTree (.path hQuery) n hn)
  | alternatives _ => exact absurd rfl (hSingle _)

end Tree

end Query

/-- A handle that is found inside another one keeps its snapshot. -/
theorem Handle.snapshot_of_mem_findAllWithin {outer handle : Handle} {selector : Selector}
    (h : handle ∈ outer.findAllWithin selector) : handle.snapshot = outer.snapshot := by
  obtain ⟨id, -, hHandle⟩ := List.mem_filterMap.mp h
  exact (of?_cases hHandle).1

namespace Query

open scoped Classical in
/-- **A search inside an element is coherent with the search over the whole screen.** It finds
elements below the given one only, so nothing when the given id is unknown or that of a leaf. A
predicate and a shorthand selector find what they find on the screen, as far as it lies below; a
path query that starts anywhere finds no more than it does on the screen. Below the root everything
is found again but the root itself. The handles that are found keep the snapshot. -/
theorem findWithin_coherent (id : Nat) (raw : Text) (c : NodeId) (selector : Selector)
    (h : selector.WellFormed) :
    let s := Dump.parse id raw
    (∀ n ∈ findWithin s c selector, Below s.nodes c n) ∧
    (s.get? c = none ∨ s.children c = [] → findWithin s c selector = []) ∧
    (selector.Scans → findWithin s c selector =
      (findAll s selector).filter fun n => decide (Below s.nodes c n)) ∧
    (∀ query, selector = .path query → Text.startsWith "//" query.source = true →
      findWithin s c selector ⊆ findAll s selector) ∧
    ((∀ items, selector ≠ .alternatives items) →
      findWithin s rootId selector = (findAll s selector).filter fun n => n != rootId) ∧
    ∀ outer : Handle,
      (∀ handle ∈ outer.findAllWithin selector, handle.snapshot = outer.snapshot) ∧
      (outer.snapshot = s →
        (outer.findAllWithin selector).map Handle.id = findWithin s outer.id selector) := by
  intro s
  have hTree : PreOrder s.nodes := Dump.preOrder_parse id raw
  refine ⟨below_of_mem_findWithin hTree h, fun hLeaf => ?leaf,
    fun hScans => findWithin_eq_filter hTree hScans, ?subset, findWithin_root hTree h,
    fun outer => ⟨fun handle => Handle.snapshot_of_mem_findAllWithin, ?ids⟩⟩
  case leaf =>
    refine findWithin_eq_nil hTree h (hLeaf.elim (fun hUnknown => ?_) fun hNone => hNone)
    unfold Snapshot.children
    rw [hUnknown]
  case subset =>
    rintro query rfl hSource
    cases h with
    | path hQuery => exact findWithin_path_subset hTree hQuery hSource
  case ids =>
    intro hSnapshot
    rw [← hSnapshot] at hTree ⊢
    exact Handle.map_id_findAllWithin outer hTree h

/-- Every `c` below where the search starts. -/
def anyC : PathQuery := ⟨"//c", [⟨.descendant, some "c", none⟩]⟩

/-- What this query finds on a small screen lies inside the second `b`, and not inside the first. -/
theorem findWithin_coherent_anyC :
    let s := Dump.parse 1 "<a><b/><b><c/></b></a>"
    (Selector.path anyC).WellFormed ∧ findAll s (.path anyC) = [3] ∧
      findWithin s 2 (.path anyC) = [3] ∧ Below s.nodes 2 3 ∧
      findWithin s 1 (.path anyC) = [] ∧ findWithin s rootId (.path anyC) = [3] := by
  have hQuery : (Selector.path anyC).WellFormed :=
    .path (show PathQuery.parse "//c" = .ok anyC by decide +kernel)
  have hAll : findAll (Dump.parse 1 "<a><b/><b><c/></b></a>") (.path anyC) = [3] := by
    decide +kernel
  have hInside : findWithin (Dump.parse 1 "<a><b/><b><c/></b></a>") 2 (.path anyC) = [3] := by
    decide +kernel
  obtain ⟨hBelow, -⟩ := findWithin_coherent 1 "<a><b/><b><c/></b></a>" 2 _ hQuery
  obtain ⟨-, hLeaf, -, -, hRoot, -⟩ := findWithin_coherent 1 "<a><b/><b><c/></b></a>" 1 _ hQuery
  refine ⟨hQuery, hAll, hInside, hBelow 3 ?_, hLeaf (.inr (by decide +kernel)), ?_⟩
  · rw [hInside]
    exact List.mem_singleton_self 3
  · rw [hRoot (fun items hItems => nomatch hItems), hAll]
    rfl

end Query

end ScreenQuery
