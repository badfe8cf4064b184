import ScreenQuery.Proofs.Query
import Mathlib.Data.List.Sort

/-!
# Three views of a subtree

* `descendants` cuts a run out of the array and looks at depths only. `Snapshot.Flattens` says in
  words what a reader of a tree expects instead: take an element, then everything inside it by its
  list of children, then go on. A third view looks at parent links only, which is `Below`.
* A flattening ends (`exists_flattens`), lists what lies within its tops (`Flattens.mem_iff`), and
  lists it in the order of ids (`Flattens.sorted`). A subtree does not reach past the next sibling,
  and so a flattening never has to sort.
* Lists of elements that are sorted by id are equal when they have the same members
  (`eq_of_sorted`), which brings the three views together in `navigable_of_preOrder`.

About `parent`, `children` and `descendants` of `Snapshot`.
-/

namespace ScreenQuery

/-- A flattening of `forest`: each of its elements comes right before everything inside it, and what
is inside it is the flattening of its children. -/
inductive Snapshot.Flattens (s : Snapshot) : List Node → List Node → Prop
  | nil : s.Flattens [] []
  | cons {node : Node} {rest inside after : List Node}
      (hInside : s.Flattens (s.children node.id) inside) (hRest : s.Flattens rest after) :
      s.Flattens (node :: rest) (node :: (inside ++ after))

open scoped Classical in
/-- The ways to walk through a snapshot agree with each other. -/
structure Snapshot.Navigable (s : Snapshot) : Prop where
  /-- The run of deeper elements is what following the children again and again gives. -/
  flattens_iff : ∀ (c : NodeId) (found : List Node),
    s.Flattens (s.children c) found ↔ found = s.descendants c
  /-- It is all elements whose chain of parents passes through the element, which is not one. -/
  descendants_eq : ∀ c : NodeId,
    s.descendants c = s.nodes.toList.filter fun node => decide (Below s.nodes c node.id)
  increasing : ∀ c : NodeId, (s.descendants c).Pairwise fun a b => a.id < b.id
  descendants_root : s.descendants rootId = s.nodes.toList.tail
  parent_iff : ∀ p c : NodeId,
    (∃ parent, s.get? p = some parent ∧ s.parent? c = some parent) ↔
      ∃ node, s.get? c = some node ∧ node ∈ s.children p
  of_unknown : ∀ c : NodeId, s.get? c = none →
    s.parent? c = none ∧ s.children c = [] ∧ s.descendants c = []

variable {s : Snapshot} {c : NodeId} {node other : Node} {forest found : List Node}

/-- Lists that are sorted by id are equal when they have the same members. -/
theorem eq_of_sorted {l l' : List Node} (h : l.Pairwise fun a b => a.id < b.id)
    (h' : l'.Pairwise fun a b => a.id < b.id) (hMem : ∀ node, node ∈ l ↔ node ∈ l') : l = l' := by
  have : Std.Irrefl fun a b : Node => a.id < b.id := ⟨fun a => Nat.lt_irrefl a.id⟩
  have : Std.Antisymm fun a b : Node => a.id < b.id :=
    ⟨fun a b hab hba => absurd hba (Nat.lt_asymm hab)⟩
  exact h.eq_of_mem_iff h' hMem

/-! ## Flattening -/

namespace Snapshot

/-- A forest has a flattening when the children of each of its tops have one. -/
theorem exists_flattens_forest (forest : List Node)
    (h : ∀ top ∈ forest, ∃ inside, s.Flattens (s.children top.id) inside) :
    ∃ found, s.Flattens forest found := by
  induction forest with
  | nil => exact ⟨[], .nil⟩
  | cons top rest ih =>
    obtain ⟨⟨inside, hInside⟩, hRest⟩ := List.forall_mem_cons.mp h
    obtain ⟨after, hAfter⟩ := ih hRest
    exact ⟨_, .cons hInside hAfter⟩

section Tree

variable (hTree : PreOrder s.nodes)

include hTree

theorem get?_of_mem_children (h : node ∈ s.children c) : s.get? node.id = some node :=
  ((mem_children_iff hTree).mp h).1

/-- What lies within the children of an element is what lies below it. -/
theorem exists_child_within_iff {i : NodeId} :
    (∃ child ∈ s.children c, Within s.nodes child.id i) ↔ Below s.nodes c i := by
  constructor
  · rintro ⟨child, hChild, hWithin⟩
    exact .head' ((mem_children_iff hTree).mp hChild).2 hWithin
  · intro hBelow
    obtain ⟨next, hLink, hWithin⟩ := Relation.TransGen.head'_iff.mp hBelow
    obtain ⟨-, child, -, hChild, -⟩ := hTree.placed_of_link hLink
    obtain rfl : child.id = next := hTree.id_eq hChild
    exact ⟨child, (mem_children_iff hTree).mpr ⟨hChild, hLink⟩, hWithin⟩

/-- Following the children comes to an end, as their ids grow. -/
theorem exists_flattens (c : NodeId) : ∃ found, s.Flattens (s.children c) found := by
  induction hLeft : s.nodes.size - c using Nat.strong_induction_on generalizing c with
  | _ left ih =>
    refine exists_flattens_forest _ fun child hChild => ?_
    obtain ⟨-, hLink⟩ := (mem_children_iff hTree).mp hChild
    have hLater : c < child.id := hTree.lt_of_link hLink
    exact ih _ (hLeft ▸ Nat.sub_lt_sub_left (hLater.trans hLink.lt_size) hLater) child.id rfl

/-- A flattening lists what lies within its tops. -/
theorem Flattens.mem_iff (h : s.Flattens forest found)
    (hForest : ∀ top ∈ forest, s.get? top.id = some top) :
    other ∈ found ↔
      s.get? other.id = some other ∧ ∃ top ∈ forest, Within s.nodes top.id other.id := by
  induction h with
  | nil => simp
  | @cons top rest inside after _ _ ihInside ihRest =>
    obtain ⟨hTop, hRest⟩ := List.forall_mem_cons.mp hForest
    have hSelf : other = top ↔ s.get? other.id = some other ∧ other.id = top.id := by
      constructor
      · rintro rfl
        exact ⟨hTop, rfl⟩
      · rintro ⟨hOther, hId⟩
        rw [hId, hTop] at hOther
        exact (Option.some.inj hOther).symm
    rw [List.mem_cons, List.mem_append, hSelf,
      ihInside fun child hChild => get?_of_mem_children hTree hChild,
      exists_child_within_iff hTree, ihRest hRest, ← and_or_left, ← and_or_left, ← or_assoc,
      List.exists_mem_cons_iff]
    exact and_congr_right fun _ =>
      or_congr_left Relation.reflTransGen_iff_eq_or_transGen.symm

/-- The tops of a forest whose trees follow each other. -/
def Apart (nodes : Array Node) (a b : Node) : Prop := a.id < b.id ∧ ¬ Within nodes a.id b.id

/-- What lies within an element comes before what lies within one that is after it and apart. -/
theorem Apart.lt {a b : Node} {i j : NodeId} (hApart : Apart s.nodes a b)
    (hA : s.get? a.id = some a) (hi : Within s.nodes a.id i) (hj : Within s.nodes b.id j) :
    i < j := by
  obtain ⟨hLt, hOut⟩ := hApart
  have hSize : a.id < s.nodes.size := (Array.getElem?_eq_some_iff.mp hA).1
  have hBefore : i < b.id := by
    by_contra hc
    exact hOut (hTree.within_of_between hSize hi hLt.le (Nat.le_of_not_lt hc))
  rcases Relation.reflTransGen_iff_eq_or_transGen.mp hj with rfl | hBelow
  · exact hBefore
  · exact hBefore.trans (hTree.lt_of_below hBelow)

/-- The children of an element are in the order of their ids. None lies within another, as all are
at one depth. -/
theorem children_apart (c : NodeId) : (s.children c).Pairwise (Apart s.nodes) := by
  have hSorted : (s.children c).Pairwise fun a b => a.id < b.id := by
    unfold children
    split
    · rename_i parent hParent
      refine (hTree.children_sorted hParent).filterMap s.get? fun i j hij a ha b hb => ?_
      rw [hTree.id_eq ha, hTree.id_eq hb]
      exact hij
    · exact .nil
  refine hSorted.imp_of_mem fun {a b} ha hb hLt => ⟨hLt, fun hWithin => ?_⟩
  obtain ⟨hA, hLinkA⟩ := (mem_children_iff hTree).mp ha
  obtain ⟨hB, hLinkB⟩ := (mem_children_iff hTree).mp hb
  rcases Relation.reflTransGen_iff_eq_or_transGen.mp hWithin with hEq | hBelow
  · exact hLt.ne hEq.symm
  · obtain ⟨parent, -, hParent, -, -⟩ := hTree.placed_of_link hLinkA
    have hDepth := hTree.depth_lt_of_below hBelow hA hB
    rw [hTree.depth_of_link hLinkA hParent hA, hTree.depth_of_link hLinkB hParent hB] at hDepth
    exact lt_irrefl _ hDepth

/-- A flattening is in the order of ids when the trees of its tops follow each other. -/
theorem Flattens.sorted (h : s.Flattens forest found)
    (hForest : ∀ top ∈ forest, s.get? top.id = some top)
    (hApart : forest.Pairwise (Apart s.nodes)) : found.Pairwise fun a b => a.id < b.id := by
  induction h with
  | nil => exact .nil
  | @cons top rest inside after hInside hAfter ihInside ihRest =>
    obtain ⟨hTop, hRest⟩ := List.forall_mem_cons.mp hForest
    obtain ⟨hTopApart, hRestApart⟩ := List.pairwise_cons.mp hApart
    have hChildren : ∀ child ∈ s.children top.id, s.get? child.id = some child :=
      fun child hChild => get?_of_mem_children hTree hChild
    have hBelow : ∀ node ∈ inside, Below s.nodes top.id node.id := fun node hNode =>
      (exists_child_within_iff hTree).mp ((hInside.mem_iff hTree hChildren).mp hNode).2
    have hLater : ∀ i, Within s.nodes top.id i → ∀ node ∈ after, i < node.id := by
      intro i hi node hNode
      obtain ⟨-, next, hNext, hWithin⟩ := (hAfter.mem_iff hTree hRest).mp hNode
      exact (hTopApart next hNext).lt hTree hTop hi hWithin
    refine List.pairwise_cons.mpr ⟨fun node hNode => ?_, List.pairwise_append.mpr
      ⟨ihInside hChildren (children_apart hTree _), ihRest hRest hRestApart, fun node hNode =>
        hLater node.id (hBelow node hNode).within⟩⟩
    rcases List.mem_append.mp hNode with hNode | hNode
    · exact hTree.lt_of_below (hBelow node hNode)
    · exact hLater top.id .refl node hNode

/-! ## The three views -/

theorem nodes_sorted : s.nodes.toList.Pairwise fun a b => a.id < b.id := by
  rw [← List.pairwise_map, hTree.map_id_eq_range]
  exact List.pairwise_lt_range

theorem mem_nodes_iff : node ∈ s.nodes.toList ↔ s.get? node.id = some node := by
  rw [List.mem_iff_getElem?]
  refine ⟨fun ⟨i, hi⟩ => ?_, fun h => ⟨node.id, by rw [Array.getElem?_toList]; exact h⟩⟩
  rw [Array.getElem?_toList] at hi
  rw [hTree.id_eq hi]
  exact hi

theorem descendants_sorted (c : NodeId) :
    (s.descendants c).Pairwise fun a b => a.id < b.id :=
  (nodes_sorted hTree).sublist (Query.candidates_sublist (some c))

open scoped Classical in
theorem descendants_eq_filter (c : NodeId) :
    s.descendants c = s.nodes.toList.filter fun node => decide (Below s.nodes c node.id) := by
  refine eq_of_sorted (descendants_sorted hTree c) ((nodes_sorted hTree).filter _) fun node => ?_
  rw [mem_descendants_iff hTree, List.mem_filter, mem_nodes_iff hTree, decide_eq_true_eq]

theorem eq_descendants_of_flattens (h : s.Flattens (s.children c) found) :
    found = s.descendants c := by
  have hChildren : ∀ child ∈ s.children c, s.get? child.id = some child :=
    fun child hChild => get?_of_mem_children hTree hChild
  refine eq_of_sorted (h.sorted hTree hChildren (children_apart hTree c))
    (descendants_sorted hTree c) fun node => ?_
  rw [h.mem_iff hTree hChildren, exists_child_within_iff hTree, mem_descendants_iff hTree]

/-- All but the root is deeper than the root. -/
theorem descendants_root : s.descendants rootId = s.nodes.toList.tail := by
  obtain ⟨root, hRoot⟩ : ∃ root, s.get? rootId = some root :=
    ⟨_, Array.getElem?_eq_getElem hTree.nonempty⟩
  unfold descendants
  rw [hRoot]
  show List.takeWhile _ (s.nodes.toList.drop 1) = _
  rw [List.drop_one, List.takeWhile_eq_self_iff]
  intro node hNode
  obtain ⟨i, hi⟩ := List.mem_iff_getElem?.mp hNode
  rw [List.getElem?_tail, Array.getElem?_toList] at hi
  exact decide_eq_true
    (hTree.depth_lt_of_below (hTree.below_root hi (Nat.succ_ne_zero i)) hRoot hi)

theorem parent?_iff_mem_children (p c : NodeId) :
    (∃ parent, s.get? p = some parent ∧ s.parent? c = some parent) ↔
      ∃ node, s.get? c = some node ∧ node ∈ s.children p := by
  constructor
  · rintro ⟨parent, hParent, h⟩
    obtain ⟨node, hNode, hAbove⟩ := Option.bind_eq_some_iff.mp h
    obtain ⟨q, hq, hGet⟩ := Option.bind_eq_some_iff.mp hAbove
    obtain rfl : p = q := (hTree.id_eq hParent).symm.trans (hTree.id_eq hGet)
    obtain rfl : node.id = c := hTree.id_eq hNode
    exact ⟨node, hNode, (mem_children_iff hTree).mpr ⟨hNode, node, hNode, hq⟩⟩
  · rintro ⟨node, hNode, hChild⟩
    obtain ⟨-, hLink⟩ := (mem_children_iff hTree).mp hChild
    obtain ⟨parent, -, hParent, -, -⟩ := hTree.placed_of_link hLink
    obtain ⟨node', hNode', hAbove⟩ := hLink
    obtain rfl : node.id = c := hTree.id_eq hNode
    have hSame : node' = node := Option.some.inj (hNode'.symm.trans hNode)
    refine ⟨parent, hParent, Option.bind_eq_some_iff.mpr ⟨node, hNode, ?_⟩⟩
    exact Option.bind_eq_some_iff.mpr ⟨p, hSame ▸ hAbove, hParent⟩

/-- In a tree in document order, all ways to walk agree. -/
theorem navigable_of_preOrder : s.Navigable where
  flattens_iff := by
    refine fun c found => ⟨eq_descendants_of_flattens hTree, ?_⟩
    rintro rfl
    obtain ⟨found, hFound⟩ := exists_flattens hTree c
    exact eq_descendants_of_flattens hTree hFound ▸ hFound
  descendants_eq := descendants_eq_filter hTree
  increasing := descendants_sorted hTree
  descendants_root := descendants_root hTree
  parent_iff := parent?_iff_mem_children hTree
  of_unknown := by
    intro c hNone
    refine ⟨?_, ?_, ?_⟩
    · simp only [parent?, hNone]
      rfl
    · simp only [children, hNone]
    · simp only [descendants, hNone]

end Tree
end Snapshot

/-- **On the screen of any dump, readable or not, the run of deeper elements after an element is its
subtree**, as its lists of children and as the chains of parents have it. -/
theorem Dump.navigable_parse (id : Nat) (raw : Text) : (Dump.parse id raw).Navigable :=
  Snapshot.navigable_of_preOrder (Dump.preOrder_parse id raw)

end ScreenQuery
