import ScreenQuery.Proofs.Arena

/-!
# Navigation on a tree in document order

* `Snapshot.mem_children_iff` and `Snapshot.mem_descendants_iff` say that the lists of children and
  the runs of deeper elements, by which a snapshot is navigated, lead exactly where the parent links
  lead.
* An element lies below another when all elements after the one, up to the other, are deeper than
  it: `PreOrder.below_iff_deeper`. That is what makes a run of deeper elements out of a subtree.
* `Dump.preOrder_parse` makes all of it available for the screens of dumps, readable or not.
-/

namespace ScreenQuery

/-- An element is in the run at the front of a list when it and all before it belong to the run. -/
theorem mem_takeWhile_iff {α : Type} {p : α → Bool} {l : List α} {x : α} :
    x ∈ l.takeWhile p ↔
      ∃ k : Nat, l[k]? = some x ∧ ∀ (j : Nat) (y : α), j ≤ k → l[j]? = some y → p y = true := by
  induction l with
  | nil => simp
  | cons a l ih =>
    rw [List.takeWhile_cons]
    constructor
    · intro h
      split at h
      · rename_i ha
        rcases List.mem_cons.mp h with rfl | h
        · refine ⟨0, rfl, fun j y hj hy => ?_⟩
          rw [Nat.le_zero.mp hj] at hy
          rw [← Option.some.inj hy]
          exact ha
        · obtain ⟨k, hk, hAll⟩ := ih.mp h
          refine ⟨k + 1, hk, fun j y hj hy => ?_⟩
          cases j with
          | zero => exact Option.some.inj hy ▸ ha
          | succ j => exact hAll j y (Nat.le_of_succ_le_succ hj) hy
      · exact absurd h List.not_mem_nil
    · rintro ⟨k, hk, hAll⟩
      rw [if_pos (hAll 0 a (Nat.zero_le k) rfl)]
      cases k with
      | zero => exact Option.some.inj hk ▸ List.mem_cons_self
      | succ k =>
        exact List.mem_cons_of_mem _
          (ih.mpr ⟨k, hk, fun j y hj hy => hAll (j + 1) y (Nat.succ_le_succ hj) hy⟩)

/-- The element lies below `top`: a chain of at least one parent link leads to `top`. -/
def Below (nodes : Array Node) (top : NodeId) : NodeId → Prop := Relation.TransGen (Link nodes) top

variable {nodes : Array Node} {p i top : Nat} {parent node other : Node}

theorem Below.within (h : Below nodes top i) : Within nodes top i := h.to_reflTransGen

theorem Below.lt_size (h : Below nodes top i) : i < nodes.size := by
  obtain ⟨p, -, hLink⟩ := Relation.TransGen.tail'_iff.mp h
  exact hLink.lt_size

namespace PreOrder

variable (hTree : PreOrder nodes)

include hTree

/-- A link leads to an element that agrees with its parent. -/
theorem placed_of_link (hLink : Link nodes p i) :
    ∃ parent node, nodes[p]? = some parent ∧ nodes[i]? = some node ∧ Placed parent node := by
  obtain ⟨node, hNode, hParent⟩ := hLink
  have hRoot : i ≠ rootId := by
    intro hi
    rw [(hTree.parent_eq_none_iff hNode).mpr hi] at hParent
    cases hParent
  obtain ⟨q, parent, hq, hPlaced, -⟩ := hTree.placed hNode hRoot
  have hEq : p = q := by
    rw [hPlaced.parent_eq, hTree.id_eq hq] at hParent
    exact (Option.some.inj hParent).symm
  exact ⟨parent, node, hEq ▸ hq, hNode, hPlaced⟩

theorem lt_of_link (hLink : Link nodes p i) : p < i := by
  obtain ⟨parent, node, hParent, hNode, hPlaced⟩ := hTree.placed_of_link hLink
  have hlt := hPlaced.id_lt
  rw [hTree.id_eq hParent, hTree.id_eq hNode] at hlt
  exact hlt

theorem depth_of_link (hLink : Link nodes p i) (hParent : nodes[p]? = some parent)
    (hNode : nodes[i]? = some node) : node.depth = parent.depth + 1 := by
  obtain ⟨parent', node', hParent', hNode', hPlaced⟩ := hTree.placed_of_link hLink
  rw [hParent'] at hParent
  rw [hNode'] at hNode
  rw [← Option.some.inj hParent, ← Option.some.inj hNode]
  exact hPlaced.depth_eq

theorem lt_of_below (h : Below nodes top i) : top < i := by
  induction h with
  | single hLink => exact hTree.lt_of_link hLink
  | tail _ hLink ih => exact Nat.lt_trans ih (hTree.lt_of_link hLink)

theorem depth_lt_of_below (h : Below nodes top i) (hTop : nodes[top]? = some parent)
    (hNode : nodes[i]? = some node) : parent.depth < node.depth := by
  induction h generalizing node with
  | single hLink =>
    rw [hTree.depth_of_link hLink hTop hNode]
    exact Nat.lt_succ_self _
  | tail _ hLink ih =>
    obtain ⟨above, -, hAbove, -, -⟩ := hTree.placed_of_link hLink
    rw [hTree.depth_of_link hLink hAbove hNode]
    exact Nat.lt_succ_of_lt (ih hAbove)

/-- Every element but the root lies below the root. -/
theorem below_root (hNode : nodes[i]? = some node) (hRoot : i ≠ rootId) :
    Below nodes rootId i := by
  induction i using Nat.strong_induction_on generalizing node with
  | _ i ih =>
    obtain ⟨p, parent, hParent, hPlaced, -⟩ := hTree.placed hNode hRoot
    have hLink : Link nodes p i := ⟨node, hNode, by rw [hPlaced.parent_eq, hTree.id_eq hParent]⟩
    by_cases hp : p = rootId
    · exact .single (hp ▸ hLink)
    · exact .tail (ih p (hTree.lt_of_link hLink) hParent hp) hLink

/-- The elements between an element and one within it lie within it, too. -/
theorem within_of_between {j : Nat} (hTop : top < nodes.size) (h : Within nodes top j)
    (hi : top ≤ i) (hij : i ≤ j) : Within nodes top i := by
  obtain ⟨stop, hRun⟩ := hTree.run hTop
  exact (hRun i).mpr ⟨hi, Nat.lt_of_le_of_lt hij ((hRun j).mp h).2⟩

/-- An element that comes after `top`, with nothing but deeper elements in between, lies below
`top`. -/
theorem below_of_deeper (hTop : nodes[top]? = some parent) (hNode : nodes[i]? = some node)
    (hlt : top < i)
    (hDeeper : ∀ (j : Nat) other, top < j → j ≤ i → nodes[j]? = some other →
      parent.depth < other.depth) :
    Below nodes top i := by
  -- up the chain of parents, which cannot leave the run past `top`
  induction i using Nat.strong_induction_on generalizing node with
  | _ i ih =>
    have hRoot : i ≠ rootId := Nat.ne_of_gt (Nat.lt_of_le_of_lt (Nat.zero_le top) hlt)
    obtain ⟨p, above, hAbove, hPlaced, -⟩ := hTree.placed hNode hRoot
    have hLink : Link nodes p i := ⟨node, hNode, by rw [hPlaced.parent_eq, hTree.id_eq hAbove]⟩
    have hpi : p < i := hTree.lt_of_link hLink
    have hDepth : parent.depth < above.depth + 1 := by
      rw [← hPlaced.depth_eq]
      exact hDeeper i node hlt (Nat.le_refl i) hNode
    rcases Nat.lt_trichotomy p top with hp | rfl | hp
    · have hBelow : Below nodes p top := by
        have hWithin : Within nodes p top := hTree.within_of_between
          (Array.getElem?_eq_some_iff.mp hAbove).1 (Relation.ReflTransGen.single hLink)
          (Nat.le_of_lt hp) (Nat.le_of_lt hlt)
        rcases Relation.reflTransGen_iff_eq_or_transGen.mp hWithin with hEq | hBelow
        · exact absurd hEq (Nat.ne_of_gt hp)
        · exact hBelow
      have hDepth' := hTree.depth_lt_of_below hBelow hAbove hTop
      exact absurd hDepth (Nat.not_lt_of_le hDepth')
    · exact Relation.TransGen.single hLink
    · exact Relation.TransGen.tail
        (ih p hpi hAbove hp fun j other hj hjp =>
          hDeeper j other hj (Nat.le_trans hjp (Nat.le_of_lt hpi)))
        hLink

/-- What lies below an element is the run of deeper elements after it. -/
theorem below_iff_deeper (hTop : nodes[top]? = some parent) (hNode : nodes[i]? = some node) :
    Below nodes top i ↔ top < i ∧
      ∀ (j : Nat) other, top < j → j ≤ i → nodes[j]? = some other → parent.depth < other.depth := by
  refine ⟨fun h => ⟨hTree.lt_of_below h, fun j other hj hji hOther => ?_⟩,
    fun ⟨hlt, hDeeper⟩ => hTree.below_of_deeper hTop hNode hlt hDeeper⟩
  have hWithin : Within nodes top j := hTree.within_of_between
    (Array.getElem?_eq_some_iff.mp hTop).1 h.within (Nat.le_of_lt hj) hji
  rcases Relation.reflTransGen_iff_eq_or_transGen.mp hWithin with hEq | hBelow
  · exact absurd hEq (Nat.ne_of_gt hj)
  · exact hTree.depth_lt_of_below hBelow hTop hOther

end PreOrder

namespace Snapshot

variable {s : Snapshot} (hTree : PreOrder s.nodes)

include hTree

/-- **The children of an element are the elements that name it as their parent.** -/
theorem mem_children_iff {c : Nat} {node : Node} :
    node ∈ s.children c ↔ s.get? node.id = some node ∧ Link s.nodes c node.id := by
  unfold children
  constructor
  · intro h
    split at h
    · rename_i parent hParent
      obtain ⟨i, hi, hNode⟩ := List.mem_filterMap.mp h
      have hId : node.id = i := hTree.id_eq hNode
      rw [hId]
      exact ⟨hNode, (hTree.mem_children_iff hParent i).mp hi⟩
    · exact absurd h List.not_mem_nil
  · rintro ⟨hNode, hLink⟩
    obtain ⟨parent, -, hParent, -, -⟩ := hTree.placed_of_link hLink
    have hGet : s.get? c = some parent := hParent
    rw [hGet]
    exact List.mem_filterMap.mpr ⟨node.id, (hTree.mem_children_iff hParent _).mpr hLink, hNode⟩

/-- **The descendants of an element are the elements below it by parent links.** -/
theorem mem_descendants_iff {c : Nat} {node : Node} :
    node ∈ s.descendants c ↔ s.get? node.id = some node ∧ Below s.nodes c node.id := by
  unfold descendants
  cases hTop : s.get? c with
  | none =>
    refine ⟨fun h => absurd h List.not_mem_nil, fun ⟨_, hBelow⟩ => ?_⟩
    obtain ⟨next, hLink, -⟩ := Relation.TransGen.head'_iff.mp hBelow
    obtain ⟨parent, -, hParent, -, -⟩ := hTree.placed_of_link hLink
    have hGet : s.get? c = some parent := hParent
    rw [hTop] at hGet
    cases hGet
  | some top =>
    have hTop' : s.nodes[c]? = some top := hTop
    have hDrop : ∀ k, (s.nodes.toList.drop (c + 1))[k]? = s.nodes[c + 1 + k]? := by
      intro k
      rw [List.getElem?_drop, Array.getElem?_toList]
    simp only [mem_takeWhile_iff, hDrop, decide_eq_true_eq]
    constructor
    · rintro ⟨k, hNode, hDeeper⟩
      have hId : node.id = c + 1 + k := hTree.id_eq hNode
      rw [hId]
      refine ⟨hNode, (hTree.below_iff_deeper hTop' hNode).mpr ⟨by omega, fun j other hj hji => ?_⟩⟩
      obtain ⟨m, rfl⟩ : ∃ m, j = c + 1 + m := ⟨j - (c + 1), by omega⟩
      exact hDeeper m other (by omega)
    · rintro ⟨hNode, hBelow⟩
      obtain ⟨hlt, hDeeper⟩ := (hTree.below_iff_deeper hTop' hNode).mp hBelow
      obtain ⟨k, hk⟩ := Nat.exists_eq_add_of_le (Nat.succ_le_of_lt hlt)
      have hNode' : s.nodes[node.id]? = some node := hNode
      rw [hk] at hNode' hDeeper
      exact ⟨k, hNode', fun j other hj => hDeeper (c + 1 + j) other (by omega) (by omega)⟩

end Snapshot

/-- The elements of a dump are a tree in document order, also when the dump cannot be read. -/
theorem Dump.preOrder_parse (id : Nat) (raw : Text) : PreOrder (Dump.parse id raw).nodes := by
  rcases Dump.parse_cases id raw with ⟨reason, h⟩ | ⟨-, h⟩
  · rw [h]
    exact (grown_singleton rfl rfl rfl rfl rfl).preOrder Nat.zero_lt_one
  · exact h

end ScreenQuery
