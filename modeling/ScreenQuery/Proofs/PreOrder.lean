import ScreenQuery.Node
import Mathlib.Data.List.Nodup
import Mathlib.Data.Nat.Find
import Mathlib.Logic.Relation

/-!
# Elements in document order

An array of elements is read as a tree in two ways that have to agree: every element names the one
that it lies in, and every element lists the ones directly inside it.

* `Link` is what the `parent` fields alone say, and `Within` is its reflexive and transitive
  closure: an element lies within another when a chain of parents leads from the one to the other.
* `PreOrder` is the whole shape of a tree in document order, as a reader of the array would state
  it. Its last field is the one that no single element shows: what lies within an element is a run
  of neighbours in the array.
* `Grown` is what holds of the elements while a dump is still being read. In place of runs it has
  `turn`: a new element is always put under an element that the one before it lies within.
  `Grown.within_of_between` makes the runs out of these turns, and `Grown.preOrder` the whole shape.
-/

namespace ScreenQuery

/-- The element at `child` names the one at `parent` as the one that it lies in. -/
def Link (nodes : Array Node) (parent child : NodeId) : Prop :=
  ∃ node, nodes[child]? = some node ∧ node.parent = some parent

/-- A chain of parents leads to `top`; it may be empty. -/
def Within (nodes : Array Node) (top : NodeId) : NodeId → Prop :=
  Relation.ReflTransGen (Link nodes) top

/-- An element directly inside another agrees with it. -/
structure Placed (parent node : Node) : Prop where
  parent_eq : node.parent = some parent.id
  id_lt : parent.id < node.id
  depth_eq : node.depth = parent.depth + 1
  /-- The path goes on with the position among the children of the parent. -/
  path_eq : ∃ position, parent.children[position]? = some node.id ∧
    node.path = parent.path ++ '.' :: Text.ofNat position

/-- The elements are those of a tree, in document order. -/
structure PreOrder (nodes : Array Node) : Prop where
  nonempty : 0 < nodes.size
  id_eq : ∀ {i : NodeId} {node : Node}, nodes[i]? = some node → node.id = i
  root : ∀ {node : Node}, nodes[rootId]? = some node → node.depth = 0 ∧ node.path = "0"
  /-- The root alone lies in no other element. -/
  parent_eq_none_iff : ∀ {i : NodeId} {node : Node}, nodes[i]? = some node →
    (node.parent = none ↔ i = rootId)
  /-- Any other element follows its parent, which lists it once. -/
  placed : ∀ {i : NodeId} {node : Node}, nodes[i]? = some node → i ≠ rootId →
    ∃ (p : NodeId) (parent : Node), nodes[p]? = some parent ∧ Placed parent node ∧
      parent.children.count i = 1
  children_sorted : ∀ {p : NodeId} {parent : Node}, nodes[p]? = some parent →
    parent.children.Pairwise (· < ·)
  mem_children_iff : ∀ {p : NodeId} {parent : Node}, nodes[p]? = some parent →
    ∀ i, i ∈ parent.children ↔ Link nodes p i
  /-- What lies within an element is a run of the array that starts with the element. -/
  run : ∀ {top : NodeId}, top < nodes.size → ∃ stop, ∀ i, Within nodes top i ↔ top ≤ i ∧ i < stop

/-- The elements read so far are those of a tree in document order. -/
structure Grown (nodes : Array Node) : Prop where
  id_eq : ∀ {i : NodeId} {node : Node}, nodes[i]? = some node → node.id = i
  root : ∀ {node : Node}, nodes[rootId]? = some node →
    node.parent = none ∧ node.depth = 0 ∧ node.path = "0"
  placed : ∀ {i : NodeId} {node : Node}, nodes[i]? = some node → i ≠ rootId →
    ∃ (p : NodeId) (parent : Node), nodes[p]? = some parent ∧ Placed parent node
  children_sorted : ∀ {p : NodeId} {parent : Node}, nodes[p]? = some parent →
    parent.children.Pairwise (· < ·)
  mem_children_iff : ∀ {p : NodeId} {parent : Node}, nodes[p]? = some parent →
    ∀ i, i ∈ parent.children ↔ Link nodes p i
  /-- An element lies in one that the element before it lies within. -/
  turn : ∀ {p i : NodeId}, Link nodes p (i + 1) → Within nodes p i

variable {nodes : Array Node} {p i top : NodeId}

theorem Link.lt_size (h : Link nodes p i) : i < nodes.size := by
  obtain ⟨node, hNode, -⟩ := h
  exact (Array.getElem?_eq_some_iff.mp hNode).1

/-- Nothing but the element itself lies within it, or its chain of parents has a last link. -/
theorem within_iff : Within nodes top i ↔ i = top ∨ ∃ p, Within nodes top p ∧ Link nodes p i :=
  Relation.ReflTransGen.cases_tail_iff _ _ _

theorem Within.lt_size (h : Within nodes top i) (hTop : top < nodes.size) : i < nodes.size := by
  rcases within_iff.mp h with rfl | ⟨p, -, hLink⟩
  · exact hTop
  · exact hLink.lt_size

namespace Grown

theorem empty : Grown #[] where
  id_eq := fun h => by simp at h
  root := fun h => by simp at h
  placed := fun h => by simp at h
  children_sorted := fun h => by simp at h
  mem_children_iff := fun h => by simp at h
  turn := fun ⟨_, h, _⟩ => by simp at h

theorem link_lt (hGrown : Grown nodes) (h : Link nodes p i) : p < i := by
  obtain ⟨node, hNode, hParent⟩ := h
  have hRoot : i ≠ rootId := by
    rintro rfl
    rw [(hGrown.root hNode).1] at hParent
    cases hParent
  obtain ⟨q, parent, hq, hPlaced⟩ := hGrown.placed hNode hRoot
  have hp : p = parent.id := by
    rw [hPlaced.parent_eq] at hParent
    exact (Option.some.inj hParent).symm
  rw [hp, ← hGrown.id_eq hNode]
  exact hPlaced.id_lt

theorem le_of_within (hGrown : Grown nodes) (h : Within nodes top i) : top ≤ i := by
  induction h with
  | refl => exact Nat.le_refl _
  | tail _ hLink ih => exact Nat.le_of_lt (Nat.lt_of_le_of_lt ih (hGrown.link_lt hLink))

/-- The elements between an element and one within it lie within it, too. -/
theorem within_of_between (hGrown : Grown nodes) {j : NodeId} (h : Within nodes top j)
    (hTop : top ≤ i) (hi : i ≤ j) : Within nodes top i := by
  -- from `j` back to `i`, one turn at a time
  induction j with
  | zero =>
    rw [Nat.le_zero.mp hi]
    exact h
  | succ j ih =>
    rcases Nat.lt_or_ge j i with hlt | hle
    · rw [Nat.le_antisymm hi hlt]
      exact h
    · rcases within_iff.mp h with rfl | ⟨p, hp, hLink⟩
      · exact absurd (Nat.le_trans hTop hle) (Nat.not_succ_le_self j)
      · exact ih (Relation.ReflTransGen.trans hp (hGrown.turn hLink)) hle

/-- What lies within an element is a run of the array. -/
theorem exists_stop (hGrown : Grown nodes) (hTop : top < nodes.size) :
    ∃ stop, ∀ i, Within nodes top i ↔ top ≤ i ∧ i < stop := by
  classical
  have hEnd : ∃ stop, top ≤ stop ∧ ¬ Within nodes top stop :=
    ⟨nodes.size, Nat.le_of_lt hTop, fun h => Nat.lt_irrefl _ (h.lt_size hTop)⟩
  refine ⟨Nat.find hEnd, fun i => ⟨fun h => ⟨hGrown.le_of_within h, ?_⟩, fun ⟨hle, hlt⟩ => ?_⟩⟩
  · obtain ⟨hStop, hOut⟩ := Nat.find_spec hEnd
    by_contra hc
    exact hOut (hGrown.within_of_between h hStop (Nat.le_of_not_lt hc))
  · by_contra hc
    exact Nat.find_min hEnd hlt ⟨hle, hc⟩

theorem parent_eq_none_iff (hGrown : Grown nodes) {node : Node} (hNode : nodes[i]? = some node) :
    node.parent = none ↔ i = rootId := by
  constructor
  · intro hNone
    by_contra hc
    obtain ⟨p, parent, -, hPlaced⟩ := hGrown.placed hNode hc
    rw [hPlaced.parent_eq] at hNone
    cases hNone
  · rintro rfl
    exact (hGrown.root hNode).1

/-- **All elements of a dump together are a tree in document order.** -/
theorem preOrder (hGrown : Grown nodes) (hSize : 0 < nodes.size) : PreOrder nodes where
  nonempty := hSize
  id_eq := hGrown.id_eq
  root := fun h => (hGrown.root h).2
  parent_eq_none_iff := hGrown.parent_eq_none_iff
  placed := fun {i node} hNode hRoot => by
    obtain ⟨p, parent, hParent, hPlaced⟩ := hGrown.placed hNode hRoot
    have hNodup : parent.children.Nodup :=
      (hGrown.children_sorted hParent).imp fun h => Nat.ne_of_lt h
    have hMem : i ∈ parent.children := by
      obtain ⟨position, hPosition, -⟩ := hPlaced.path_eq
      rw [hGrown.id_eq hNode] at hPosition
      exact List.mem_of_getElem? hPosition
    exact ⟨p, parent, hParent, hPlaced, List.count_eq_one_of_mem hNodup hMem⟩
  children_sorted := hGrown.children_sorted
  mem_children_iff := hGrown.mem_children_iff
  run := hGrown.exists_stop

end Grown

end ScreenQuery
