import ScreenQuery.Proofs.Dump.Draft
import ScreenQuery.Proofs.Dump.Elements
import ScreenQuery.Proofs.Record

/-!
# The elements of a dump can be stored

The text of an element denotes it again when its numbers have 64 bits and its extra attributes are
in order. Both hold of every element of a screen, unless the screen has more elements than there are
numbers of 64 bits.

* Extra attributes come in one by one, and each is put in its place (`lasting_ordered`).
* In a tree in document order no number of an element is larger than its place, or than the places
  of the other elements (`PreOrder.depth_le`, `PreOrder.storable`).
-/

namespace ScreenQuery

namespace PreOrder

variable {nodes : Array Node} {i : NodeId} {node : Node}

/-- An element is no deeper than there are elements before it. -/
theorem depth_le (h : PreOrder nodes) (hNode : nodes[i]? = some node) : node.depth ≤ i := by
  induction i using Nat.strongRecOn generalizing node with
  | ind i ih =>
    by_cases hRoot : i = rootId
    · subst hRoot
      exact (h.root hNode).1.le
    · obtain ⟨p, parent, hParent, hPlaced, -⟩ := h.placed hNode hRoot
      have hBefore := hPlaced.id_lt
      rw [h.id_eq hParent, h.id_eq hNode] at hBefore
      rw [hPlaced.depth_eq]
      exact Nat.succ_le_of_lt ((ih p hBefore hParent).trans_lt hBefore)

theorem storable (h : PreOrder nodes) (hSize : nodes.size ≤ UInt64.size)
    (hOrdered : node.extras.Ordered) (hNode : nodes[i]? = some node) : node.Storable := by
  have hPlace : ∀ {j : NodeId}, j < nodes.size → j ≤ Text.uint64Limit := fun hj =>
    Nat.le_sub_one_of_lt (hj.trans_le hSize)
  have hLt : i < nodes.size := (Array.getElem?_eq_some_iff.mp hNode).1
  constructor
  case id_le => exact h.id_eq hNode ▸ hPlace hLt
  case depth_le => exact (h.depth_le hNode).trans (hPlace hLt)
  case parent_le =>
    intro id hId
    have hRoot : i ≠ rootId := fun hRoot => by
      rw [(h.parent_eq_none_iff hNode).mpr hRoot] at hId
      cases hId
    obtain ⟨p, parent, hParent, hPlaced, -⟩ := h.placed hNode hRoot
    rw [hPlaced.parent_eq, h.id_eq hParent] at hId
    cases hId
    exact hPlace (Array.getElem?_eq_some_iff.mp hParent).1
  case children_le =>
    intro id hId
    exact hPlace ((h.mem_children_iff hNode id).mp hId).lt_size
  case extras_ordered => exact hOrdered

end PreOrder

namespace Dump

theorem Draft.Applied.ordered {draft after : Draft} {name value : Text}
    (h : draft.Applied value name after) (hOrdered : draft.extras.Ordered) :
    after.extras.Ordered := by
  cases h with
  | extra => exact hOrdered.insert name value
  | flag | className | resourceId | text | description | package | index | bounds => exact hOrdered

theorem lasting_ordered : Lasting fun node => node.extras.Ordered where
  made := fun _ hDraft => Draft.kept_ofTag List.Pairwise.nil Draft.Applied.ordered hDraft
  kept := fun _ hOrdered => hOrdered
  degraded := fun _ => List.Pairwise.nil

/-- **Every element of a screen of at most 2⁶⁴ elements is read back from its text.** -/
theorem read?_element {id : Nat} {raw : Text} (hSize : (parse id raw).nodes.size ≤ UInt64.size)
    {i : NodeId} {node : Node} (hNode : (parse id raw).nodes[i]? = some node) :
    Record.read? Node.ofTerm? node.toJson.compact = some node := by
  refine Record.read?_toJson ?_
  rcases parse_cases id raw with ⟨reason, hDegraded⟩ | ⟨-, hOrder⟩
  · rw [hDegraded] at hNode
    cases i with
    | zero =>
      cases hNode
      exact ⟨Nat.zero_le _, Nat.zero_le _, nofun, List.forall_mem_nil _, List.Pairwise.nil⟩
    | succ i => cases hNode
  · exact hOrder.storable hSize (lasting_ordered.parse id raw i node hNode) hNode

end Dump

end ScreenQuery
