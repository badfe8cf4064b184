import ScreenQuery.Proofs.Navigation
import ScreenQuery.Proofs.Text.Numeral

/-!
# Descriptions tell siblings apart

An element is described by its own name, and siblings of one name by a number as well. The number is
found by a search among the children of the parent.

* `Snapshot.sharing` looks at the whole document instead: the elements with some parent and some
  name, in document order. In a tree in document order it is the list that the search goes through
  (`twins_eq_sharing`).
* The ids of such a list grow, so the search finds each of its elements where it stands
  (`findIdx?_of_sorted`), and the numbers are one, two, and so on (`describe_of_sharing`).
* `Snapshot.Described` says what follows for a reader: numbers are given just where they are needed,
  and then no two siblings have the same description.

About `describe` of `Snapshot`, with `base_selector`.
-/

namespace ScreenQuery

/-- A list that is sorted by id is searched for an id where it stands. -/
theorem findIdx?_of_sorted {l : List Node} (h : l.Pairwise fun a b => a.id < b.id) {k : Nat}
    {node : Node} (hGet : l[k]? = some node) :
    l.findIdx? (fun other => other.id == node.id) = some k := by
  obtain ⟨hk, rfl⟩ := List.getElem?_eq_some_iff.mp hGet
  refine List.findIdx?_eq_some_iff_getElem.mpr ⟨hk, beq_self_eq_true _, fun j hj => ?_⟩
  have hLt := List.pairwise_iff_getElem.mp h j k (hj.trans hk) hk hj
  exact fun hSame => hLt.ne (beq_iff_eq.mp hSame)

namespace Snapshot

/-- A name with a number. -/
def numbered (name : Text) (k : Nat) : Text := name ++ ":nth(" ++ Text.ofNat k ++ ")"

/-- The elements directly inside `parent` whose own name is `name`, in document order. -/
def sharing (s : Snapshot) (parent : NodeId) (name : Text) : List Node :=
  s.nodes.toList.filter fun node =>
    decide (node.parent = some parent) && decide (baseDescription node = name)

/-- Two elements lie directly inside the same one, and their own names are the same. -/
structure Namesakes (s : Snapshot) (a b : Node) : Prop where
  left : s.get? a.id = some a
  right : s.get? b.id = some b
  inside : ∃ parent, a.parent = some parent ∧ b.parent = some parent
  name_eq : baseDescription a = baseDescription b

/-- What descriptions tell. -/
structure Described (s : Snapshot) : Prop where
  /-- The own name is all there is, but for elements that have a namesake. -/
  own_name : ∀ node, s.get? node.id = some node →
    (∀ other, s.Namesakes node other → other = node) → s.describe node.id = baseDescription node
  /-- An element has a number just when it has a namesake. -/
  numbered_iff : ∀ node, s.get? node.id = some node →
    ((∃ k, s.describe node.id = numbered (baseDescription node) k) ↔
      ∃ other, s.Namesakes node other ∧ other ≠ node)
  /-- Namesakes are counted from one, in document order. -/
  counted : ∀ parent name, 2 ≤ (s.sharing parent name).length →
    (s.sharing parent name).map (fun node => s.describe node.id) =
      (List.range (s.sharing parent name).length).map fun k => numbered name (k + 1)
  /-- Namesakes have different descriptions. -/
  distinct : ∀ node other, s.Namesakes node other → other ≠ node →
    s.describe other.id ≠ s.describe node.id
  /-- The search for an element among its siblings finds it. -/
  found : ∀ node parent, s.get? node.id = some node → node.parent = some parent →
    ∃ k, (s.twins node parent).findIdx? (fun other => other.id == node.id) = some k

/-! ## Numbers -/

theorem numbered_inj {name : Text} {j k : Nat} : numbered name j = numbered name k ↔ j = k := by
  unfold numbered
  rw [List.append_cancel_right_eq, List.append_cancel_left_eq, Text.ofNat_inj]

theorem numbered_ne (name : Text) (k : Nat) : numbered name k ≠ name := by
  rw [numbered, List.append_assoc, List.append_assoc, Ne, List.append_right_eq_self]
  exact List.cons_ne_nil _ _

/-! ## Namesakes -/

variable {s : Snapshot} {node other : Node} {parent : NodeId} {name : Text}

section Tree

variable (hTree : PreOrder s.nodes)

include hTree

theorem sharing_sorted (parent : NodeId) (name : Text) :
    (s.sharing parent name).Pairwise fun a b => a.id < b.id :=
  (nodes_sorted hTree).filter _

theorem mem_sharing_iff : node ∈ s.sharing parent name ↔
    s.get? node.id = some node ∧ node.parent = some parent ∧ baseDescription node = name := by
  rw [sharing, List.mem_filter, mem_nodes_iff hTree, Bool.and_eq_true, decide_eq_true_eq,
    decide_eq_true_eq]

theorem mem_children_iff_parent :
    node ∈ s.children parent ↔ s.get? node.id = some node ∧ node.parent = some parent := by
  rw [mem_children_iff hTree]
  refine and_congr_right fun hNode => ⟨?_, fun hParent => ⟨node, hNode, hParent⟩⟩
  rintro ⟨other, hOther, hParent⟩
  obtain rfl : other = node := Option.some.inj (hOther.symm.trans hNode)
  exact hParent

/-- **The search goes through the elements that share the name.** -/
theorem twins_eq_sharing (node : Node) (parent : NodeId) :
    s.twins node parent = s.sharing parent (baseDescription node) := by
  have hSorted : (s.children parent).Pairwise fun a b => a.id < b.id :=
    (children_apart hTree parent).imp And.left
  unfold twins
  refine eq_of_sorted (hSorted.filter _) (sharing_sorted hTree parent _) fun other => ?_
  rw [List.mem_filter, mem_children_iff_parent hTree, mem_sharing_iff hTree, beq_iff_eq, and_assoc]

/-- An element is described by the place where it stands among those that share its name. -/
theorem describe_of_sharing {k : Nat} (hGet : (s.sharing parent name)[k]? = some node) :
    s.describe node.id =
      if (s.sharing parent name).length < 2 then name else numbered name (k + 1) := by
  obtain ⟨hNode, hParent, rfl⟩ := (mem_sharing_iff hTree).mp (List.mem_of_getElem? hGet)
  unfold describe
  simp only [hNode, hParent, twins_eq_sharing hTree]
  rw [findIdx?_of_sorted (sharing_sorted hTree parent _) hGet]
  rfl

theorem mem_sharing_of_namesakes (h : s.Namesakes node other) : ∃ parent,
    node ∈ s.sharing parent (baseDescription node) ∧
      other ∈ s.sharing parent (baseDescription node) := by
  obtain ⟨parent, hNode, hOther⟩ := h.inside
  exact ⟨parent, (mem_sharing_iff hTree).mpr ⟨h.left, hNode, rfl⟩,
    (mem_sharing_iff hTree).mpr ⟨h.right, hOther, h.name_eq.symm⟩⟩

theorem namesakes_of_mem_sharing (hNode : node ∈ s.sharing parent name)
    (hOther : other ∈ s.sharing parent name) : s.Namesakes node other := by
  obtain ⟨hLeft, hLeftParent, hLeftName⟩ := (mem_sharing_iff hTree).mp hNode
  obtain ⟨hRight, hRightParent, hRightName⟩ := (mem_sharing_iff hTree).mp hOther
  exact ⟨hLeft, hRight, ⟨parent, hLeftParent, hRightParent⟩, hLeftName.trans hRightName.symm⟩

/-- An element shares its name when another one does. -/
theorem two_le_length_iff (hNode : node ∈ s.sharing parent name) :
    2 ≤ (s.sharing parent name).length ↔ ∃ other ∈ s.sharing parent name, other ≠ node := by
  have hNodup : (s.sharing parent name).Nodup :=
    (sharing_sorted hTree parent name).imp fun hLt hSame => hLt.ne (congrArg Node.id hSame)
  constructor
  · intro hLength
    have hNot : s.sharing parent name ≠ [node] := by
      intro hOne
      rw [hOne, List.length_singleton] at hLength
      exact absurd hLength (by decide)
    exact ((hNodup.ne_singleton_iff node).mp hNot).resolve_left (List.ne_nil_of_mem hNode)
  · rintro ⟨other, hOther, hNe⟩
    by_contra hShort
    obtain ⟨only, hOnly⟩ := List.length_eq_one_iff.mp
      (Nat.le_antisymm (by omega) (List.length_pos_of_mem hNode))
    rw [hOnly, List.mem_singleton] at hNode hOther
    exact hNe (hOther.trans hNode.symm)

/-! ## Descriptions -/

/-- An element without a namesake is described by its own name. -/
theorem describe_of_alone (hNode : s.get? node.id = some node)
    (hAlone : ∀ other, s.Namesakes node other → other = node) :
    s.describe node.id = baseDescription node := by
  cases hParent : node.parent with
  | none =>
    unfold describe
    simp only [hNode, hParent]
  | some parent =>
    have hMem : node ∈ s.sharing parent (baseDescription node) :=
      (mem_sharing_iff hTree).mpr ⟨hNode, hParent, rfl⟩
    obtain ⟨k, hGet⟩ := List.mem_iff_getElem?.mp hMem
    rw [describe_of_sharing hTree hGet, if_pos]
    by_contra hMany
    obtain ⟨other, hOther, hNe⟩ := (two_le_length_iff hTree hMem).mp (Nat.le_of_not_lt hMany)
    exact hNe (hAlone other (namesakes_of_mem_sharing hTree hMem hOther))

/-- Of two namesakes, each has the number of the place where it stands. -/
theorem describe_of_namesakes (h : s.Namesakes node other) (hNe : other ≠ node) :
    ∃ j k, j ≠ k ∧ s.describe node.id = numbered (baseDescription node) j ∧
      s.describe other.id = numbered (baseDescription node) k := by
  obtain ⟨parent, hNode, hOther⟩ := mem_sharing_of_namesakes hTree h
  have hMany := Nat.not_lt.mpr ((two_le_length_iff hTree hNode).mpr ⟨other, hOther, hNe⟩)
  obtain ⟨j, hj⟩ := List.mem_iff_getElem?.mp hNode
  obtain ⟨k, hk⟩ := List.mem_iff_getElem?.mp hOther
  refine ⟨j + 1, k + 1, ?_, ?_, ?_⟩
  · intro hSame
    obtain rfl := Nat.succ.inj hSame
    exact hNe (Option.some.inj (hk.symm.trans hj))
  · rw [describe_of_sharing hTree hj, if_neg hMany]
  · rw [describe_of_sharing hTree hk, if_neg hMany]

theorem described_of_preOrder : s.Described where
  own_name _ := describe_of_alone hTree
  numbered_iff := by
    refine fun node hNode => ⟨?_, ?_⟩
    · rintro ⟨k, hNumbered⟩
      by_contra hNone
      have hAlone : ∀ other, s.Namesakes node other → other = node := fun other hOther =>
        by_contra fun hNe => hNone ⟨other, hOther, hNe⟩
      exact numbered_ne _ k (hNumbered.symm.trans (describe_of_alone hTree hNode hAlone))
    · rintro ⟨other, hOther, hNe⟩
      obtain ⟨j, -, -, hj, -⟩ := describe_of_namesakes hTree hOther hNe
      exact ⟨j, hj⟩
  counted := by
    intro parent name hMany
    refine List.ext_getElem (by simp) fun k hk _ => ?_
    rw [List.length_map] at hk
    rw [List.getElem_map, List.getElem_map, List.getElem_range,
      describe_of_sharing hTree (List.getElem?_eq_getElem hk), if_neg (Nat.not_lt.mpr hMany)]
  distinct := by
    intro node other hSame hNe
    obtain ⟨j, k, hjk, hj, hk⟩ := describe_of_namesakes hTree hSame hNe
    rw [hj, hk, Ne, numbered_inj]
    exact hjk.symm
  found := by
    intro node parent hNode hParent
    have hMem : node ∈ s.sharing parent (baseDescription node) :=
      (mem_sharing_iff hTree).mpr ⟨hNode, hParent, rfl⟩
    obtain ⟨k, hGet⟩ := List.mem_iff_getElem?.mp hMem
    rw [twins_eq_sharing hTree]
    exact ⟨k, findIdx?_of_sorted (sharing_sorted hTree parent _) hGet⟩

end Tree

end Snapshot

/-- **On the screen of any dump, descriptions tell siblings apart.** An element has a number just
when another child of its parent has the same own name. The children of one name are numbered from
one, in document order, so no two of them have the same description; and each is found where its
number is looked up. -/
theorem Dump.described_parse (id : Nat) (raw : Text) : (Dump.parse id raw).Described :=
  Snapshot.described_of_preOrder (Dump.preOrder_parse id raw)

/-- An element of another name in between is not counted. -/
example : (List.range 4).map (Dump.parse 1 "<a><b/><c/><b/></a>").describe =
    (["a", "b:nth(1)", "c", "b:nth(2)"] : List String).map String.toList := by decide +kernel

end ScreenQuery
