import ScreenQuery.Proofs.Subtree
import ScreenQuery.Proofs.Text.Numeral

/-!
# Paths of child positions

* Every element carries a path such as `0.2.1`: the root, and then the position of the next element
  among its siblings, over and over. `Snapshot.follow?` reads such a path and goes from child to
  child.
* On a tree in document order the path of an element leads to that element (`follow?_path`). Hence
  no two elements have the same path.
* A numeral holds no dot, so a path that goes on with a dot goes on with a whole position:
  `0.1.` does not begin `0.10.3`. That is `prefix_mark_iff`, and from it an element lies below
  another just when its path goes on from the path of the other (`below_iff_prefix`).

About the `path` that `push_node` gives to a `Node`.
-/

namespace ScreenQuery

/-- A list that ends in a mark begins another one up to the last mark of that, or in what stands
before it. -/
theorem prefix_mark_iff {α : Type} {mark : α} {a b last : List α} (h : mark ∉ last) :
    a ++ [mark] <+: b ++ mark :: last ↔ a = b ∨ a ++ [mark] <+: b := by
  constructor
  · rintro ⟨rest, hRest⟩
    rw [List.append_assoc, List.singleton_append] at hRest
    rcases List.append_eq_append_iff.mp hRest with ⟨more, hb, hMore⟩ | ⟨more, ha, hMore⟩
    · cases more with
      | nil => exact .inl (by rw [hb, List.append_nil])
      | cons c more =>
        obtain ⟨rfl, -⟩ := List.cons.inj hMore
        exact .inr ⟨more, by rw [hb, List.append_assoc, List.singleton_append]⟩
    · cases more with
      | nil => exact .inl (by rw [ha, List.append_nil])
      | cons c more =>
        obtain ⟨-, rfl⟩ := List.cons.inj hMore
        exact absurd (List.mem_append_right more List.mem_cons_self) h
  · rintro (rfl | hPrefix)
    · exact (List.prefix_append_right_inj a).mpr ⟨last, rfl⟩
    · exact hPrefix.trans (List.prefix_append b _)

/-- An element lies in its parent and in what that lies in. -/
theorem below_iff_of_link {nodes : Array Node} {i j p : NodeId} (hLink : Link nodes p j) :
    Below nodes i j ↔ i = p ∨ Below nodes i p := by
  constructor
  · intro hBelow
    obtain ⟨q, hWithin, node, hNode, hq⟩ := Relation.TransGen.tail'_iff.mp hBelow
    obtain ⟨node', hNode', hp⟩ := hLink
    obtain rfl : node = node' := Option.some.inj (hNode.symm.trans hNode')
    obtain rfl : q = p := Option.some.inj (hq.symm.trans hp)
    exact (Relation.reflTransGen_iff_eq_or_transGen.mp hWithin).imp_left Eq.symm
  · rintro (rfl | hBelow)
    · exact .single hLink
    · exact hBelow.tail hLink

namespace Snapshot

/-- The child of an element at a position, which is written as a numeral. -/
def childAt? (s : Snapshot) (id : NodeId) (position : Text) : Option NodeId := do
  let node ← s.get? id
  let k ← Text.digits? position
  node.children[k]?

/-- The element that a dotted path leads to. It starts at the root, which is written as a zero, and
goes on with positions of children. -/
def follow? (s : Snapshot) (path : Text) : Option NodeId :=
  match path.splitOn '.' with
  | [] => none
  | root :: positions => if root = "0" then positions.foldlM s.childAt? rootId else none

/-- Paths tell the elements of a screen apart and show which of them lies in which. -/
structure Addressed (s : Snapshot) : Prop where
  /-- From the root, the positions of a path lead to the element. -/
  leads : ∀ {i : NodeId} {node : Node}, s.get? i = some node → s.follow? node.path = some i
  distinct : ∀ {i j : NodeId} {a b : Node}, s.get? i = some a → s.get? j = some b → i ≠ j →
    a.path ≠ b.path
  /-- A path goes on from those of the elements around it, and from no other. -/
  below_iff : ∀ {i j : NodeId} {a b : Node}, s.get? i = some a → s.get? j = some b →
    (Below s.nodes i j ↔ a.path ++ ['.'] <+: b.path)

variable {s : Snapshot} {i j : NodeId} {node a b : Node}

/-- A path with one more position leads from where it led to a child. -/
theorem follow?_append (s : Snapshot) (path : Text) {position : Text} (h : '.' ∉ position) :
    s.follow? (path ++ '.' :: position) =
      (s.follow? path).bind fun id => s.childAt? id position := by
  unfold follow?
  rw [List.splitOn_append_cons_self, List.splitOn_eq_singleton h]
  cases hSplit : path.splitOn '.' with
  | nil => exact absurd hSplit (List.splitOn_ne_nil '.' path)
  | cons root positions =>
    simp only [List.cons_append, List.foldlM_append, List.foldlM_cons, List.foldlM_nil]
    split
    · simp
    · rfl

section Tree

variable (hTree : PreOrder s.nodes)

include hTree

/-- **The path of an element leads to the element.** -/
theorem follow?_path (hNode : s.get? i = some node) : s.follow? node.path = some i := by
  induction i using Nat.strong_induction_on generalizing node with
  | _ i ih =>
    by_cases hRoot : i = rootId
    · subst hRoot
      rw [(hTree.root hNode).2]
      rfl
    · obtain ⟨p, parent, hParent, hPlaced, -⟩ := hTree.placed hNode hRoot
      obtain ⟨position, hChild, hPath⟩ := hPlaced.path_eq
      have hLess : p < i := by
        have hlt := hPlaced.id_lt
        rwa [hTree.id_eq hParent, hTree.id_eq hNode] at hlt
      have hStep : s.childAt? p (Text.ofNat position) = some i := by
        have hGet : s.get? p = some parent := hParent
        rw [childAt?, hGet, Text.digits?_ofNat, ← hTree.id_eq hNode]
        exact hChild
      have hDot : '.' ∉ Text.ofNat position := Text.not_mem_ofNat (by decide) position
      rw [hPath, follow?_append s _ hDot, ih p hLess hParent]
      exact hStep

theorem path_inj (ha : s.get? i = some a) (hb : s.get? j = some b) : a.path = b.path ↔ i = j := by
  constructor
  · intro h
    have hLeads := follow?_path hTree ha
    rw [h, follow?_path hTree hb] at hLeads
    exact (Option.some.inj hLeads).symm
  · rintro rfl
    rw [Option.some.inj (ha.symm.trans hb)]

/-- **An element lies below another when its path goes on from the path of the other.** -/
theorem below_iff_prefix (ha : s.get? i = some a) (hb : s.get? j = some b) :
    Below s.nodes i j ↔ a.path ++ ['.'] <+: b.path := by
  -- up the chain of parents, each of which takes one position off the path
  induction j using Nat.strong_induction_on generalizing b with
  | _ j ih =>
    by_cases hRoot : j = rootId
    · subst hRoot
      rw [(hTree.root hb).2]
      constructor
      · exact fun hBelow => absurd (hTree.lt_of_below hBelow) (Nat.not_lt_zero i)
      · intro hPrefix
        have hDot : '.' ∈ ("0" : Text) :=
          hPrefix.subset (List.mem_append_right a.path List.mem_cons_self)
        exact absurd hDot (by decide)
    · obtain ⟨p, parent, hParent, hPlaced, -⟩ := hTree.placed hb hRoot
      obtain ⟨position, -, hPath⟩ := hPlaced.path_eq
      have hLink : Link s.nodes p j := ⟨b, hb, by rw [hPlaced.parent_eq, hTree.id_eq hParent]⟩
      calc Below s.nodes i j
        _ ↔ i = p ∨ Below s.nodes i p := below_iff_of_link hLink
        _ ↔ a.path = parent.path ∨ a.path ++ ['.'] <+: parent.path :=
          or_congr (path_inj hTree ha hParent).symm (ih p (hTree.lt_of_link hLink) hParent)
        _ ↔ a.path ++ ['.'] <+: b.path := by
          rw [hPath]
          exact (prefix_mark_iff (Text.not_mem_ofNat (by decide) position)).symm

end Tree
end Snapshot

/-- **On the screen of any dump, readable or not, paths identify the elements and show what lies in
what.** -/
theorem Dump.addressed_parse (id : Nat) (raw : Text) : (Dump.parse id raw).Addressed where
  leads := Snapshot.follow?_path (Dump.preOrder_parse id raw)
  distinct := fun ha hb hNe hPath =>
    hNe ((Snapshot.path_inj (Dump.preOrder_parse id raw) ha hb).mp hPath)
  below_iff := Snapshot.below_iff_prefix (Dump.preOrder_parse id raw)

end ScreenQuery
