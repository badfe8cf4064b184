import ScreenQuery.Outline
import ScreenQuery.Proofs.Dump.Rectangles
import ScreenQuery.Proofs.Navigation

/-!
# What an outline of the visible elements shows

* `prune` goes through the elements once and remembers no more than the depth of the element that it
  is passing over. `Exposed` says what is wanted of it: the root stays, and any other element stays
  just when it is shown and all that it lies in is, the root apart.
* An element is left out for its own sake, or because it lies below one that is: `exposed_iff`. In
  document order these lie side by side, so at every place either no element that is left out covers
  what comes next (`Uncovered`), or the outermost one that does is being passed over (`PassedOver`).
* `Remembers` ties that to what `prune` remembers, and `prune_eq_filter` goes through the elements
  with it. `ofSnapshot_eq_filter` is the result for the outline of any dump, readable or not.

About `format_tree` and `is_visible` of `Node`.
-/

namespace ScreenQuery.Outline

/-- The element is the root, or it is shown together with all that it lies in, the root apart. -/
def Exposed (s : Snapshot) (node : Node) : Prop :=
  node.id = rootId ∨ (node.Shown ∧ ∀ (top : NodeId) (outer : Node),
    s.get? top = some outer → top ≠ rootId → Below s.nodes top node.id → outer.Shown)

/-- The element at `i` lies below none that is left out. -/
def Uncovered (nodes : Array Node) (i : NodeId) : Prop :=
  ∀ (top : NodeId) (outer : Node), nodes[top]? = some outer → isLeftOut outer = true →
    ¬ Below nodes top i

/-- Up to `i`, everything after `outer`, which is left out, lies below it. -/
structure PassedOver (nodes : Array Node) (top : NodeId) (outer : Node) (i : NodeId) : Prop where
  outer_eq : nodes[top]? = some outer
  leftOut : isLeftOut outer = true
  /-- Nothing further out is left out. -/
  uncovered : Uncovered nodes top
  lt : top < i
  deeper : ∀ (j : NodeId) (other : Node), top < j → j < i → nodes[j]? = some other →
    outer.depth < other.depth

/-- What is remembered when the element at `i` comes up. -/
def Remembers (nodes : Array Node) (below : Option Nat) (i : NodeId) : Prop :=
  match below with
  | none => Uncovered nodes i
  | some depth => ∃ top outer, outer.depth = depth ∧ PassedOver nodes top outer i

variable {s : Snapshot} {nodes : Array Node} {i top : NodeId} {node outer : Node}

theorem PassedOver.start (h : Uncovered nodes i) (hNode : nodes[i]? = some node)
    (hOut : isLeftOut node = true) : PassedOver nodes i node (i + 1) where
  outer_eq := hNode
  leftOut := hOut
  uncovered := h
  lt := Nat.lt_succ_self i
  deeper := fun _ _ hj hji _ => absurd (Nat.lt_of_lt_of_le hj (Nat.le_of_lt_succ hji))
    (Nat.lt_irrefl i)

theorem PassedOver.next (h : PassedOver nodes top outer i) (hNode : nodes[i]? = some node)
    (hDeeper : outer.depth < node.depth) : PassedOver nodes top outer (i + 1) := by
  refine { h with lt := Nat.lt_succ_of_lt h.lt, deeper := fun j other hj hji hOther => ?_ }
  rcases Nat.lt_succ_iff_lt_or_eq.mp hji with hji | rfl
  · exact h.deeper j other hj hji hOther
  · rw [hNode] at hOther
    rw [← Option.some.inj hOther]
    exact hDeeper

section Tree

variable (hTree : PreOrder nodes)

include hTree

theorem isLeftOut_iff (hProper : Dump.AllProper nodes) (hNode : nodes[i]? = some node) :
    isLeftOut node = true ↔ i ≠ rootId ∧ ¬ node.Shown := by
  have hParent : node.parent.isSome = true ↔ i ≠ rootId := by
    rw [Option.isSome_iff_ne_none, ne_eq, hTree.parent_eq_none_iff hNode]
  unfold isLeftOut
  rw [Bool.and_eq_true, hParent, Bool.not_eq_true', ← Bool.not_eq_true,
    Node.isVisible_iff (hProper i node hNode)]

theorem uncovered_root : Uncovered nodes rootId :=
  fun _ _ _ _ hBelow => Nat.not_lt_zero _ (hTree.lt_of_below hBelow)

/-- What comes after an element that is shown lies below nothing new that is left out. -/
theorem Uncovered.next (h : Uncovered nodes i) (hNode : nodes[i]? = some node)
    (hShown : isLeftOut node = false) : Uncovered nodes (i + 1) := by
  intro top outer hOuter hOut hBelow
  have hWithin : Within nodes top i := hTree.within_of_between
    (Array.getElem?_eq_some_iff.mp hOuter).1 hBelow.within
    (Nat.le_of_lt_succ (hTree.lt_of_below hBelow)) (Nat.le_succ i)
  rcases Relation.reflTransGen_iff_eq_or_transGen.mp hWithin with rfl | hBelow
  · rw [hNode] at hOuter
    rw [Option.some.inj hOuter, hOut] at hShown
    cases hShown
  · exact h top outer hOuter hOut hBelow

section PassedOver

variable (h : PassedOver nodes top outer i) (hNode : nodes[i]? = some node)

include h hNode

/-- A deeper element lies below the one that is being passed over. -/
theorem PassedOver.covers (hDeeper : outer.depth < node.depth) : Below nodes top i :=
  hTree.below_of_deeper h.outer_eq hNode h.lt
    fun j other hj hji => (h.next hNode hDeeper).deeper j other hj (Nat.lt_succ_of_le hji)

/-- The first element that is not deeper is covered by nothing that is left out. -/
theorem PassedOver.finish (hDepth : ¬ outer.depth < node.depth) : Uncovered nodes i := by
  intro cover inner hInner hOut hBelow
  have hShallow : ¬ outer.depth < inner.depth := fun hlt =>
    hDepth (Nat.lt_trans hlt (hTree.depth_lt_of_below hBelow hInner hNode))
  rcases Nat.lt_trichotomy cover top with hlt | rfl | hlt
  · -- it would cover the element that is being passed over as well
    have hWithin : Within nodes cover top := hTree.within_of_between
      (Array.getElem?_eq_some_iff.mp hInner).1 hBelow.within (Nat.le_of_lt hlt) (Nat.le_of_lt h.lt)
    rcases Relation.reflTransGen_iff_eq_or_transGen.mp hWithin with rfl | hAbove
    · exact Nat.lt_irrefl _ hlt
    · exact h.uncovered cover inner hInner hOut hAbove
  · exact hDepth (hTree.depth_lt_of_below hBelow h.outer_eq hNode)
  · exact hShallow (h.deeper cover inner hlt (hTree.lt_of_below hBelow) hInner)

end PassedOver

/-- Nothing that is left out covers an element that is not deeper than the one remembered. -/
theorem Remembers.uncovered {below : Option Nat} (h : Remembers nodes below i)
    (hNode : nodes[i]? = some node)
    (hDepth : ¬ (below.any fun depth => decide (depth < node.depth)) = true) :
    Uncovered nodes i := by
  cases below with
  | none => exact h
  | some depth =>
    obtain ⟨top, outer, rfl, hPassed⟩ := h
    exact hPassed.finish hTree hNode (by simpa using hDepth)

end Tree

section Screen

variable (hTree : PreOrder s.nodes) (hProper : Dump.AllProper s.nodes)

include hTree hProper

/-- An element is exposed when neither it nor anything that it lies in is left out. -/
theorem exposed_iff (hNode : s.nodes[i]? = some node) :
    Exposed s node ↔ isLeftOut node = false ∧ Uncovered s.nodes i := by
  have hId : node.id = i := hTree.id_eq hNode
  unfold Exposed
  rw [hId, ← Bool.not_eq_true, isLeftOut_iff hTree hProper hNode]
  constructor
  · rintro (rfl | ⟨hShown, hOuter⟩)
    · exact ⟨fun hOut => hOut.1 rfl, uncovered_root hTree⟩
    · refine ⟨fun hOut => hOut.2 hShown, fun top outer hTop hOut hBelow => ?_⟩
      obtain ⟨hRoot, hHidden⟩ := (isLeftOut_iff hTree hProper hTop).mp hOut
      exact hHidden (hOuter top outer hTop hRoot hBelow)
  · rintro ⟨hShown, hUncovered⟩
    by_cases hRoot : i = rootId
    · exact Or.inl hRoot
    · refine Or.inr ⟨?_, fun top outer hTop hTopRoot hBelow => ?_⟩
      · by_contra hHidden
        exact hShown ⟨hRoot, hHidden⟩
      · by_contra hHidden
        exact hUncovered top outer hTop
          ((isLeftOut_iff hTree hProper hTop).mpr ⟨hTopRoot, hHidden⟩) hBelow

open scoped Classical in
/-- From any place on, what is left of the elements are those that are exposed. -/
theorem prune_eq_filter (rest : List Node) (below : Option Nat)
    (hRest : s.nodes.toList.drop i = rest) (h : Remembers s.nodes below i) :
    prune below rest = rest.filter fun node => decide (Exposed s node) := by
  induction rest generalizing below i with
  | nil => rfl
  | cons node rest ih =>
    have hNode : s.nodes[i]? = some node := by
      rw [← Array.getElem?_toList, ← List.head?_drop, hRest, List.head?_cons]
    have hNext : s.nodes.toList.drop (i + 1) = rest := by
      rw [← List.tail_drop, hRest, List.tail_cons]
    have hExposed := exposed_iff hTree hProper hNode
    unfold prune
    split
    · rename_i hDeeper
      obtain ⟨depth, rfl, hDepth⟩ : ∃ depth, below = some depth ∧ depth < node.depth := by
        simpa [Option.any_eq_true] using hDeeper
      obtain ⟨top, outer, rfl, hPassed⟩ := h
      have hCovered : ¬ Exposed s node := fun hIn => (hExposed.mp hIn).2 top outer
        hPassed.outer_eq hPassed.leftOut (hPassed.covers hTree hNode hDepth)
      rw [List.filter_cons_of_neg (by simpa using hCovered)]
      exact ih _ hNext ⟨top, outer, rfl, hPassed.next hNode hDepth⟩
    · rename_i hDepth
      have hUncovered : Uncovered s.nodes i := h.uncovered hTree hNode hDepth
      split
      · rename_i hOut
        have hHidden : ¬ Exposed s node := fun hIn => by
          rw [(hExposed.mp hIn).1] at hOut
          cases hOut
        rw [List.filter_cons_of_neg (by simpa using hHidden)]
        exact ih _ hNext ⟨i, node, rfl, .start hUncovered hNode hOut⟩
      · rename_i hShown
        have hIn : Exposed s node := hExposed.mpr ⟨Bool.not_eq_true _ ▸ hShown, hUncovered⟩
        rw [List.filter_cons_of_pos (by simpa using hIn)]
        exact congrArg (node :: ·)
          (ih _ hNext (hUncovered.next hTree hNode (Bool.not_eq_true _ ▸ hShown)))

end Screen

open scoped Classical in
/-- **The outline of a dump shows exactly the elements that no hidden element takes out.** After the
line that tells of a dump that could not be read, if it could not, come the lines of the elements in
document order: of all elements, or of the root and the elements that are shown together with all
that they lie in, the root apart. -/
theorem ofSnapshot_eq_filter (id : Nat) (raw : Text) (style : Style) :
    let s := Dump.parse id raw
    ofSnapshot style s = header s ++ (s.nodes.toList.filter fun node =>
      !style.visibleOnly || decide (Exposed s node)).flatMap (indentedLine style) := by
  intro s
  have hTree : PreOrder s.nodes := Dump.preOrder_parse id raw
  have hProper : Dump.AllProper s.nodes := Dump.proper_parse id raw
  have hShown : shown style s =
      s.nodes.toList.filter fun node => !style.visibleOnly || decide (Exposed s node) := by
    unfold shown
    cases style.visibleOnly with
    | true =>
      exact prune_eq_filter hTree hProper _ none List.drop_zero (uncovered_root hTree)
    | false => simp
  unfold ofSnapshot
  rw [hShown]

end ScreenQuery.Outline
