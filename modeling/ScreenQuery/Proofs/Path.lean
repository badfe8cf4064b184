import ScreenQuery.Proofs.Subtree
import ScreenQuery.Proofs.Text.Parts
import ScreenQuery.Selector.Path

/-!
# What a path query leads to

* `Chain` says what a sequence of steps means: from element to element, each step along its axis by
  the parent links and to an element that fits it. Nothing in it depends on the order in which
  elements are visited.
* `PathQuery.follow` keeps a sorted list of the elements reached so far, and gives up at the first
  step that leads nowhere; `mem_follow_iff` says that it reaches the ends of all chains and no other
  element, in document order and once each.
* Positions count from one: `predicateOf` refuses the position zero, so of the steps that have been
  read none goes below it (`countsFromOne_of_parse`).

About `evaluate` of `PathQuery`, with `matches` of `PathPredicate` and `Step`.
-/

namespace ScreenQuery

/-! ## What a step asks for -/

/-- What a predicate asks of an element: that a field has a value, or that a flag has one, in words.
A position counts the index of the element from one. -/
def PathPredicate.Asks (node : Node) : PathPredicate → Prop
  | .equals .text value => node.text = value
  | .equals .resourceId value => node.resourceId = value
  | .equals .contentDesc value => node.description = value
  | .equals .clickable value =>
    (node.flags.clickable = true ∧ value = "true") ∨
      (node.flags.clickable = false ∧ value = "false")
  | .position n => node.index.toNat + 1 = n.toNat

/-- The step may end at an element: its name is a part of the class, and its predicate holds. -/
structure Step.Fits (step : Step) (node : Node) : Prop where
  name : ∀ name, step.name = some name → name <:+: node.className
  predicate : ∀ predicate, step.predicate = some predicate → predicate.Asks node

/-- A position of the predicate is not zero. -/
def PathPredicate.CountsFromOne : PathPredicate → Prop
  | .equals _ _ => True
  | .position n => 0 < n.toNat

/-- Positions of the step are not zero. -/
def Step.CountsFromOne (step : Step) : Prop :=
  ∀ predicate, step.predicate = some predicate → predicate.CountsFromOne

/-- One less than a position does not wrap around. -/
theorem toNat_sub_one {n : UInt32} (h : 0 < n.toNat) : (n - 1).toNat + 1 = n.toNat := by
  have hLe : (1 : UInt32) ≤ n := by
    rw [UInt32.le_iff_toNat_le]
    exact h
  rw [UInt32.toNat_sub_of_le _ _ hLe]
  exact Nat.sub_add_cancel h

theorem PathPredicate.holds_iff {predicate : PathPredicate} (h : predicate.CountsFromOne)
    (node : Node) : predicate.holds node = true ↔ predicate.Asks node := by
  cases predicate with
  | equals a value =>
    unfold holds
    rw [beq_iff_eq]
    cases a with
    | text => exact Iff.rfl
    | resourceId => exact Iff.rfl
    | contentDesc => exact Iff.rfl
    | clickable =>
      unfold PathAttribute.value Node.truthText Asks
      cases node.flags.clickable <;> simp [eq_comm]
  | position n =>
    have hSub := toNat_sub_one h
    unfold holds
    rw [beq_iff_eq, ← UInt32.toNat_inj]
    show node.index.toNat = (n - 1).toNat ↔ node.index.toNat + 1 = n.toNat
    rw [← hSub]
    exact Nat.add_right_cancel_iff.symm

theorem Step.picks_iff {step : Step} (h : step.CountsFromOne) (node : Node) :
    step.picks node = true ↔ step.Fits node := by
  unfold picks
  rw [Bool.and_eq_true, Option.all_eq_true, Option.all_eq_true]
  constructor
  · rintro ⟨hName, hPredicate⟩
    exact ⟨fun name hSome => Text.contains_iff.mp (hName name hSome), fun predicate hSome =>
      (PathPredicate.holds_iff (h predicate hSome) node).mp (hPredicate predicate hSome)⟩
  · rintro ⟨hName, hPredicate⟩
    exact ⟨fun name hSome => Text.contains_iff.mpr (hName name hSome), fun predicate hSome =>
      (PathPredicate.holds_iff (h predicate hSome) node).mpr (hPredicate predicate hSome)⟩

/-! ## Chains of elements -/

/-- Where an axis leads, by the parent links. -/
def Axis.Leads (nodes : Array Node) : Axis → NodeId → NodeId → Prop
  | .child => Link nodes
  | .descendant => Below nodes

/-- A chain of elements, one for each step: each fits its step, and lies where the axis of the step
leads from the one before. -/
inductive Chain (s : Snapshot) : List Step → NodeId → NodeId → Prop
  | nil (c : NodeId) : Chain s [] c c
  | cons {step : Step} {steps : List Step} {c next n : NodeId} {node : Node}
      (hLeads : step.axis.Leads s.nodes c next) (hNode : s.get? next = some node)
      (hFits : step.Fits node) (hRest : Chain s steps next n) : Chain s (step :: steps) c n

namespace PathQuery

/-! ## Document order without repetition -/

theorem mem_dropRepeats_iff {ids : List NodeId} {n : NodeId} : n ∈ dropRepeats ids ↔ n ∈ ids := by
  fun_induction dropRepeats ids with
  | case1 => exact Iff.rfl
  | case2 => exact Iff.rfl
  | case3 b rest ih =>
    rw [ih, List.mem_cons, List.mem_cons, List.mem_cons]
    exact ⟨Or.inr, fun h => h.elim Or.inl id⟩
  | case4 a b rest hne ih => rw [List.mem_cons, ih, List.mem_cons (a := n) (b := a)]

theorem pairwise_lt_dropRepeats {ids : List NodeId} (h : ids.Pairwise (· ≤ ·)) :
    (dropRepeats ids).Pairwise (· < ·) := by
  fun_induction dropRepeats ids with
  | case1 => exact List.Pairwise.nil
  | case2 => exact List.pairwise_singleton _ _
  | case3 b rest ih => exact ih (List.Pairwise.of_cons h)
  | case4 a b rest hne ih =>
    have hRest := List.Pairwise.of_cons h
    refine List.pairwise_cons.mpr ⟨fun n hn => ?_, ih hRest⟩
    -- the rest starts with `b`, which is not `a`
    have hb : b ≤ n := by
      rcases List.mem_cons.mp (mem_dropRepeats_iff.mp hn) with rfl | hn
      · exact Nat.le_refl _
      · exact List.rel_of_pairwise_cons hRest hn
    have hab : a ≤ b := List.rel_of_pairwise_cons h List.mem_cons_self
    exact Nat.lt_of_lt_of_le (Nat.lt_of_le_of_ne hab hne) hb

theorem mem_inOrder_iff {ids : List NodeId} {n : NodeId} : n ∈ inOrder ids ↔ n ∈ ids := by
  unfold inOrder
  rw [mem_dropRepeats_iff, List.mem_mergeSort]

theorem pairwise_lt_inOrder (ids : List NodeId) : (inOrder ids).Pairwise (· < ·) := by
  refine pairwise_lt_dropRepeats (List.Pairwise.imp (fun h => of_decide_eq_true h)
    (List.pairwise_mergeSort (fun a b c hab hbc => ?_) (fun a b => ?_) ids))
  · simp only [decide_eq_true_eq] at hab hbc ⊢
    exact Nat.le_trans hab hbc
  · simp only [Bool.or_eq_true, decide_eq_true_eq]
    exact Nat.le_total a b

/-! ## Following the steps -/

section Follow

variable {s : Snapshot} (hTree : PreOrder s.nodes)

include hTree

/-- One step from one element. -/
theorem mem_reach_iff {step : Step} (h : step.CountsFromOne) {c n : NodeId} :
    n ∈ reach s step c ↔
      step.axis.Leads s.nodes c n ∧ ∃ node, s.get? n = some node ∧ step.Fits node := by
  have hPicked : ∀ {candidates : List Node}, (∀ node, node ∈ candidates ↔
      s.get? node.id = some node ∧ step.axis.Leads s.nodes c node.id) →
      (n ∈ (candidates.filter step.picks).map Node.id ↔
        step.axis.Leads s.nodes c n ∧ ∃ node, s.get? n = some node ∧ step.Fits node) := by
    intro candidates hCandidates
    simp only [List.mem_map, List.mem_filter, hCandidates, Step.picks_iff h]
    constructor
    · rintro ⟨node, ⟨⟨hNode, hLeads⟩, hFits⟩, rfl⟩
      exact ⟨hLeads, node, hNode, hFits⟩
    · rintro ⟨hLeads, node, hNode, hFits⟩
      have hId : node.id = n := hTree.id_eq hNode
      subst hId
      exact ⟨node, ⟨⟨hNode, hLeads⟩, hFits⟩, rfl⟩
  refine hPicked fun node => ?_
  cases step.axis with
  | child => exact Snapshot.mem_children_iff hTree
  | descendant => exact Snapshot.mem_descendants_iff hTree

/-- **The steps lead to the ends of the chains, and nowhere else.** -/
theorem mem_follow_iff {steps : List Step} (h : ∀ step ∈ steps, step.CountsFromOne)
    {contexts : List NodeId} {n : NodeId} :
    n ∈ follow s contexts steps ↔ ∃ c ∈ contexts, Chain s steps c n := by
  induction steps generalizing contexts with
  | nil =>
    constructor
    · exact fun hn => ⟨n, hn, .nil n⟩
    · rintro ⟨c, hc, hChain⟩
      cases hChain
      exact hc
  | cons step steps ih =>
    obtain ⟨hStep, hSteps⟩ := List.forall_mem_cons.mp h
    have hNext : ∀ next, next ∈ inOrder (contexts.flatMap (reach s step)) ↔
        ∃ c ∈ contexts, step.axis.Leads s.nodes c next ∧
          ∃ node, s.get? next = some node ∧ step.Fits node := by
      intro next
      simp only [mem_inOrder_iff, List.mem_flatMap, mem_reach_iff hTree hStep]
    have hFollow : n ∈ follow s contexts (step :: steps) ↔
        n ∈ follow s (inOrder (contexts.flatMap (reach s step))) steps := by
      rw [follow]
      split
      · -- no element is left, and no step finds one again
        rename_i hNil
        rw [hNil, ih hSteps]
        simp
      · rfl
    rw [hFollow, ih hSteps]
    constructor
    · rintro ⟨next, hMem, hChain⟩
      obtain ⟨c, hc, hLeads, node, hNode, hFits⟩ := (hNext next).mp hMem
      exact ⟨c, hc, .cons hLeads hNode hFits hChain⟩
    · rintro ⟨c, hc, hChain⟩
      cases hChain with
      | cons hLeads hNode hFits hRest =>
        exact ⟨_, (hNext _).mpr ⟨c, hc, hLeads, _, hNode, hFits⟩, hRest⟩

end Follow

theorem pairwise_lt_follow {s : Snapshot} {contexts : List NodeId} {steps : List Step}
    (h : contexts.Pairwise (· < ·)) : (follow s contexts steps).Pairwise (· < ·) := by
  induction steps generalizing contexts with
  | nil => exact h
  | cons step steps ih =>
    rw [follow]
    split
    · exact List.Pairwise.nil
    · exact ih (pairwise_lt_inOrder _)

/-! ## Positions count from one -/

theorem countsFromOne_of_predicateOf {raw : Text} {predicate : PathPredicate}
    (h : predicateOf raw = .ok predicate) : predicate.CountsFromOne := by
  unfold predicateOf at h
  simp only at h
  split at h
  · split at h
    · cases h
    · rename_i n _
      split at h
      · cases h
      · rename_i hZero
        cases h
        exact Nat.pos_of_ne_zero fun hNat => hZero (UInt32.toNat_inj.mp hNat)
  · split at h
    · split at h
      · cases h
      · split at h
        · cases h
        · split at h
          · cases h
            trivial
          · cases h
    · cases h

theorem countsFromOne_of_bracketOf {text rest : Text} {predicate : PathPredicate}
    (h : bracketOf text = .ok (some predicate, rest)) : predicate.CountsFromOne := by
  unfold bracketOf at h
  split at h
  · split at h
    · cases h
    · rename_i body rest' _
      cases hBody : predicateOf body with
      | error fault => rw [hBody] at h; cases h
      | ok found =>
        rw [hBody] at h
        cases h
        exact countsFromOne_of_predicateOf hBody
  · cases h

theorem countsFromOne_of_stepsFrom {read steps : List Step} {text : Text}
    (hRead : ∀ step ∈ read, step.CountsFromOne) (h : stepsFrom read text = .ok steps) :
    ∀ step ∈ steps, step.CountsFromOne := by
  fun_induction stepsFrom read text with
  | case1 read text _ =>
    cases h
    exact fun step hStep => hRead step (List.mem_reverse.mp hStep)
  | case2 => cases h
  | case3 => cases h
  | case4 => cases h
  | case5 read text _ axis rest _ name _ predicate rest' hBracket _ step ih =>
    refine ih (List.forall_mem_cons.mpr ⟨fun found hFound => ?_, hRead⟩) h
    have hSome : predicate = some found := hFound
    rw [hSome] at hBracket
    exact countsFromOne_of_bracketOf hBracket

theorem countsFromOne_of_parse {input : Text} {query : PathQuery} (h : parse input = .ok query) :
    ∀ step ∈ query.steps, step.CountsFromOne := by
  unfold parse at h
  split at h
  · rename_i steps hSteps
    cases h
    unfold stepsOf at hSteps
    split at hSteps
    · cases hSteps
    · exact countsFromOne_of_stepsFrom (fun _ hStep => absurd hStep List.not_mem_nil) hSteps
  · cases h

/-- **A path query leads to the ends of the chains of its steps**, whatever dump the screen comes
from and wherever the query starts: to all of them, once each and in document order. The positions
of its steps count from one, so that one can be taken off. -/
theorem mem_evaluate_iff_chain {input : Text} {query : PathQuery} (h : parse input = .ok query)
    (id : Nat) (raw : Text) (context : NodeId) :
    (∀ n, n ∈ query.evaluate (Dump.parse id raw) context ↔
      Chain (Dump.parse id raw) query.steps context n) ∧
    (query.evaluate (Dump.parse id raw) context).Pairwise (· < ·) ∧
    ∀ step ∈ query.steps, ∀ n, step.predicate = some (.position n) →
      (n - 1).toNat + 1 = n.toNat := by
  have hSteps := countsFromOne_of_parse h
  refine ⟨fun n => ?_, pairwise_lt_follow (List.pairwise_singleton _ _), fun step hStep n hn => ?_⟩
  · unfold evaluate
    rw [mem_follow_iff (Dump.preOrder_parse id raw) hSteps]
    simp
  · exact toNat_sub_one (hSteps step hStep _ hn)

/-- What shows an `x`, inside of something clickable that is directly inside of a `b` that is the
second element of another. -/
def insideSecond : PathQuery where
  source := "//b[2]/*[@clickable='true']//d[@text='x']"
  steps := [⟨.descendant, some "b", some (.position 2)⟩,
    ⟨.child, none, some (.equals .clickable "true")⟩,
    ⟨.descendant, some "d", some (.equals .text "x")⟩]

/-- A small screen: inside of the second `b` something is clickable and something is not. -/
def twoBoxes : Snapshot :=
  Dump.parse 1 "<a><b/><b><c clickable='true'><d/><d text='x'/></c><c><d text='x'/></c></b></a>"

/-- Of the elements that show an `x` one is inside of something clickable, and a chain leads to
it. -/
theorem chain_insideSecond :
    parse "//b[2]/*[@clickable='true']//d[@text='x']" = .ok insideSecond ∧
      insideSecond.evaluate twoBoxes 0 = [5] ∧ Chain twoBoxes insideSecond.steps 0 5 ∧
      ¬ Chain twoBoxes insideSecond.steps 0 7 := by
  have hParse : parse "//b[2]/*[@clickable='true']//d[@text='x']" = .ok insideSecond := by
    decide +kernel
  have hEvaluate : insideSecond.evaluate twoBoxes 0 = [5] := by decide +kernel
  have hChain := (mem_evaluate_iff_chain hParse 1
    "<a><b/><b><c clickable='true'><d/><d text='x'/></c><c><d text='x'/></c></b></a>" 0).1
  refine ⟨hParse, hEvaluate, (hChain 5).mp ?_, fun h => ?_⟩
  · rw [← twoBoxes, hEvaluate]
    exact List.mem_singleton_self 5
  · have hMem : (7 : NodeId) ∈ insideSecond.evaluate twoBoxes 0 := (hChain 7).mpr h
    rw [hEvaluate] at hMem
    exact absurd (List.mem_singleton.mp hMem) (by decide)

end PathQuery

end ScreenQuery
