import ScreenQuery.Dump
import ScreenQuery.Proofs.PreOrder

/-!
# A dump that can be read yields a tree

* `addBelow` is what one more tag inside an open element does to the elements read so far, and
  `Grown.addBelow` says that it keeps the order of the document, provided that the latest element
  lies within the one that the new element is put under.
* `Arena.Sound` holds this together while the events of a dump come in: the latest element lies
  within each of the open ones, and these lie within one another, so the proviso holds whichever of
  them the next tag belongs to. `Sound.step` goes through the events, `safe_layOut` through a whole
  dump.
* `Arena.stepped_of_step` and `layOut_eq_ok` list what an event makes of an arena and when the
  elements of a dump are laid out; what else is said of all dumps starts from them.
* Of the faults, two would mean that the arena itself is broken: a second root, and an open element
  that is missing. No sequence of events leads to either.

About `build_arena` and `push_node`, with the snapshots that `from_arena` and `degraded` make.
-/

namespace ScreenQuery

variable {nodes : Array Node} {p q i top : NodeId} {parent new : Node}

/-! ## One more element -/

/-- The element with one more child. -/
def Node.withChild (parent : Node) (id : NodeId) : Node :=
  { parent with children := parent.children ++ [id] }

/-- The elements with one more, which the one at `p` lists as its last child. -/
def addBelow (nodes : Array Node) (p : NodeId) (new : Node) : Array Node :=
  (nodes.modify p fun parent => parent.withChild nodes.size).push new

/-- `new` is made to be the next child of `parent`. -/
structure NextChild (id : NodeId) (parent new : Node) : Prop where
  id_eq : new.id = id
  parent_eq : new.parent = some parent.id
  depth_eq : new.depth = parent.depth + 1
  path_eq : new.path = parent.path ++ '.' :: Text.ofNat parent.children.length
  children_eq : new.children = []

theorem size_addBelow : (addBelow nodes p new).size = nodes.size + 1 := by
  unfold addBelow
  rw [Array.size_push, Array.size_modify]

theorem getElem?_addBelow_size : (addBelow nodes p new)[nodes.size]? = some new := by
  unfold addBelow
  rw [Array.getElem?_push, Array.size_modify, if_pos rfl]

theorem getElem?_addBelow_self (hp : nodes[p]? = some parent) :
    (addBelow nodes p new)[p]? = some (parent.withChild nodes.size) := by
  have hlt : p < nodes.size := (Array.getElem?_eq_some_iff.mp hp).1
  unfold addBelow
  rw [Array.getElem?_push, Array.size_modify, if_neg (Nat.ne_of_lt hlt), Array.getElem?_modify,
    if_pos rfl, hp]
  rfl

theorem getElem?_addBelow_of_ne (hne : i ≠ p) (hlt : i < nodes.size) :
    (addBelow nodes p new)[i]? = nodes[i]? := by
  unfold addBelow
  rw [Array.getElem?_push, Array.size_modify, if_neg (Nat.ne_of_lt hlt), Array.getElem?_modify,
    if_neg hne.symm]

/-- An element is the new one, the one that has got a child, or as it was. -/
theorem getElem?_addBelow_cases {node : Node} (hp : nodes[p]? = some parent)
    (h : (addBelow nodes p new)[i]? = some node) :
    (i = nodes.size ∧ node = new) ∨ (i = p ∧ node = parent.withChild nodes.size) ∨
      (i ≠ p ∧ nodes[i]? = some node) := by
  have hlt : i < (addBelow nodes p new).size := (Array.getElem?_eq_some_iff.mp h).1
  rw [size_addBelow] at hlt
  rcases Nat.lt_succ_iff_lt_or_eq.mp hlt with hlt | rfl
  · by_cases hip : i = p
    · subst hip
      rw [getElem?_addBelow_self hp] at h
      exact Or.inr (Or.inl ⟨rfl, (Option.some.inj h).symm⟩)
    · rw [getElem?_addBelow_of_ne hip hlt] at h
      exact Or.inr (Or.inr ⟨hip, h⟩)
  · rw [getElem?_addBelow_size] at h
    exact Or.inl ⟨rfl, (Option.some.inj h).symm⟩

/-- The elements stay where they are, and all but the children of one stay as they were. -/
theorem exists_getElem?_addBelow (p : NodeId) (new : Node) {node : Node}
    (h : nodes[i]? = some node) :
    ∃ later, (addBelow nodes p new)[i]? = some later ∧ later.id = node.id ∧ later.path = node.path ∧
      later.depth = node.depth ∧ later.parent = node.parent ∧
      ∀ {position : Nat} {id : NodeId}, node.children[position]? = some id →
        later.children[position]? = some id := by
  by_cases hip : i = p
  · subst hip
    refine ⟨_, getElem?_addBelow_self h, rfl, rfl, rfl, rfl, fun {position id} hId => ?_⟩
    have hlt : position < node.children.length := (List.getElem?_eq_some_iff.mp hId).1
    show (node.children ++ [nodes.size])[position]? = some id
    rw [List.getElem?_append_left hlt]
    exact hId
  · have hlt : i < nodes.size := (Array.getElem?_eq_some_iff.mp h).1
    exact ⟨node, by rw [getElem?_addBelow_of_ne hip hlt]; exact h, rfl, rfl, rfl, rfl, id⟩

/-- The new element adds one link, and no link goes. -/
theorem link_addBelow_iff (hp : nodes[p]? = some parent) (hParent : new.parent = some p) :
    Link (addBelow nodes p new) q i ↔ Link nodes q i ∨ (q = p ∧ i = nodes.size) := by
  constructor
  · rintro ⟨node, hNode, hq⟩
    rcases getElem?_addBelow_cases hp hNode with ⟨rfl, rfl⟩ | ⟨rfl, rfl⟩ | ⟨-, hNode⟩
    · rw [hParent] at hq
      exact Or.inr ⟨(Option.some.inj hq).symm, rfl⟩
    · exact Or.inl ⟨parent, hp, hq⟩
    · exact Or.inl ⟨node, hNode, hq⟩
  · rintro (⟨node, hNode, hq⟩ | ⟨rfl, rfl⟩)
    · obtain ⟨later, hLater, -, -, -, hSame, -⟩ := exists_getElem?_addBelow p new hNode
      exact ⟨later, hLater, by rw [hSame]; exact hq⟩
    · exact ⟨new, getElem?_addBelow_size, hParent⟩

theorem within_addBelow (hp : nodes[p]? = some parent) (hParent : new.parent = some p)
    (h : Within nodes top i) : Within (addBelow nodes p new) top i := by
  induction h with
  | refl => exact Relation.ReflTransGen.refl
  | tail _ hLink ih => exact ih.tail ((link_addBelow_iff hp hParent).mpr (Or.inl hLink))

/-- Whatever the parent of the new element lies within, the new element does. -/
theorem within_addBelow_size (hp : nodes[p]? = some parent) (hParent : new.parent = some p)
    (h : Within nodes top p) : Within (addBelow nodes p new) top nodes.size :=
  Relation.ReflTransGen.tail (within_addBelow hp hParent h)
    ((link_addBelow_iff hp hParent).mpr (Or.inr ⟨rfl, rfl⟩))

/-! ## A new element keeps the order of the document -/

/-- An old element agrees with its parent as before, though that may have got another child. -/
theorem placed_addBelow {node later : Node} (hGrown : Grown nodes)
    (hNode : nodes[i]? = some node) (hRoot : i ≠ rootId) (hId : later.id = node.id)
    (hParent : later.parent = node.parent)
    (hDepth : later.depth = node.depth) (hPath : later.path = node.path) :
    ∃ (q : NodeId) (above : Node), (addBelow nodes p new)[q]? = some above ∧
      Placed above later := by
  obtain ⟨q, before, hBefore, hPlaced⟩ := hGrown.placed hNode hRoot
  obtain ⟨above, hAbove, hId', hPath', hDepth', -, hChildren⟩ :=
    exists_getElem?_addBelow p new hBefore
  obtain ⟨position, hPosition, hEq⟩ := hPlaced.path_eq
  refine ⟨q, above, hAbove, ?_, ?_, ?_, position, ?_, ?_⟩
  · rw [hParent, hId', hPlaced.parent_eq]
  · rw [hId, hId']
    exact hPlaced.id_lt
  · rw [hDepth, hDepth', hPlaced.depth_eq]
  · rw [hId]
    exact hChildren hPosition
  · rw [hPath, hPath', hEq]

section AddBelow

variable (hGrown : Grown nodes) (hp : nodes[p]? = some parent)
  (hNew : NextChild nodes.size parent new)

include hGrown hp hNew

theorem NextChild.parent_eq_some : new.parent = some p := by
  rw [hNew.parent_eq, hGrown.id_eq hp]

/-- The new element agrees with its parent. -/
theorem placed_new : Placed (parent.withChild nodes.size) new := by
  have hlt : p < nodes.size := (Array.getElem?_eq_some_iff.mp hp).1
  refine ⟨hNew.parent_eq, ?_, hNew.depth_eq, parent.children.length, ?_, hNew.path_eq⟩
  · show parent.id < new.id
    rw [hGrown.id_eq hp, hNew.id_eq]
    exact hlt
  · rw [hNew.id_eq]
    exact List.getElem?_concat_length

theorem children_sorted_addBelow {above : Node} (hAbove : (addBelow nodes p new)[q]? = some above) :
    above.children.Pairwise (· < ·) := by
  rcases getElem?_addBelow_cases hp hAbove with ⟨-, rfl⟩ | ⟨-, rfl⟩ | ⟨-, hAbove⟩
  · rw [hNew.children_eq]
    exact List.Pairwise.nil
  · refine List.pairwise_append.mpr ⟨hGrown.children_sorted hp, List.pairwise_singleton _ _, ?_⟩
    intro i hi j hj
    rw [List.mem_singleton.mp hj]
    exact ((hGrown.mem_children_iff hp i).mp hi).lt_size
  · exact hGrown.children_sorted hAbove

theorem mem_children_addBelow_iff {above : Node}
    (hAbove : (addBelow nodes p new)[q]? = some above) (i : NodeId) :
    i ∈ above.children ↔ Link (addBelow nodes p new) q i := by
  rw [link_addBelow_iff hp (hNew.parent_eq_some hGrown hp)]
  rcases getElem?_addBelow_cases hp hAbove with ⟨rfl, rfl⟩ | ⟨rfl, rfl⟩ | ⟨hne, hAbove⟩
  · -- nothing lies in the new element yet
    rw [hNew.children_eq]
    refine ⟨fun h => absurd h List.not_mem_nil, ?_⟩
    rintro (hLink | ⟨rfl, -⟩)
    · exact absurd (hGrown.link_lt hLink) (Nat.lt_asymm hLink.lt_size)
    · exact absurd (Array.getElem?_eq_some_iff.mp hp).1 (Nat.lt_irrefl _)
  · show i ∈ parent.children ++ [nodes.size] ↔ _
    rw [List.mem_append, List.mem_singleton, hGrown.mem_children_iff hp]
    simp
  · rw [hGrown.mem_children_iff hAbove]
    simp [hne]

/-- **A new element keeps the order of the document**, when the latest one lies within the element
that it is put under. -/
theorem Grown.addBelow (hLatest : Within nodes p (nodes.size - 1)) :
    Grown (addBelow nodes p new) where
  id_eq := fun {i node} hNode => by
    rcases getElem?_addBelow_cases hp hNode with ⟨rfl, rfl⟩ | ⟨rfl, rfl⟩ | ⟨-, hNode⟩
    · exact hNew.id_eq
    · show parent.id = i
      exact hGrown.id_eq hp
    · exact hGrown.id_eq hNode
  root := fun {node} hNode => by
    rcases getElem?_addBelow_cases hp hNode with ⟨hEq, -⟩ | ⟨rfl, rfl⟩ | ⟨-, hNode⟩
    · have hlt : p < nodes.size := (Array.getElem?_eq_some_iff.mp hp).1
      rw [← hEq] at hlt
      exact absurd hlt (Nat.not_lt_zero p)
    · obtain ⟨hParent, hDepth, hPath⟩ := hGrown.root hp
      exact ⟨hParent, hDepth, hPath⟩
    · exact hGrown.root hNode
  placed := fun {i node} hNode hRoot => by
    rcases getElem?_addBelow_cases hp hNode with ⟨rfl, rfl⟩ | ⟨rfl, rfl⟩ | ⟨-, hNode⟩
    · exact ⟨p, _, getElem?_addBelow_self hp, placed_new hGrown hp hNew⟩
    · exact placed_addBelow hGrown hp hRoot rfl rfl rfl rfl
    · exact placed_addBelow hGrown hNode hRoot rfl rfl rfl rfl
  children_sorted := children_sorted_addBelow hGrown hp hNew
  mem_children_iff := mem_children_addBelow_iff hGrown hp hNew
  turn := fun {q i} hLink => by
    have hParent : new.parent = some p := hNew.parent_eq_some hGrown hp
    rcases (link_addBelow_iff hp hParent).mp hLink with hLink | ⟨rfl, hi⟩
    · exact within_addBelow hp hParent (hGrown.turn hLink)
    · rw [← hi, Nat.add_sub_cancel] at hLatest
      exact within_addBelow hp hParent hLatest

end AddBelow

/-- A root alone is a tree in document order. -/
theorem grown_singleton {node : Node} (hId : node.id = rootId) (hParent : node.parent = none)
    (hDepth : node.depth = 0) (hPath : node.path = "0") (hChildren : node.children = []) :
    Grown #[node] := by
  have hOnly : ∀ {i : NodeId} {other : Node}, #[node][i]? = some other → i = 0 ∧ other = node := by
    intro i other hOther
    have hi : i < 1 := (Array.getElem?_eq_some_iff.mp hOther).1
    rw [Nat.lt_one_iff.mp hi] at hOther
    exact ⟨Nat.lt_one_iff.mp hi, (Option.some.inj hOther).symm⟩
  have hLink : ∀ {q i : NodeId}, ¬ Link #[node] q i := by
    rintro q i ⟨other, hOther, hq⟩
    rw [(hOnly hOther).2, hParent] at hq
    cases hq
  constructor
  case id_eq =>
    intro i other hOther
    obtain ⟨rfl, rfl⟩ := hOnly hOther
    exact hId
  case root =>
    intro other hOther
    rw [(hOnly hOther).2]
    exact ⟨hParent, hDepth, hPath⟩
  case placed => exact fun hOther hRoot => absurd (hOnly hOther).1 hRoot
  case children_sorted =>
    intro i other hOther
    rw [(hOnly hOther).2, hChildren]
    exact List.Pairwise.nil
  case mem_children_iff =>
    intro i other hOther j
    rw [(hOnly hOther).2, hChildren]
    exact ⟨fun h => absurd h List.not_mem_nil, fun h => absurd h hLink⟩
  case turn => exact fun h => absurd h hLink

/-- The snapshot stands for a dump that could not be read: it has a diagnosis, and a single element,
which tells it. -/
structure Snapshot.TellsFault (s : Snapshot) (reason : Text) : Prop where
  diagnostic_eq : s.diagnostic = some reason
  nodes_eq : s.nodes = #[{ Node.bare "hierarchy" with
    text := "[uiprobe:parse-failure]" ++ " " ++ reason
    description := "[uiprobe:parse-failure]" ++ " " ++ reason }]

theorem Snapshot.tellsFault_degraded (id : Nat) (reason : Text) :
    (degraded id reason).TellsFault reason :=
  ⟨rfl, rfl⟩

namespace Dump

open Markup (Event Tag Reading)

/-! ## Faults of the dump and faults of the arena -/

/-- A fault that no dump can be blamed for. -/
def Fault.Internal (fault : Fault) : Prop := fault = .severalRoots ∨ fault = .lostParent

/-- The result is as wanted, or the dump is at fault. -/
def Safe {α : Type} (wanted : α → Prop) : Except Fault α → Prop
  | .ok value => wanted value
  | .error fault => ¬ fault.Internal

theorem Safe.bind {α β : Type} {wanted : α → Prop} {wanted' : β → Prop} {result : Except Fault α}
    {next : α → Except Fault β} (h : Safe wanted result)
    (hNext : ∀ value, wanted value → Safe wanted' (next value)) :
    Safe wanted' (result >>= next) := by
  cases result with
  | ok value => exact hNext value h
  | error fault => exact h

theorem safe_ofTag (tag : Tag) : Safe (fun _ => True) (Draft.ofTag tag) := by
  unfold Draft.ofTag
  split
  · rintro (h | h) <;> cases h
  · trivial

/-! ## One more tag -/

/-- What one more tag inside the open elements leads to. -/
structure Pushed (nodes : Array Node) (opened : List NodeId) (after : Array Node) : Prop where
  grown : Grown after
  size_eq : after.size = nodes.size + 1
  within_latest : ∀ o ∈ opened, Within after o nodes.size
  within_of_within : ∀ {top i : NodeId}, Within nodes top i → Within after top i

/-- The open elements are nested, and the latest element lies within each of them. -/
structure Arena.Sound (arena : Arena) : Prop where
  grown : Grown arena.nodes
  opened_lt : ∀ o ∈ arena.opened, o < arena.nodes.size
  nested : arena.opened.Pairwise fun inner outer => Within arena.nodes outer inner
  latest : ∀ o ∈ arena.opened, Within arena.nodes o (arena.nodes.size - 1)
  /-- With nothing open, a root is yet to come or has been closed. -/
  root_closed : arena.opened = [] → arena.nodes = #[] ∨ arena.rootClosed = true

theorem nextChild_toNode (draft : Draft) (tag : Tag) (id : NodeId) (parent : Node) :
    NextChild id parent (draft.toNode tag (.below id parent)) :=
  ⟨rfl, rfl, rfl, rfl, rfl⟩

variable {arena : Arena}

/-- **A tag is put where it belongs, or the tag is at fault.** -/
theorem Arena.Sound.push (hSound : arena.Sound) (hOpen : arena.rootClosed = false) (tag : Tag) :
    Safe (Pushed arena.nodes arena.opened) (push arena.nodes arena.opened tag) := by
  unfold Dump.push
  refine (safe_ofTag tag).bind fun draft _ => ?_
  cases hOpened : arena.opened with
  | nil =>
    have hEmpty : arena.nodes = #[] :=
      (hSound.root_closed hOpened).resolve_right (by rw [hOpen]; exact Bool.false_ne_true)
    rw [hEmpty]
    exact ⟨grown_singleton rfl rfl rfl rfl rfl, rfl, fun o ho => absurd ho List.not_mem_nil,
      fun hWithin => by
        rcases within_iff.mp hWithin with rfl | ⟨p, -, node, hNode, -⟩
        · exact Relation.ReflTransGen.refl
        · simp at hNode⟩
  | cons p outer =>
    have hp : p ∈ arena.opened := by rw [hOpened]; exact List.mem_cons_self
    have hlt : p < arena.nodes.size := hSound.opened_lt p hp
    obtain ⟨parent, hParent⟩ : ∃ parent, arena.nodes[p]? = some parent :=
      ⟨arena.nodes[p], Array.getElem?_eq_getElem hlt⟩
    simp only [hParent]
    have hNew := nextChild_toNode draft tag arena.nodes.size parent
    have hLink := hNew.parent_eq_some hSound.grown hParent
    refine ⟨hSound.grown.addBelow hParent hNew (hSound.latest p hp), size_addBelow, ?_,
      within_addBelow hParent hLink⟩
    intro o ho
    rcases List.mem_cons.mp ho with rfl | ho
    · exact within_addBelow_size hParent hLink Relation.ReflTransGen.refl
    · have hNested := hSound.nested
      rw [hOpened, List.pairwise_cons] at hNested
      exact within_addBelow_size hParent hLink (hNested.1 o ho)

/-- Open elements stay nested when one more element has been pushed. -/
theorem Pushed.nested {after : Array Node} (hSound : arena.Sound)
    (h : Pushed arena.nodes arena.opened after) :
    arena.opened.Pairwise fun inner outer => Within after outer inner :=
  hSound.nested.imp h.within_of_within

theorem Pushed.latest {nodes after : Array Node} {opened : List NodeId}
    (h : Pushed nodes opened after) : ∀ o ∈ opened, Within after o (after.size - 1) := by
  rw [h.size_eq, Nat.add_sub_cancel]
  exact h.within_latest

theorem Pushed.opened_lt {after : Array Node} (hSound : arena.Sound)
    (h : Pushed arena.nodes arena.opened after) : ∀ o ∈ arena.opened, o < after.size := by
  intro o ho
  rw [h.size_eq]
  exact Nat.lt_succ_of_lt (hSound.opened_lt o ho)

/-! ## Events -/

/-- What an event makes of an arena. -/
inductive Arena.Stepped (arena : Arena) : Event → Arena → Prop
  | passed (hClosed : arena.rootClosed = true) (event : Event) : Stepped arena event arena
  | opening {tag : Tag} {nodes : Array Node} (hOpen : arena.rootClosed = false)
      (hPush : Dump.push arena.nodes arena.opened tag = .ok nodes) :
      Stepped arena (.opening tag) ⟨nodes, arena.nodes.size :: arena.opened, false⟩
  | empty {tag : Tag} {nodes : Array Node} (hOpen : arena.rootClosed = false)
      (hPush : Dump.push arena.nodes arena.opened tag = .ok nodes) :
      Stepped arena (.empty tag) ⟨nodes, arena.opened, arena.opened.isEmpty⟩
  | closing (hOpen : arena.rootClosed = false) :
      Stepped arena .closing ⟨arena.nodes, arena.opened.tail, arena.opened.tail.isEmpty⟩
  | aside (hOpen : arena.rootClosed = false) : Stepped arena .aside arena

theorem Arena.stepped_of_step {next : Arena} {event : Event} (h : arena.step event = .ok next) :
    arena.Stepped event next := by
  unfold Arena.step at h
  by_cases hClosed : arena.rootClosed = true
  · rw [if_pos hClosed] at h
    cases h
    exact .passed hClosed event
  rw [if_neg hClosed] at h
  have hOpen : arena.rootClosed = false := by simpa using hClosed
  cases event with
  | opening tag =>
    cases hPush : Dump.push arena.nodes arena.opened tag with
    | error fault => simp only [hPush] at h; cases h
    | ok nodes => simp only [hPush] at h; cases h; exact .opening hOpen hPush
  | empty tag =>
    cases hPush : Dump.push arena.nodes arena.opened tag with
    | error fault => simp only [hPush] at h; cases h
    | ok nodes => simp only [hPush] at h; cases h; exact .empty hOpen hPush
  | closing => cases h; exact .closing hOpen
  | aside => cases h; exact .aside hOpen

/-- What holds of an arena and is kept up by every event, holds after all of them. -/
theorem Arena.kept_foldlM {P : Arena → Prop}
    (hStep : ∀ {arena event next}, P arena → Arena.Stepped arena event next → P next)
    {events : List Event} {next : Arena} (hStart : P arena)
    (h : events.foldlM Arena.step arena = .ok next) : P next := by
  induction events generalizing arena with
  | nil => cases h; exact hStart
  | cons event rest ih =>
    rw [List.foldlM_cons] at h
    cases hFirst : arena.step event with
    | error fault => simp only [hFirst] at h; cases h
    | ok after =>
      simp only [hFirst] at h
      exact ih (hStep hStart (Arena.stepped_of_step hFirst)) h

/-- Elements are laid out when there is no fault and nothing is left open. -/
theorem layOut_eq_ok {reading : Reading} {nodes : Array Node} (h : layOut reading = .ok nodes) :
    ∃ arena, reading.events.foldlM Arena.step .empty = .ok arena ∧ reading.fault = none ∧
      arena.opened = [] ∧ arena.nodes = nodes ∧ nodes.isEmpty = false := by
  unfold layOut at h
  cases hArena : reading.events.foldlM Arena.step .empty with
  | error fault => rw [hArena] at h; cases h
  | ok arena =>
    rw [hArena] at h
    cases hFault : reading.fault with
    | some fault => simp only [hFault, bind, Except.bind] at h; cases h
    | none =>
      simp only [hFault, bind, Except.bind] at h
      split at h
      · cases h
      · rename_i hNodes
        split at h
        · cases h
        · rename_i hOpened
          cases h
          exact ⟨arena, rfl, rfl, by simpa using hOpened, rfl, by simpa using hNodes⟩

theorem Arena.Sound.empty : Arena.empty.Sound where
  grown := Grown.empty
  opened_lt := fun _ ho => absurd ho List.not_mem_nil
  nested := List.Pairwise.nil
  latest := fun _ ho => absurd ho List.not_mem_nil
  root_closed := fun _ => Or.inl rfl

/-- **Every event keeps the arena sound, whatever came before it.** -/
theorem Arena.Sound.step (hSound : arena.Sound) (event : Event) :
    Safe Arena.Sound (arena.step event) := by
  unfold Arena.step
  by_cases hClosed : arena.rootClosed = true
  · rw [if_pos hClosed]
    exact hSound
  rw [if_neg hClosed]
  have hOpen : arena.rootClosed = false := by simpa using hClosed
  cases event with
  | opening tag =>
    refine (hSound.push hOpen tag).bind fun after hPushed => ?_
    constructor
    case grown => exact hPushed.grown
    case opened_lt =>
      intro o ho
      rcases List.mem_cons.mp ho with rfl | ho
      · show arena.nodes.size < after.size
        rw [hPushed.size_eq]
        exact Nat.lt_succ_self _
      · exact hPushed.opened_lt hSound o ho
    case nested => exact List.pairwise_cons.mpr ⟨hPushed.within_latest, hPushed.nested hSound⟩
    case latest =>
      intro o ho
      rcases List.mem_cons.mp ho with rfl | ho
      · show Within after arena.nodes.size (after.size - 1)
        rw [hPushed.size_eq, Nat.add_sub_cancel]
        exact Relation.ReflTransGen.refl
      · exact hPushed.latest o ho
    case root_closed => exact fun h => absurd h (List.cons_ne_nil _ _)
  | empty tag =>
    refine (hSound.push hOpen tag).bind fun after hPushed => ?_
    have hLt := hPushed.opened_lt hSound
    have hNested := hPushed.nested hSound
    exact ⟨hPushed.grown, hLt, hNested, hPushed.latest, fun h => Or.inr (List.isEmpty_iff.mpr h)⟩
  | closing =>
    have hTail : ∀ o ∈ arena.opened.tail, o ∈ arena.opened := fun _ => List.mem_of_mem_tail
    exact ⟨hSound.grown, fun o ho => hSound.opened_lt o (hTail o ho), hSound.nested.tail,
      fun o ho => hSound.latest o (hTail o ho),
      fun h => Or.inr (List.isEmpty_iff.mpr h)⟩
  | aside => exact hSound

theorem Arena.Sound.foldlM (events : List Event) :
    ∀ {arena : Arena}, arena.Sound → Safe Arena.Sound (events.foldlM Arena.step arena) := by
  induction events with
  | nil => exact fun hSound => hSound
  | cons event rest ih =>
    intro arena hSound
    rw [List.foldlM_cons]
    exact (hSound.step event).bind fun _ hNext => ih hNext

/-- **Whatever events come in, the elements are a tree in document order, or the dump is at
fault.** -/
theorem safe_layOut (reading : Reading) : Safe PreOrder (layOut reading) := by
  unfold layOut
  refine (Arena.Sound.empty.foldlM reading.events).bind fun arena hSound => ?_
  cases reading.fault with
  | some fault => rintro (h | h) <;> cases h
  | none =>
    by_cases hEmpty : arena.nodes.isEmpty = true
    · simp only [hEmpty, if_true]
      rintro (h | h) <;> cases h
    · by_cases hOpened : arena.opened.isEmpty = true
      · simp only [hEmpty, hOpened, Bool.not_true, Bool.false_eq_true, if_false]
        refine hSound.grown.preOrder (Nat.pos_of_ne_zero fun h => hEmpty ?_)
        rw [Array.isEmpty_iff_size_eq_zero]
        exact h
      · simp only [hEmpty, hOpened, Bool.not_false, Bool.false_eq_true, if_false, if_true]
        rintro (h | h) <;> cases h

/-- The elements of a raw dump are a tree in document order. -/
theorem preOrder_of_read {raw : Text} {nodes : Array Node} (h : read raw = .ok nodes) :
    PreOrder nodes := by
  simp only [read] at h
  split at h
  · cases h
  · have hSafe := safe_layOut (Event.readAll (Markup.repair raw))
    rw [h] at hSafe
    exact hSafe

theorem parse_of_fault (id : Nat) {raw : Text} {fault : Fault} (h : read raw = .error fault) :
    ∃ reason, parse id raw = .degraded id reason ∧ (parse id raw).TellsFault reason := by
  have hParse : parse id raw = .degraded id fault.message := by rw [parse, h]
  refine ⟨fault.message, hParse, ?_⟩
  rw [hParse]
  exact Snapshot.tellsFault_degraded id fault.message

/-- A dump that cannot be read yields one element that says why, any other a tree. -/
theorem parse_cases (id : Nat) (raw : Text) :
    (∃ reason, parse id raw = .degraded id reason) ∨
      ((parse id raw).diagnostic = none ∧ PreOrder (parse id raw).nodes) := by
  unfold parse
  cases hRead : read raw with
  | ok nodes => exact Or.inr ⟨rfl, preOrder_of_read hRead⟩
  | error fault => exact Or.inl ⟨fault.message, rfl⟩

/-- **Every dump yields a screen that says why it cannot be read, or a tree in document order.**
Whatever events a reader makes of it, no fault of the arena itself is ever reported: the open
element that a tag belongs to is always there, and a second root never comes up. -/
theorem degraded_or_preOrder (id : Nat) (raw : Text) :
    ((∃ reason node, (parse id raw).diagnostic = some reason ∧ (parse id raw).nodes = #[node] ∧
        node.text = Snapshot.failureMarker ++ " " ++ reason ∧
        node.description = Snapshot.failureMarker ++ " " ++ reason) ∨
      ((parse id raw).diagnostic = none ∧ PreOrder (parse id raw).nodes)) ∧
    ∀ reading : Reading,
      (∀ nodes, layOut reading = .ok nodes → PreOrder nodes) ∧
        layOut reading ≠ .error .lostParent ∧ layOut reading ≠ .error .severalRoots := by
  refine ⟨?_, fun reading => ?_⟩
  · rcases parse_cases id raw with ⟨reason, h⟩ | h
    · rw [h]
      exact Or.inl ⟨reason, Snapshot.failureRoot reason, rfl, rfl, rfl, rfl⟩
    · exact Or.inr h
  · have hSafe := safe_layOut reading
    refine ⟨fun nodes h => ?_, fun h => ?_, fun h => ?_⟩
    · rw [h] at hSafe
      exact hSafe
    · rw [h] at hSafe
      exact hSafe (Or.inr rfl)
    · rw [h] at hSafe
      exact hSafe (Or.inl rfl)

end Dump

end ScreenQuery
