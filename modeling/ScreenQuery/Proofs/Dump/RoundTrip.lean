import ScreenQuery.Proofs.Arena
import ScreenQuery.Proofs.Dump.Draft
import ScreenQuery.Proofs.Markup.Rendering

/-!
# A rendered screen is read back

* `Element.listed` lists the elements of a document as they come up, each with its place and its
  tag, and `Listed.Shows` says what the element of a screen must be to show one of them.
* `Grows` is what reading a part of a document does to the elements read so far: the elements of the
  part are appended, the one that they stand in gets children, and all others stay. Parts that
  follow one another (`Grows.append`) and an element with its content (`Grows.below`) add up.
* `parse_rendered` puts it all together: repair, reading, decoding, the attributes and the arena.

About `parse_hierarchy`, with `sanitize`, `build_arena`, `push_node` and `apply_attribute` below it.
-/

namespace ScreenQuery

namespace Markup

/-! ## The elements of a document -/

/-- An element of a document: the positions of the elements around it and its own, how many there
are around it, its position among its siblings, and its tag. -/
structure Listed where
  path : Text
  depth : Nat
  position : Nat
  tag : WrittenTag

mutual

/-- An element and what stands in it, in the order of the document. -/
def Element.listed (path : Text) (depth position : Nat) : Element → List Listed
  | .empty tag => [⟨path, depth, position, tag⟩]
  | .pair tag inside _ => ⟨path, depth, position, tag⟩ :: inside.listed path (depth + 1) 0

/-- The elements that stand in an element with the path `around`, from a position on. -/
def Content.listed (around : Text) (depth position : Nat) : Content → List Listed
  | .last _ => []
  | .more _ first rest =>
    first.listed (around ++ '.' :: Text.ofNat position) depth position ++
      rest.listed around depth (position + 1)

end

end Markup

namespace Dump

open Markup

/-- The node shows an element of a document: its place, and the values of its attributes. -/
structure Listed.Shows (listed : Listed) (node : Node) : Prop where
  path : node.path = listed.path
  depth : node.depth = listed.depth
  className : node.className = (value? ["class"] listed.tag.pairs).getD listed.tag.name
  text : node.text = (value? ["text"] listed.tag.pairs).getD []
  resourceId : node.resourceId = (value? ["resource-id"] listed.tag.pairs).getD []
  description : node.description = (value? ["content-desc"] listed.tag.pairs).getD []
  package : node.package = (value? ["package"] listed.tag.pairs).getD []
  flags : ∀ flag, node.flag flag =
    ((value? flag.spellings listed.tag.pairs).bind truth?).getD flag.defaultValue
  bounds : node.bounds = ((value? ["bounds"] listed.tag.pairs).bind Bounds.parse?).getD .zero
  index : node.index = ((value? ["index"] listed.tag.pairs).bind fun value =>
    Text.uint32? (Text.trim value)).getD (UInt32.ofNat listed.position)
  extras : node.extras.Perm (listed.tag.pairs.filter fun pair => isExtra pair.1)

/-- The attributes of a tag can be rendered, and leave no choice. -/
def Clear (tag : WrittenTag) : Prop := tag.Renderable ∧ Unambiguous tag.pairs

instance : DecidablePred Clear := fun tag =>
  inferInstanceAs (Decidable (tag.Renderable ∧ Unambiguous tag.pairs))

variable {tag : WrittenTag} {nodes nodes' nodes'' : Array Node} {p : NodeId} {parent : Node}
  {listed more : List Listed} {one : Listed} {count count' : Nat}

/-- Children make no difference to what a node shows. -/
theorem Listed.Shows.withChildren {node : Node} (h : Listed.Shows one node)
    (children : List NodeId) : Listed.Shows one { node with children := children } := by
  obtain ⟨h1, h2, h3, h4, h5, h6, h7, h8, h9, h10, h11⟩ := h
  exact ⟨h1, h2, h3, h4, h5, h6, h7, h8, h9, h10, h11⟩

/-- The tag as it is read makes a node that shows the tag as it is meant. -/
theorem exists_ofTag (h : Clear tag) : ∃ draft, Draft.ofTag tag.encoded.toTag = .ok draft ∧
    ∀ slot : Slot, Listed.Shows ⟨slot.path, slot.depth, slot.position, tag⟩
      (draft.toNode tag.encoded.toTag slot) := by
  obtain ⟨attributes, hRead, hPairs⟩ := decoded_rendered h.1
  have hDraft := ofTag_eq_ok hRead
  rw [pairsOf, hPairs] at hDraft
  have hShows := shows_ofPairs h.2
  refine ⟨_, hDraft, fun slot => ?_⟩
  constructor
  case path => rfl
  case depth => rfl
  case className => exact congrArg (Option.getD · tag.name) hShows.className
  case text => exact hShows.text
  case resourceId => exact hShows.resourceId
  case description => exact hShows.description
  case package => exact hShows.package
  case flags => exact hShows.flags
  case bounds => exact hShows.bounds
  case index => exact congrArg (Option.getD · (UInt32.ofNat slot.position)) hShows.index
  case extras => exact hShows.extras

/-! ## Elements added to the ones read so far -/

/-- `nodes'` are the elements of `nodes` and the listed ones behind them; the one at `p` has got
`count` more children, and every other is as it was. -/
structure Grows (nodes nodes' : Array Node) (p : NodeId) (count : Nat) (listed : List Listed) :
    Prop where
  size_eq : nodes'.size = nodes.size + listed.length
  other : ∀ {i : Nat}, i < nodes.size → i ≠ p → nodes'[i]? = nodes[i]?
  children : ∀ {parent : Node}, nodes[p]? = some parent → ∃ ids, ids.length = count ∧
    nodes'[p]? = some { parent with children := parent.children ++ ids }
  shown : ∀ {i : Nat} {one : Listed}, listed[i]? = some one →
    ∃ node, nodes'[nodes.size + i]? = some node ∧ Listed.Shows one node

namespace Grows

theorem nil (nodes : Array Node) (p : NodeId) : Grows nodes nodes p 0 [] where
  size_eq := rfl
  other := fun _ _ => rfl
  children := fun {parent} hParent => ⟨[], rfl, by rw [List.append_nil]; exact hParent⟩
  shown := fun h => by cases h

theorem addBelow {new : Node} (hNew : Listed.Shows one new) :
    Grows nodes (addBelow nodes p new) p 1 [one] where
  size_eq := size_addBelow
  other := fun hlt hne => getElem?_addBelow_of_ne hne hlt
  children := fun {parent} hParent => ⟨[nodes.size], rfl, getElem?_addBelow_self hParent⟩
  shown := fun {i one'} h => by
    have hi : i = 0 := by
      have hlt := (List.getElem?_eq_some_iff.mp h).1
      simpa using hlt
    subst hi
    obtain rfl : one = one' := Option.some.inj h
    exact ⟨new, getElem?_addBelow_size, hNew⟩

/-- Parts that stand in the same element, one behind the other. -/
theorem append (hp : p < nodes.size) (h : Grows nodes nodes' p count listed)
    (h' : Grows nodes' nodes'' p count' more) :
    Grows nodes nodes'' p (count + count') (listed ++ more) where
  size_eq := by rw [h'.size_eq, h.size_eq, List.length_append, Nat.add_assoc]
  other := fun {i} hlt hne => by
    have hlt' : i < nodes'.size := by rw [h.size_eq]; exact Nat.lt_add_right _ hlt
    rw [h'.other hlt' hne, h.other hlt hne]
  children := fun {parent} hParent => by
    obtain ⟨ids, hIds, hMiddle⟩ := h.children hParent
    obtain ⟨ids', hIds', hLast⟩ := h'.children hMiddle
    refine ⟨ids ++ ids', by rw [List.length_append, hIds, hIds'], ?_⟩
    rw [hLast, List.append_assoc]
  shown := fun {i one} hOne => by
    by_cases hi : i < listed.length
    · rw [List.getElem?_append_left hi] at hOne
      obtain ⟨node, hNode, hShows⟩ := h.shown hOne
      have hlt : nodes.size + i < nodes'.size := (Array.getElem?_eq_some_iff.mp hNode).1
      have hne : nodes.size + i ≠ p := Nat.ne_of_gt (Nat.lt_add_right i hp)
      exact ⟨node, by rw [h'.other hlt hne]; exact hNode, hShows⟩
    · rw [List.getElem?_append_right (Nat.le_of_not_lt hi)] at hOne
      obtain ⟨node, hNode, hShows⟩ := h'.shown hOne
      have hPlace : nodes'.size + (i - listed.length) = nodes.size + i := by
        rw [h.size_eq]
        omega
      exact ⟨node, by rw [← hPlace]; exact hNode, hShows⟩

/-- An element and then what stands in it. -/
theorem below (hp : p < nodes.size) (h : Grows nodes nodes' p 1 [one])
    (h' : Grows nodes' nodes'' nodes.size count listed) :
    Grows nodes nodes'' p 1 (one :: listed) where
  size_eq := by rw [h'.size_eq, h.size_eq, List.length_singleton, List.length_cons]; omega
  other := fun {i} hlt hne => by
    have hlt' : i < nodes'.size := by rw [h.size_eq]; exact Nat.lt_add_right _ hlt
    rw [h'.other hlt' (Nat.ne_of_lt hlt), h.other hlt hne]
  children := fun {parent} hParent => by
    obtain ⟨ids, hIds, hMiddle⟩ := h.children hParent
    have hlt : p < nodes'.size := by rw [h.size_eq]; exact Nat.lt_add_right _ hp
    exact ⟨ids, hIds, by rw [h'.other hlt (Nat.ne_of_lt hp)]; exact hMiddle⟩
  shown := fun {i one'} hOne => by
    cases i with
    | zero =>
      obtain rfl : one = one' := Option.some.inj hOne
      obtain ⟨node, hNode, hShows⟩ := h.shown (i := 0) rfl
      obtain ⟨ids, -, hLast⟩ := h'.children hNode
      exact ⟨_, hLast, hShows.withChildren _⟩
    | succ i =>
      obtain ⟨node, hNode, hShows⟩ := h'.shown hOne
      have hPlace : nodes'.size + i = nodes.size + (i + 1) := by
        rw [h.size_eq, List.length_singleton]
        omega
      exact ⟨node, by rw [← hPlace]; exact hNode, hShows⟩

end Grows

/-! ## Reading a part of a document -/

/-- With some elements open, the events lead from some elements to others and leave the same ones
open. -/
def Leads (opened : List NodeId) (nodes : Array Node) (events : List Event) (nodes' : Array Node) :
    Prop :=
  events.foldlM Arena.step ⟨nodes, opened, false⟩ = .ok ⟨nodes', opened, false⟩

theorem Leads.append {opened : List NodeId} {events events' : List Event}
    (h : Leads opened nodes events nodes') (h' : Leads opened nodes' events' nodes'') :
    Leads opened nodes (events ++ events') nodes'' := by
  unfold Leads at *
  rw [List.foldlM_append, h]
  exact h'

/-- Where the next child of an element is listed. -/
def nextBelow (parent : Node) (tag : WrittenTag) : Listed :=
  ⟨parent.path ++ '.' :: Text.ofNat parent.children.length, parent.depth + 1,
    parent.children.length, tag⟩

section

variable (hParent : nodes[p]? = some parent) (outer : List NodeId)

include hParent

/-- A tag in an open element is put below it. -/
theorem push_below (hTag : Clear tag) : ∃ new,
    push nodes (p :: outer) tag.encoded.toTag = .ok (addBelow nodes p new) ∧ new.children = [] ∧
      Listed.Shows (nextBelow parent tag) new := by
  obtain ⟨draft, hDraft, hShows⟩ := exists_ofTag hTag
  refine ⟨draft.toNode tag.encoded.toTag (.below nodes.size parent), ?_, rfl,
    hShows (.below nodes.size parent)⟩
  simp only [push, hDraft, hParent]
  rfl

theorem leads_empty (hTag : Clear tag) : ∃ new,
    Leads (p :: outer) nodes [.empty tag.encoded.toTag] (addBelow nodes p new) ∧
      Listed.Shows (nextBelow parent tag) new := by
  obtain ⟨new, hPush, -, hShows⟩ := push_below hParent outer hTag
  refine ⟨new, ?_, hShows⟩
  simp only [Leads, List.foldlM_cons, Arena.step, hPush]
  rfl

/-- A pair of tags around what is laid out below the new element. -/
theorem leads_pair (hTag : Clear tag) : ∃ new, new.children = [] ∧
    Listed.Shows (nextBelow parent tag) new ∧
      ∀ {events : List Event} {nodes' : Array Node},
        Leads (nodes.size :: p :: outer) (addBelow nodes p new) events nodes' →
          Leads (p :: outer) nodes (.opening tag.encoded.toTag :: (events ++ [.closing]))
            nodes' := by
  obtain ⟨new, hPush, hChildren, hShows⟩ := push_below hParent outer hTag
  refine ⟨new, hChildren, hShows, fun {events nodes'} h => ?_⟩
  have hStep : Arena.step ⟨nodes, p :: outer, false⟩ (.opening tag.encoded.toTag) =
      .ok ⟨addBelow nodes p new, nodes.size :: p :: outer, false⟩ := by
    simp only [Arena.step, hPush]
    rfl
  unfold Leads at *
  rw [List.foldlM_cons, hStep]
  show (events ++ [Event.closing]).foldlM Arena.step _ = _
  rw [List.foldlM_append, h]
  rfl

end

mutual

/-- **An element of a document is laid out below the open one.** -/
theorem grows_element : ∀ (e : Element), e.All Clear IsWords →
    ∀ {nodes : Array Node} {p : NodeId} {parent : Node}, nodes[p]? = some parent →
      ∀ outer : List NodeId, ∃ nodes',
        Leads (p :: outer) nodes (e.map WrittenTag.encoded).events nodes' ∧
          Grows nodes nodes' p 1 (e.listed (parent.path ++ '.' :: Text.ofNat parent.children.length)
            (parent.depth + 1) parent.children.length)
  | .empty tag, hTag, nodes, p, parent, hParent, outer => by
    obtain ⟨new, hLeads, hShows⟩ := leads_empty hParent outer hTag
    exact ⟨addBelow nodes p new, hLeads, .addBelow hShows⟩
  | .pair tag inside trail, ⟨hTag, hInside, _⟩, nodes, p, parent, hParent, outer => by
    obtain ⟨new, hChildren, hShows, hPair⟩ := leads_pair hParent outer hTag
    have hNew : (addBelow nodes p new)[nodes.size]? = some new := getElem?_addBelow_size
    obtain ⟨nodes', count, hLeads, hGrows⟩ := grows_content inside hInside hNew (p :: outer)
    rw [hShows.path, hShows.depth, hChildren] at hGrows
    have hp : p < nodes.size := (Array.getElem?_eq_some_iff.mp hParent).1
    exact ⟨nodes', hPair hLeads, Grows.below hp (.addBelow hShows) hGrows⟩

/-- What stands in the open element is laid out below it. -/
theorem grows_content : ∀ (content : Content), content.All Clear IsWords →
    ∀ {nodes : Array Node} {p : NodeId} {parent : Node}, nodes[p]? = some parent →
      ∀ outer : List NodeId, ∃ nodes' count,
        Leads (p :: outer) nodes (content.map WrittenTag.encoded).events nodes' ∧
          Grows nodes nodes' p count
            (content.listed parent.path (parent.depth + 1) parent.children.length)
  | .last _, _, nodes, p, _, _, _ => ⟨nodes, 0, rfl, .nil nodes p⟩
  | .more _ first rest, ⟨_, hFirst, hRest⟩, nodes, p, parent, hParent, outer => by
    obtain ⟨middle, hLeads, hGrows⟩ := grows_element first hFirst hParent outer
    obtain ⟨ids, hIds, hMiddle⟩ := hGrows.children hParent
    obtain ⟨nodes', count, hLeads', hGrows'⟩ := grows_content rest hRest hMiddle outer
    have hp : p < nodes.size := (Array.getElem?_eq_some_iff.mp hParent).1
    refine ⟨nodes', 1 + count, hLeads.append hLeads', hGrows.append hp ?_⟩
    have hPosition : (parent.children ++ ids).length = parent.children.length + 1 := by
      rw [List.length_append, hIds]
    rw [← hPosition]
    exact hGrows'

end

/-! ## A whole document -/

/-- The nodes show the listed elements, one each, in the same order. -/
def ShowsAll (listed : List Listed) (nodes : Array Node) : Prop :=
  nodes.size = listed.length ∧
    ∀ {i : Nat} {one : Listed}, listed[i]? = some one →
      ∃ node, nodes[i]? = some node ∧ Listed.Shows one node

theorem push_root (hTag : Clear tag) : ∃ root, push #[] [] tag.encoded.toTag = .ok #[root] ∧
    root.children = [] ∧ Listed.Shows ⟨"0", 0, 0, tag⟩ root := by
  obtain ⟨draft, hDraft, hShows⟩ := exists_ofTag hTag
  refine ⟨draft.toNode tag.encoded.toTag .root, ?_, rfl, hShows .root⟩
  simp only [push, hDraft]
  rfl

/-- What stands in the root comes behind it. -/
theorem ShowsAll.of_grows {root : Node} (hRoot : Listed.Shows one root)
    (h : Grows #[root] nodes rootId count listed) : ShowsAll (one :: listed) nodes := by
  refine ⟨by rw [h.size_eq, List.length_cons]; exact Nat.add_comm _ _, fun {i one'} hOne => ?_⟩
  cases i with
  | zero =>
    obtain rfl : one = one' := Option.some.inj hOne
    have hParent : #[root][rootId]? = some root := rfl
    obtain ⟨ids, -, hNode⟩ := h.children hParent
    exact ⟨_, hNode, hRoot.withChildren _⟩
  | succ i =>
    obtain ⟨node, hNode, hShows⟩ := h.shown hOne
    have hPlace : #[root].size + i = i + 1 := Nat.add_comm 1 i
    exact ⟨node, by rw [← hPlace]; exact hNode, hShows⟩

/-- A root is laid out and closed. -/
theorem foldlM_root (e : Element) (h : e.All Clear IsWords) : ∃ nodes,
    (e.map WrittenTag.encoded).events.foldlM Arena.step .empty = .ok ⟨nodes, [], true⟩ ∧
      ShowsAll (e.listed "0" 0 0) nodes := by
  cases e with
  | empty tag =>
    obtain ⟨root, hPush, -, hShows⟩ := push_root h
    refine ⟨#[root], ?_, .of_grows hShows (.nil _ _)⟩
    have hStep : Arena.step .empty (.empty tag.encoded.toTag) = .ok ⟨#[root], [], true⟩ := by
      simp only [Arena.step, Arena.empty, hPush]
      rfl
    rw [Element.map, Element.events, List.foldlM_cons, hStep]
    rfl
  | pair tag inside trail =>
    obtain ⟨hTag, hInside, -⟩ := h
    obtain ⟨root, hPush, hChildren, hShows⟩ := push_root hTag
    have hRoot : #[root][rootId]? = some root := rfl
    obtain ⟨nodes, count, hLeads, hGrows⟩ := grows_content inside hInside hRoot []
    rw [hShows.path, hShows.depth, hChildren] at hGrows
    refine ⟨nodes, ?_, .of_grows hShows hGrows⟩
    have hStep : Arena.step .empty (.opening tag.encoded.toTag) =
        .ok ⟨#[root], [rootId], false⟩ := by
      simp only [Arena.step, Arena.empty, hPush]
      rfl
    rw [Element.map, Element.events, List.foldlM_cons, hStep]
    show ((inside.map WrittenTag.encoded).events ++ [Event.closing]).foldlM Arena.step _ = _
    rw [List.foldlM_append, hLeads]
    rfl

/-- The elements of a document are laid out. -/
theorem layOut_rendered {D : Document} (h : D.root.All Clear IsWords) : ∃ nodes,
    layOut ⟨D.encoded.events, none⟩ = .ok nodes ∧ ShowsAll (D.root.listed "0" 0 0) nodes := by
  obtain ⟨nodes, hFold, hShows⟩ := foldlM_root D.root h
  refine ⟨nodes, ?_, hShows⟩
  have hEvents : D.encoded.events.foldlM Arena.step .empty = .ok ⟨nodes, [], true⟩ := by
    unfold Document.events Document.encoded
    cases D.declaration with
    | none => exact hFold
    | some d => exact hFold
  have hNodes : nodes.isEmpty = false := by
    have hSize : 0 < nodes.size := by
      rw [hShows.1]
      cases D.root <;> exact Nat.succ_pos _
    rw [Bool.eq_false_iff, Ne, Array.isEmpty_iff_size_eq_zero]
    omega
  simp only [layOut, hEvents, bind, Except.bind, hNodes]
  rfl

/-- **A rendered screen is read back.** Whatever the values of its attributes, a document that is
written with its values escaped yields a screen with one node for each element, in the order of the
document, and each node shows its element. What stands before the document and behind it makes no
difference. -/
theorem parse_rendered (id : Nat) {D : Document}
    (hDeclaration : ∀ d, D.declaration = some d → d.Renderable) (hRoot : D.root.All Clear IsWords)
    {lead trail : Text} (hLead : '<' ∉ lead) (hTrail : '>' ∉ trail) :
    (parse id (lead ++ (D.encoded.text ++ trail))).diagnostic = none ∧
      ShowsAll (D.root.listed "0" 0 0) (parse id (lead ++ (D.encoded.text ++ trail))).nodes := by
  have hD : D.Renderable := ⟨hDeclaration, D.root.all_imp (fun _ h => h.1) hRoot⟩
  obtain ⟨nodes, hLayOut, hShows⟩ := layOut_rendered hRoot
  have hRepair := repair_rendered hD hLead hTrail
  have hTrim : (Text.trim (repair (lead ++ (D.encoded.text ++ trail)))).isEmpty = false := by
    obtain ⟨rest, hRest⟩ := List.head?_eq_some_iff.mp D.encoded.head?_text
    have hHead : (escape D.encoded.text).head? = some '<' := by
      rw [escape_eq, hRest]
      rfl
    rw [hRepair, List.isEmpty_eq_false_iff]
    exact Text.trim_ne_nil hHead (by decide)
  have hRead : read (lead ++ (D.encoded.text ++ trail)) = .ok nodes := by
    simp only [read, hTrim, readAll_rendered hD hLead hTrail, hLayOut]
    rfl
  rw [parse, hRead]
  exact ⟨rfl, hShows⟩

/-- A screen with an empty element and a pair of tags around nothing; its values look like markup
and like what is written for markup. -/
def quotedScreen : Document where
  declaration := some ⟨[⟨" ", "version", [], [], '"', "1.0"⟩], [], "\n"⟩
  root := .pair ⟨"hierarchy", [⟨" ", "rotation", [], [], '"', "0"⟩], []⟩
    (.more "\n  " (.empty ⟨"node", [⟨" ", "text", [], [], '"', "<a b=\"c\"/> &amp; 'd'"⟩,
        ⟨" ", "class", [], [], '"', "android.widget.TextView"⟩,
        ⟨" ", "bounds", [], [], '"', "[0,0][4,2]"⟩, ⟨" ", "clickable", [], [], '"', "true"⟩,
        ⟨" ", "enabled", [], [], '"', "maybe"⟩, ⟨" ", "index", [], [], '"', "7"⟩,
        ⟨" ", "hint", [], [], '"', "é\t\n]]>"⟩], " "⟩)
      (.more "\n  " (.pair ⟨"node", [], []⟩ (.last []) []) (.last "\n"))) []

theorem parse_quotedScreen :
    (∀ d, quotedScreen.declaration = some d → d.Renderable) ∧
      quotedScreen.root.All Clear IsWords ∧ '<' ∉ ("dumped: " : Text) ∧ '>' ∉ ("\n" : Text) ∧
      (parse 3 ("dumped: " ++ (quotedScreen.encoded.text ++ "\n"))).diagnostic = none ∧
      ShowsAll (quotedScreen.root.listed "0" 0 0)
        (parse 3 ("dumped: " ++ (quotedScreen.encoded.text ++ "\n"))).nodes := by
  have hDeclaration : ∀ d ∈ quotedScreen.declaration, d.Renderable := by decide +kernel
  have hRoot : quotedScreen.root.All Clear IsWords := by decide +kernel
  have hLead : '<' ∉ ("dumped: " : Text) := by decide +kernel
  have hTrail : '>' ∉ ("\n" : Text) := by decide +kernel
  exact ⟨hDeclaration, hRoot, hLead, hTrail, parse_rendered 3 hDeclaration hRoot hLead hTrail⟩

example :
    (parse 3 quotedScreen.encoded.text).nodes.toList.map (fun node => (node.text, node.index)) =
      [([], 0), ("<a b=\"c\"/> &amp; 'd'", 7), ([], 1)] := by decide +kernel

end Dump

end ScreenQuery
