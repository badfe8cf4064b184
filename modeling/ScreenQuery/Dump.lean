import ScreenQuery.Snapshot
import ScreenQuery.Markup.Repair
import ScreenQuery.Markup.Event

/-!
# Dumps

* `parse` turns the raw dump of a screen into a snapshot. It never fails: a dump that cannot be
  read yields a snapshot of one element that says why.
* `Draft` gathers what the attributes of a tag say of its element; of an attribute that is given
  twice the last one counts.
* `Arena` lays the elements out in document order while their tags are read. Tags after the root
  has been closed are passed over.

`parse` is `parse_hierarchy`, `read` and `layOut` are `build_arena`, `push` is `push_node`, and
`Draft.apply` is `apply_attribute`. Out of scope: the time of the capture, `captured_at`, which only
reports show.
-/

namespace ScreenQuery.Dump

open Markup (Event Tag)

/-- Why a dump cannot be read. -/
inductive Fault
  | empty
  | noRoot
  | severalRoots
  | lostParent
  | unclosed (count : Nat)
  | badMarkup (position : Nat) (fault : Markup.Fault)
  | badAttribute (tag : Text) (position : Nat) (fault : Markup.AttributeFault)
  deriving DecidableEq

/-- The wording of a fault. -/
def Fault.message : Fault → Text
  | empty => "empty hierarchy dump"
  | noRoot => "missing root element"
  | severalRoots => "multiple root elements"
  | lostParent => "an open element is missing"
  | unclosed count => "truncated dump: " ++ Text.ofNat count ++ " element(s) left unclosed"
  | badMarkup position fault =>
    "syntax error at byte " ++ Text.ofNat position ++ ": " ++ fault.message
  | badAttribute tag position fault =>
    "bad attribute in <" ++ tag ++ ">: position " ++ Text.ofNat position ++ ": " ++ fault.message

/-! ## What the attributes of a tag say -/

/-- What the attributes of a tag say of its element. -/
structure Draft where
  className : Option Text
  index : Option UInt32
  resourceId : Text
  text : Text
  description : Text
  package : Text
  bounds : Bounds
  flags : Flags
  extras : Dictionary Text
  deriving DecidableEq

/-- The draft before any attribute. -/
def Draft.blank : Draft := ⟨none, none, [], [], [], [], .zero, .default, []⟩

/-- The flags after the literal value of one; any other value leaves them. -/
def setFlag (flags : Flags) (flag : Flag) (value : Text) : Flags :=
  if value = "true" then flags.set flag true
  else if value = "false" then flags.set flag false
  else flags

/-- The draft after one more attribute. -/
def Draft.apply (draft : Draft) (name value : Text) : Draft :=
  match Flag.ofName? name with
  | some flag => { draft with flags := setFlag draft.flags flag value }
  | none =>
    if name = "class" then { draft with className := some value }
    else if name = "resource-id" then { draft with resourceId := value }
    else if name = "text" then { draft with text := value }
    else if name = "content-desc" then { draft with description := value }
    else if name = "package" then { draft with package := value }
    else if name = "index" then { draft with index := Text.uint32? (Text.trim value) }
    else if name = "bounds" then { draft with bounds := (Bounds.parse? value).getD .zero }
    else { draft with extras := draft.extras.insert name value }

/-- The draft that a list of names and values makes. -/
def Draft.ofPairs (pairs : List (Text × Text)) : Draft :=
  pairs.foldl (fun draft pair => draft.apply pair.1 pair.2) .blank

/-- The draft of a tag. -/
def Draft.ofTag (tag : Tag) : Except Fault Draft :=
  match Markup.Attribute.readAll tag.name tag.rest with
  | .error (position, fault) => .error (.badAttribute tag.name position fault)
  | .ok attributes =>
    .ok (.ofPairs (attributes.map fun one => (one.name, Markup.decode one.value)))

/-! ## Where an element stands -/

/-- The place of an element among the others. -/
structure Slot where
  id : NodeId
  path : Text
  depth : Nat
  parent : Option NodeId
  /-- Which child of its parent it is, counted from zero. -/
  position : Nat

/-- The place of the root. -/
def Slot.root : Slot := ⟨rootId, "0", 0, none, 0⟩

/-- The place of the next child of an element. -/
def Slot.below (id : NodeId) (parent : Node) : Slot where
  id := id
  path := parent.path ++ '.' :: Text.ofNat parent.children.length
  depth := parent.depth + 1
  parent := some parent.id
  position := parent.children.length

/-- The element of a tag at its place. -/
def Draft.toNode (draft : Draft) (tag : Tag) (slot : Slot) : Node where
  id := slot.id
  path := slot.path
  depth := slot.depth
  className := draft.className.getD tag.name
  resourceId := draft.resourceId
  text := draft.text
  description := draft.description
  package := draft.package
  index := draft.index.getD (UInt32.ofNat slot.position)
  bounds := draft.bounds
  flags := draft.flags
  extras := draft.extras
  parent := slot.parent
  children := []

/-- The elements read so far, the open ones innermost first, and whether the root is closed. -/
structure Arena where
  nodes : Array Node
  opened : List NodeId
  rootClosed : Bool

/-- Nothing read yet. -/
def Arena.empty : Arena := ⟨#[], [], false⟩

/-- The elements with one more, the next child of the innermost open one. -/
def push (nodes : Array Node) (opened : List NodeId) (tag : Tag) : Except Fault (Array Node) := do
  let draft ← Draft.ofTag tag
  match opened with
  | [] =>
    if nodes.isEmpty then return nodes.push (draft.toNode tag .root)
    else throw .severalRoots
  | parentId :: _ =>
    match nodes[parentId]? with
    | none => throw .lostParent
    | some parent =>
      let id := nodes.size
      let linked := nodes.modify parentId fun parent =>
        { parent with children := parent.children ++ [id] }
      return linked.push (draft.toNode tag (.below id parent))

/-- The elements after one more event. -/
def Arena.step (arena : Arena) (event : Event) : Except Fault Arena :=
  if arena.rootClosed then .ok arena
  else match event with
    | .opening tag => do
      let nodes ← push arena.nodes arena.opened tag
      return ⟨nodes, arena.nodes.size :: arena.opened, false⟩
    | .empty tag => do
      let nodes ← push arena.nodes arena.opened tag
      return ⟨nodes, arena.opened, arena.opened.isEmpty⟩
    | .closing => .ok ⟨arena.nodes, arena.opened.tail, arena.opened.tail.isEmpty⟩
    | .aside => .ok arena

/-- The elements that the events of a text lay out. -/
def layOut (reading : Markup.Reading) : Except Fault (Array Node) := do
  let arena ← reading.events.foldlM Arena.step .empty
  match reading.fault with
  | some (position, fault) => throw (.badMarkup position fault)
  | none =>
    if arena.nodes.isEmpty then throw .noRoot
    else if !arena.opened.isEmpty then throw (.unclosed arena.opened.length)
    else return arena.nodes

/-- The elements of a raw dump. -/
def read (raw : Text) : Except Fault (Array Node) :=
  let markup := Markup.repair raw
  if (Text.trim markup).isEmpty then .error .empty else layOut (Event.readAll markup)

/-- The snapshot of a raw dump, under the given id. -/
def parse (id : Nat) (raw : Text) : Snapshot :=
  match read raw with
  | .ok nodes => ⟨id, none, nodes⟩
  | .error fault => .degraded id fault.message

@[simp] theorem id_parse (id : Nat) (raw : Text) : (parse id raw).id = id := by
  unfold parse
  split <;> rfl

/-- Nothing but the id of a snapshot depends on the id. -/
theorem parse_eq (id id' : Nat) (raw : Text) : parse id raw = { parse id' raw with id := id } := by
  unfold parse
  split <;> rfl

end ScreenQuery.Dump
