import ScreenQuery.ContentHash

/-!
# Snapshots

* A `Snapshot` is one captured screen: its elements in document order, and a diagnosis when the
  dump could not be read. It never changes; a new capture makes a new snapshot with a new id.
* `descendants` relies on document order: the elements below one are the run of deeper elements
  right after it.
* `describe` names an element for a reader. Siblings that would get the same name are numbered in
  document order, from one.

`get?`, `parent?`, `children`, `descendants` and `describe` are those of `Snapshot`, with
`base_selector` (`baseDescription`), and `degraded` is its `degraded`. Ids and depths are natural
numbers. Out of scope: what `descendants` does with the largest id that a machine word can hold,
where adding one to it overflows, and the time of the capture, `captured_at`.
-/

namespace ScreenQuery

/-- One captured screen. -/
structure Snapshot where
  id : Nat
  /-- Why the dump could not be read; absent for a dump that could. -/
  diagnostic : Option Text
  nodes : Array Node

namespace Snapshot

/-- The words that mark the root of a screen that could not be read. -/
def failureMarker : Text := "[uiprobe:parse-failure]"

/-- The root that stands for a dump that could not be read. -/
def failureRoot (reason : Text) : Node :=
  { Node.bare "hierarchy" with
    text := failureMarker ++ " " ++ reason
    description := failureMarker ++ " " ++ reason }

/-- The snapshot that stands for a dump that could not be read. -/
def degraded (id : Nat) (reason : Text) : Snapshot := ⟨id, some reason, #[failureRoot reason]⟩

/-- True when the dump could not be read. -/
def isDegraded (s : Snapshot) : Bool := s.diagnostic.isSome

theorem isDegraded_eq_false_iff {s : Snapshot} : s.isDegraded = false ↔ s.diagnostic = none :=
  Option.isSome_eq_false_iff.trans Option.isNone_iff_eq_none

/-- The hash of what the screen shows. -/
def contentHash (s : Snapshot) : UInt64 := ContentHash.ofNodes s.nodes.toList

/-! ## Navigation -/

/-- The element with an id. -/
def get? (s : Snapshot) (id : NodeId) : Option Node := s.nodes[id]?

/-- The element that an element lies in. -/
def parent? (s : Snapshot) (id : NodeId) : Option Node := do
  let node ← s.get? id
  let parent ← node.parent
  s.get? parent

/-- The elements directly inside an element. -/
def children (s : Snapshot) (id : NodeId) : List Node :=
  match s.get? id with
  | some node => node.children.filterMap s.get?
  | none => []

/-- The elements anywhere inside an element, in document order. -/
def descendants (s : Snapshot) (id : NodeId) : List Node :=
  match s.get? id with
  | some node => (s.nodes.toList.drop (id + 1)).takeWhile fun other => node.depth < other.depth
  | none => []

/-! ## Descriptions -/

/-- The name of an element by itself: its class, and the strongest of its resource id, text and
description. -/
def baseDescription (node : Node) : Text :=
  if !node.resourceId.isEmpty then node.shortClass ++ "#" ++ node.shortResourceId
  else if !node.text.isEmpty then node.shortClass ++ "[text=\"" ++ node.text ++ "\"]"
  else if !node.description.isEmpty then
    node.shortClass ++ "[content-desc=\"" ++ node.description ++ "\"]"
  else node.shortClass

/-- The siblings of an element, itself among them, that have its name. -/
def twins (s : Snapshot) (node : Node) (parent : NodeId) : List Node :=
  let name := baseDescription node
  (s.children parent).filter fun other => baseDescription other == name

/-- The name of an element; a number tells it from siblings of the same name. -/
def describe (s : Snapshot) (id : NodeId) : Text :=
  match s.get? id with
  | none => "<unknown " ++ NodeId.toText id ++ ">"
  | some node =>
    match node.parent with
    | none => baseDescription node
    | some parent =>
      let twins := s.twins node parent
      if twins.length < 2 then baseDescription node
      else
        let position := twins.findIdx? fun other => other.id == id
        baseDescription node ++ ":nth(" ++ Text.ofNat (position.getD 0 + 1) ++ ")"

end Snapshot

end ScreenQuery
