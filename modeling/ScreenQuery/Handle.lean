import ScreenQuery.Query

/-!
# Handles

* A `Handle` points at one element of one snapshot. It keeps that snapshot, so its geometry is that
  of the capture, whatever the screen has shown since.
* A handle that a selector found knows the selector; `DeviceSession.requery` needs it.
* Searches below a handle stay in its snapshot.

`Handle` is `ElementHandle`, and `Handle.of?` is its `new`. Its `summary` is `Handle.toJson`.
-/

namespace ScreenQuery

/-- An element of a snapshot, and the selector that found it. -/
structure Handle where
  snapshot : Snapshot
  id : NodeId
  node : Node
  selector : Option Selector
  get?_id : snapshot.get? id = some node

namespace Handle

/-- The handle of the element with an id. -/
def of? (s : Snapshot) (id : NodeId) (selector : Option Selector) : Option Handle :=
  match h : s.get? id with
  | some node => some ⟨s, id, node, selector, h⟩
  | none => none

/-- The rectangle of the element. -/
def bounds (handle : Handle) : Bounds := handle.node.bounds

/-- The midpoint of the element, where it is tapped. -/
def center (handle : Handle) : Point := handle.node.center

/-- The size of the element. -/
def size (handle : Handle) : Size := handle.node.size

/-- True when the element is visible and covers some area. -/
def isVisible (handle : Handle) : Bool := handle.node.isVisible

/-- True when another snapshot than that of the handle is the current one. -/
def isStale (handle : Handle) (current : Nat) : Bool := current != handle.snapshot.id

/-- The name of the element in its snapshot. -/
def describe (handle : Handle) : Text := handle.snapshot.describe handle.id

/-- Handles of the elements that a selector picks on a screen. -/
def findAll (s : Snapshot) (selector : Selector) : List Handle :=
  (Query.findAll s selector).filterMap fun id => of? s id (some selector)

/-- The handle of the first element that a selector picks on a screen. -/
def findFirst (s : Snapshot) (selector : Selector) : Option Handle :=
  (Query.findFirst s selector).bind fun id => of? s id (some selector)

/-- Handles of the elements inside one that a selector picks. -/
def findAllWithin (handle : Handle) (selector : Selector) : List Handle :=
  (Query.findWithin handle.snapshot handle.id selector).filterMap fun id =>
    of? handle.snapshot id (some selector)

/-- The handle of the first element inside one that a selector picks. -/
def findWithin (handle : Handle) (selector : Selector) : Option Handle :=
  (handle.findAllWithin selector).head?

end Handle

end ScreenQuery
