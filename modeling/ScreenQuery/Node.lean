import ScreenQuery.Geometry
import ScreenQuery.Flag
import ScreenQuery.Text.Dictionary

/-!
# Screen elements

* A `Node` is one element of a captured screen. Its id is its place in document order; `parent` and
  `children` are ids of the same snapshot.
* `Node.attribute?` answers a query by attribute name. Some fields have further names; these come
  before the attributes of a dump that have no field.

`Node` has the fields and functions of `Node` there. Out of scope: the largest id that a machine
word can hold; here ids are natural numbers, so that there is always a next one.
-/

namespace ScreenQuery

/-- The place of an element in document order, counted from zero. -/
abbrev NodeId := Nat

/-- The id of the first element. -/
def rootId : NodeId := 0

/-- The way ids are shown. -/
def NodeId.toText (id : NodeId) : Text := 'n' :: Text.ofNat id

/-- One element of a captured screen. -/
structure Node where
  id : NodeId
  /-- Child positions from the root, with dots between them. -/
  path : Text
  depth : Nat
  className : Text
  resourceId : Text
  text : Text
  description : Text
  package : Text
  index : UInt32
  bounds : Bounds
  flags : Flags
  /-- Attributes that have no field of their own. -/
  extras : Dictionary Text
  parent : Option NodeId
  children : List NodeId
  deriving DecidableEq

namespace Node

/-- The root of a screen about which nothing but its class is known. -/
def bare (className : Text) : Node where
  id := rootId
  path := "0"
  depth := 0
  className := className
  resourceId := []
  text := []
  description := []
  package := []
  index := 0
  bounds := .zero
  flags := .default
  extras := []
  parent := none
  children := []

/-- The midpoint of the element. -/
def center (node : Node) : Point := node.bounds.center

/-- Width and height of the element. -/
def size (node : Node) : Size := node.bounds.size

/-- The value of a flag. -/
def flag (node : Node) (flag : Flag) : Bool := node.flags.get flag

/-- Visible to the user and covering some area. -/
def isVisible (node : Node) : Bool := node.flags.visibleToUser && !node.bounds.isEmpty

/-- The class name after its last dot. -/
def shortClass (node : Node) : Text := Text.afterLast '.' node.className

/-- The resource id after its first `:id/`, or the whole id when it has none. -/
def shortResourceId (node : Node) : Text :=
  match Text.splitFirst ":id/" node.resourceId with
  | some (_, name) => name
  | none => node.resourceId

/-- How a truth value is written in a dump. -/
def truthText (value : Bool) : Text := if value then "true" else "false"

/-- The names of the description. -/
def descriptionNames : List Text := ["content-desc", "contentDesc", "description", "desc"]

/-- The names of the resource id. -/
def resourceIdNames : List Text := ["resource-id", "resourceId", "id"]

/-- The names of the class. -/
def classNames : List Text := ["class", "className"]

/-- The value of an attribute under one of its names. -/
def attribute? (node : Node) (name : Text) : Option Text :=
  match Flag.ofName? name with
  | some flag => some (truthText (node.flag flag))
  | none =>
    if name = "text" then some node.text
    else if descriptionNames.contains name then some node.description
    else if resourceIdNames.contains name then some node.resourceId
    else if classNames.contains name then some node.className
    else if name = "package" then some node.package
    else if name = "index" then some (Text.ofNat node.index.toNat)
    else if name = "bounds" then some node.bounds.toText
    else node.extras.get? name

end Node

end ScreenQuery
