import ScreenQuery.Failure
import ScreenQuery.Handle
import ScreenQuery.Json.Basic

/-!
# Records

* The JSON form of geometry, elements, snapshots, handles and failures. A record is an object with
  its fields in a fixed order; a list or dictionary that is empty, and a parent that is absent, are
  left out.

These are the derived forms of `Node`, `Flags`, `Bounds`, `ErrorCode`, `ApiError`, `Snapshot` and
`HandleSummary`.
-/

namespace ScreenQuery

/-- A 32-bit integer as a value. -/
def Json.ofInt32 (i : Int32) : Json := .ofInt i.toInt

/-- An object whose fields come in groups. -/
def Json.ofGroups (groups : List (List (Text × Json))) : Json := .object groups.flatten

/-- A field that may be left out. -/
def Json.fieldIf (present : Bool) (name : Text) (value : Json) : List (Text × Json) :=
  if present then [(name, value)] else []

/-- The field of a text that is left out when it is empty. -/
def Json.nonemptyField (name value : Text) : List (Text × Json) :=
  fieldIf (!value.isEmpty) name (.string value)

/-- The record of a place. -/
def Point.toJson (p : Point) : Json := .object [("x", .ofInt32 p.x), ("y", .ofInt32 p.y)]

/-- The record of a size. -/
def Size.toJson (s : Size) : Json :=
  .object [("width", .ofInt32 s.width), ("height", .ofInt32 s.height)]

/-- The record of a rectangle. -/
def Bounds.toJson (b : Bounds) : Json :=
  .object [("x1", .ofInt32 b.x1), ("y1", .ofInt32 b.y1), ("x2", .ofInt32 b.x2),
    ("y2", .ofInt32 b.y2)]

/-- The value of an id. -/
def NodeId.toJson (id : NodeId) : Json := .ofNat id

/-- The value of a flag. -/
def Flag.toJson (flag : Flag) : Json := .string flag.fieldName

/-- The record of all flags. -/
def Flags.toJson (flags : Flags) : Json :=
  .object (Flag.all.map fun flag => (flag.fieldName, .bool (flags.get flag)))

/-- The record of an element. -/
def Node.toJson (node : Node) : Json :=
  Json.ofGroups [
    [("id", NodeId.toJson node.id), ("path", .string node.path), ("depth", .ofNat node.depth),
      ("class_name", .string node.className), ("resource_id", .string node.resourceId),
      ("text", .string node.text), ("description", .string node.description),
      ("package", .string node.package), ("index", .ofNat node.index.toNat),
      ("bounds", node.bounds.toJson), ("flags", node.flags.toJson)],
    Json.fieldIf (!node.extras.isEmpty) "extras"
      (.object (node.extras.map fun entry => (entry.1, .string entry.2))),
    node.parent.toList.map fun parent => ("parent", NodeId.toJson parent),
    Json.fieldIf (!node.children.isEmpty) "children" (.array (node.children.map NodeId.toJson))]

/-- The record of a snapshot; the time of the capture is given as text. -/
def Snapshot.toJson (s : Snapshot) (capturedAt : Text) : Json :=
  Json.ofGroups [
    [("snapshot_id", .ofNat s.id), ("captured_at", .string capturedAt),
      ("content_hash", .ofNat s.contentHash.toNat)],
    s.diagnostic.toList.map fun reason => ("diagnostic", .string reason),
    [("nodes", .array (s.nodes.toList.map Node.toJson))]]

/-- The record of a handle. -/
def Handle.toJson (handle : Handle) : Json :=
  Json.ofGroups [
    [("snapshot_id", .ofNat handle.snapshot.id), ("id", NodeId.toJson handle.id),
      ("path", .string handle.node.path), ("describe", .string handle.describe),
      ("class_name", .string handle.node.className)],
    Json.nonemptyField "resource_id" handle.node.resourceId,
    Json.nonemptyField "text" handle.node.text,
    Json.nonemptyField "description" handle.node.description,
    [("bounds", .string handle.bounds.toText), ("center", handle.center.toJson),
      ("size", handle.size.toJson), ("visible", .bool handle.isVisible)]]

/-- The value of a failure code. -/
def FailureCode.toJson (code : FailureCode) : Json := .string code.name

/-- The record of a failure. -/
def Failure.toJson (failure : Failure) : Json :=
  .object [("code", failure.code.toJson), ("message", .string failure.message),
    ("suggestion", match failure.suggestion with
      | some suggestion => .string suggestion
      | none => .null)]

end ScreenQuery
