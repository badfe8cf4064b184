import ScreenQuery.Snapshot
import ScreenQuery.Text.Shortened

/-!
# Outlines

* An outline shows a screen with one line per element, indented by depth: the id, the short class,
  then what the element shows and what sets it apart.
* With `visibleOnly` an element that is not visible is left out together with all inside it; the
  root always stays.
* A screen that could not be read begins with a line that says why.

`ofSnapshot` is `format_tree`, `line` is `format_node`, and `indentedLine` is `format_line`; a
`Style` is a `FormatOptions`.
-/

namespace ScreenQuery.Outline

/-- How an outline is written. -/
structure Style where
  /-- The columns for a text or a description. -/
  textWidth : Nat
  visibleOnly : Bool
  deriving DecidableEq, Repr

/-- The style when nothing else is asked for. -/
def Style.default : Style := ⟨60, false⟩

/-- The flags that are shown when they are set. -/
def shownFlags : List Flag :=
  [.clickable, .longClickable, .scrollable, .checked, .selected, .focused, .password]

/-- What is shown in parentheses: the description, the bounds and the state. -/
def remarks (style : Style) (node : Node) : List Text :=
  let description : List Text :=
    if node.description.isEmpty then []
    else ["desc: " ++ Text.shorten style.textWidth node.description]
  let bounds : List Text :=
    if node.bounds.isEmpty then [] else ["bounds: " ++ node.bounds.toText]
  let disabled : List Text := if node.flag .enabled then [] else ["disabled"]
  let hidden : List Text := if node.flag .visibleToUser then [] else ["hidden"]
  description ++ bounds ++ (shownFlags.filter node.flag).map Flag.attributeName ++ disabled ++
    hidden

/-- The line of one element, without indentation. -/
def line (style : Style) (node : Node) : Text :=
  let resource : Text := if node.resourceId.isEmpty then [] else " #" ++ node.shortResourceId
  let text : Text :=
    if node.text.isEmpty then [] else " \"" ++ Text.shorten style.textWidth node.text ++ "\""
  let remarks : Text := match remarks style node with
    | [] => []
    | remarks => " (" ++ Text.joinWith ", " remarks ++ ")"
  NodeId.toText node.id ++ " [" ++ node.shortClass ++ "]" ++ resource ++ text ++ remarks

/-- True for an element that is left out of an outline of visible elements. -/
def isLeftOut (node : Node) : Bool := node.parent.isSome && !node.isVisible

/-- The elements in document order but for those left out and all inside them. While such an element
is being passed over, `below` is its depth. -/
def prune (below : Option Nat) : List Node → List Node
  | [] => []
  | node :: rest =>
    if below.any fun depth => depth < node.depth then prune below rest
    else if isLeftOut node then prune (some node.depth) rest
    else node :: prune none rest

/-- The elements that an outline shows. -/
def shown (style : Style) (s : Snapshot) : List Node :=
  if style.visibleOnly then prune none s.nodes.toList else s.nodes.toList

/-- The indented line of an element, with its end. -/
def indentedLine (style : Style) (node : Node) : Text :=
  List.replicate (2 * node.depth) ' ' ++ line style node ++ "\n"

/-- The first line of the outline of a screen that could not be read. -/
def header (s : Snapshot) : Text :=
  match s.diagnostic with
  | some reason => "# degraded snapshot: " ++ reason ++ "\n"
  | none => []

/-- The outline of a screen. -/
def ofSnapshot (style : Style) (s : Snapshot) : Text :=
  header s ++ (shown style s).flatMap (indentedLine style)

end ScreenQuery.Outline
