import ScreenQuery.Handle
import ScreenQuery.Wait

/-!
# Operations of a session

* Queries look at the current snapshot, which may come from the cache; `requery` always captures.
* Waits are `Wait.pollUntil` with their own checks. An element counts as shown when it is visible to
  the user and covers some area.
* Inputs go to the device once, at the place that a handle has kept, and then drop the cached
  snapshot, whether they succeeded or not.

The operations are the methods of `DeviceSession` from `snapshot` to `press_key`; `dispatch` is what
they share with `after_action`, and `toldDuration` is `duration_ms`. `wait_until` is
`Wait.pollUntil` itself, and `waitForCount` a use of it. Out of scope: fractions of a millisecond,
and log lines.
-/

namespace ScreenQuery.Session

/-- A plan that may fail. -/
abbrev Operation (α : Type) := Plan (Except Failure α)

/-! ## Queries -/

/-- The current snapshot. -/
def snapshot (force : Bool) : Operation Snapshot :=
  .snapshot force fun reply _ => .done (reply.mapError BridgeError.failure)

/-- What a function finds on the current snapshot. -/
def onSnapshot {α : Type} (force : Bool) (find : Snapshot → Except Failure α) : Operation α :=
  .snapshot force fun reply _ => .done ((reply.mapError BridgeError.failure).bind find)

/-- The first element of a screen that a selector picks, or a failure. -/
def firstOf (selector : Selector) (s : Snapshot) : Except Failure Handle :=
  match Handle.findFirst s selector with
  | some handle => .ok handle
  | none => .error (.notFound selector.toText)

/-- The first element that a selector picks, if any. -/
def find (selector : Selector) : Operation (Option Handle) :=
  onSnapshot false fun s => .ok (Handle.findFirst s selector)

/-- All elements that a selector picks. -/
def findAll (selector : Selector) : Operation (List Handle) :=
  onSnapshot false fun s => .ok (Handle.findAll s selector)

/-- The first element that a selector picks. -/
def require (selector : Selector) : Operation Handle := onSnapshot false (firstOf selector)

/-- The failure to look up a handle that no selector found. -/
def withoutSelector (handle : Handle) : Failure :=
  .invalidInputWith ("Handle " ++ handle.describe ++ " was not created from a selector")
    "Find the element again with a selector instead"

/-- Looks up the selector of a handle on a new capture. -/
def requery (handle : Handle) : Operation Handle :=
  match handle.selector with
  | none => .done (.error (withoutSelector handle))
  | some selector => onSnapshot true (firstOf selector)

/-! ## Waits -/

/-- The first shown element that a selector picks. -/
def firstShown (selector : Selector) (s : Snapshot) : Option Handle :=
  (Handle.findAll s selector).find? Handle.isVisible

/-- Waits until a selector picks a shown element. -/
def waitFor (selector : Selector) (patience : Patience) : Operation Handle :=
  Wait.untilSome selector.toText patience (firstShown selector)

/-- True when a selector picks no shown element. -/
def isHidden (selector : Selector) (s : Snapshot) : Bool :=
  !(Handle.findAll s selector).any Handle.isVisible

/-- Waits until a selector picks no shown element. -/
def waitForHidden (selector : Selector) (patience : Patience) : Operation Unit :=
  Wait.untilSome (selector.toText ++ " to disappear") patience fun s =>
    if isHidden selector s then some () else none

/-- The first shown element with a text or description that holds `words`, whatever the case. -/
def firstShowing (words : Text) (s : Snapshot) : Option Handle :=
  let needle := Text.lowercase words
  let picked := s.nodes.toList.find? fun node =>
    node.isVisible && (Text.contains needle (Text.lowercase node.text) ||
      Text.contains needle (Text.lowercase node.description))
  picked.bind fun node => Handle.of? s node.id none

/-- Waits until a shown element holds some words. -/
def waitForText (words : Text) (patience : Patience) : Operation Handle :=
  if words.isEmpty then .done (.error (.invalidInput "Text to wait for must not be empty"))
  else Wait.untilSome ("text \"" ++ words ++ "\"") patience (firstShowing words)

/-- Waits until the screen shows something else than what `baseline` is the hash of. -/
def waitForChange (baseline : UInt64) (patience : Patience) : Operation Snapshot :=
  Wait.untilSome "screen change" patience fun s =>
    if s.contentHash = baseline then none else some s

/-- A screen that has been seen: its hash, the snapshot that first had it, and when. -/
structure Sighting where
  hash : UInt64
  snapshotId : Nat
  since : Nat
  deriving DecidableEq

/-- Accepts a screen that a later capture shows unchanged once `settle` has passed. -/
def settled (settle : Nat) : Wait.Check (Option Sighting) Snapshot := fun sighting elapsed s =>
  match sighting with
  | some seen =>
    if seen.hash = s.contentHash then
      if s.id ≠ seen.snapshotId ∧ settle ≤ elapsed - seen.since then (some s, sighting)
      else (none, sighting)
    else (none, some ⟨s.contentHash, s.id, elapsed⟩)
  | none => (none, some ⟨s.contentHash, s.id, elapsed⟩)

/-- Waits until the screen has stayed the same for `settle`. -/
def waitForIdle (settle : Nat) (patience : Patience) : Operation Snapshot :=
  let what : Text := "screen idle for " ++ Text.ofNat settle ++ "ms"
  (Wait.pollUntil what patience (settled settle) none).bind fun outcome => .done outcome.1

/-- Waits until a selector picks at least `least` elements. The number of screens that were looked
at comes with the result. -/
def waitForCount (selector : Selector) (least : Nat) (what : Text) (patience : Patience) :
    Plan (Except Failure Nat × Nat) :=
  let check : Wait.Check Nat Nat := fun looks _ s =>
    let count := (Query.findAll s selector).length
    (if least ≤ count then some count else none, looks + 1)
  Wait.pollUntil what patience check 0

/-! ## Inputs -/

/-- The failure of an input. -/
def inputFailed (name : Text) (error : BridgeError) : Failure :=
  .device (name ++ " failed: " ++ error.message)

/-- Passes an input to the device and drops the cached snapshot. -/
def dispatch (name : Text) (action : Action) : Operation Unit :=
  .act action fun result => .invalidate (.done (result.mapError (inputFailed name)))

/-- How long a press is when nothing else is asked for. -/
def defaultPress : Nat := 1000

/-- Taps a place. -/
def tapPoint (spot : Point) : Operation Unit := dispatch "tap" (.tap spot)

/-- Taps the centre of an element. -/
def tap (handle : Handle) : Operation Unit := tapPoint handle.center

/-- Waits until a selector picks a shown element, and taps it. -/
def tapSelector (selector : Selector) (patience : Patience) : Operation Handle :=
  (waitFor selector patience).bind fun found =>
    match found with
    | .error failure => .done (.error failure)
    | .ok handle => (tap handle).bind fun result => .done (result.map fun _ => handle)

/-- A duration as a device is told it: longer ones than a 64-bit number can tell are cut to the
longest that it can. -/
def toldDuration (duration : Nat) : Nat := min duration Text.uint64Limit

/-- Presses the centre of an element for some time. -/
def longPress (handle : Handle) (duration : Nat) : Operation Unit :=
  dispatch "long press" (.swipe handle.center handle.center (toldDuration duration))

/-- Swipes from one place to another. -/
def swipe (start finish : Point) (duration : Nat) : Operation Unit :=
  dispatch "swipe" (.swipe start finish (toldDuration duration))

/-- Swipes from the centre of one element to that of another. -/
def drag (start finish : Handle) (duration : Nat) : Operation Unit :=
  swipe start.center finish.center duration

/-- Types a text. -/
def typeText (words : Text) : Operation Unit :=
  if words.isEmpty then .done (.error (.invalidInput "Text to type must not be empty"))
  else dispatch "type" (.typing words)

/-- Presses a key. -/
def pressKey (code : UInt32) : Operation Unit := dispatch "key" (.key code)

end ScreenQuery.Session
