import ScreenQuery.Plan
import ScreenQuery.Timing

/-!
# Waits

* `pollUntil` requests snapshots until a check accepts one, and fails when its patience runs out.
  Times are counted from the start of the wait.
* Between two probes the wait pauses, but never beyond the time at which it gives up. A probe may be
  served from the cache; at the intervals of the patience one is forced to capture the screen.
* The check never sees a screen that could not be read. Such a screen, like a capture that failed,
  is remembered as the cause to report.

`pollUntil` is `poll_until`, and its requests are those of a `SnapshotSource`. Out of scope:
fractions of a millisecond, and the count of polls, which only a log line tells.
-/

namespace ScreenQuery

namespace Wait

variable {σ β : Type}

/-- Looks at a screen, some time after the start of the wait: what was found, and what to remember
for the next screen. -/
abbrev Check (σ β : Type) := (memory : σ) → (elapsed : Nat) → Snapshot → Option β × σ

/-- What a wait remembers between its probes. -/
structure Progress (σ : Type) where
  /-- When a capture was last forced. -/
  lastForced : Nat
  /-- What went wrong last. -/
  cause : Option Text
  /-- What the check remembers. -/
  memory : σ

/-- The progress at the start of a wait. -/
def Progress.start (memory : σ) : Progress σ := ⟨0, none, memory⟩

/-- True when the next probe has to capture the screen. -/
def Progress.forces (progress : Progress σ) (patience : Patience) (elapsed : Nat) : Bool :=
  patience.refresh ≤ elapsed - progress.lastForced

/-- The progress once the next probe has been made. -/
def Progress.probed (progress : Progress σ) (patience : Patience) (elapsed : Nat) : Progress σ :=
  if progress.forces patience elapsed then { progress with lastForced := elapsed } else progress

/-- The cause to report of a screen that could not be read. -/
def unreadable (reason : Text) : Text := "unparseable dump: " ++ reason

/-- What the reply to a probe leads to. -/
def examine (check : Check σ β) (progress : Progress σ) (elapsed : Nat)
    (reply : Except BridgeError Snapshot) : Option β × Progress σ :=
  match reply with
  | .error error => (none, { progress with cause := some error.message })
  | .ok snapshot =>
    match snapshot.diagnostic with
    | some reason => (none, { progress with cause := some (unreadable reason) })
    | none =>
      let (found, memory) := check progress.memory elapsed snapshot
      (found, { progress with memory := memory })

/-- The failure of a wait whose patience has run out. -/
def expired (what : Text) (elapsed : Nat) (cause : Option Text) : Failure :=
  match cause with
  | some cause => .timeoutWithCause what elapsed cause
  | none => .timeout what elapsed

/-- The pause after a probe that was answered at `elapsed`. -/
def pauseAt (patience : Patience) (elapsed : Nat) : Nat :=
  min patience.pause (patience.timeout - elapsed)

theorem pauseAt_pos {patience : Patience} {elapsed : Nat} (h : elapsed < patience.timeout) :
    0 < pauseAt patience elapsed := by
  unfold pauseAt Patience.pause
  omega

/-- The wait from `elapsed` on. -/
def pollFrom (what : Text) (patience : Patience) (check : Check σ β) (progress : Progress σ)
    (elapsed : Nat) : Plan (Except Failure β × σ) :=
  .snapshot (progress.forces patience elapsed) fun reply taken =>
    let now := elapsed + taken
    match examine check (progress.probed patience elapsed) now reply with
    | (some value, progress) => .done (.ok value, progress.memory)
    | (none, progress) =>
      if _h : now < patience.timeout then
        .sleep (pauseAt patience now) fun late =>
          pollFrom what patience check progress (now + pauseAt patience now + late)
      else .done (.error (expired what now progress.cause), progress.memory)
termination_by patience.timeout - elapsed
decreasing_by
  have hNow : elapsed + taken < patience.timeout := _h
  have hPause := pauseAt_pos hNow
  omega

/-- Waits until a check accepts a screen. `what` names the condition in the failure. -/
def pollUntil (what : Text) (patience : Patience) (check : Check σ β) (memory : σ) :
    Plan (Except Failure β × σ) :=
  pollFrom what patience check (.start memory) 0

/-- A wait whose check remembers nothing. -/
def untilSome (what : Text) (patience : Patience) (find : Snapshot → Option β) :
    Plan (Except Failure β) :=
  (pollUntil what patience (fun _ _ s => (find s, ())) ()).bind fun outcome => .done outcome.1

end Wait

end ScreenQuery
