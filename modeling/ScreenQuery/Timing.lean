import ScreenQuery.Text.Blank
import ScreenQuery.Text.Numeral

/-!
# Timing

* A `Timing` holds the four times of a session, in milliseconds.
* `Timing.ofEnvironment` starts from the defaults and replaces each time whose variable holds a
  number; a variable that holds anything else changes nothing.
* `Patience` is what a single wait needs of them.

`Timing` is `SessionConfig` with `from_lookup`, and `Patience` is `WaitOptions` with `from_config`.
Out of scope: fractions of a millisecond.
-/

namespace ScreenQuery

/-- The times of a session, in milliseconds. -/
structure Timing where
  /-- How long a cached snapshot stays fresh. -/
  freshness : Nat
  /-- How long a wait goes on before it fails. -/
  timeout : Nat
  /-- The pause between the probes of a wait. -/
  poll : Nat
  /-- How often a wait passes over the cache. -/
  refresh : Nat
  deriving DecidableEq, Repr

namespace Timing

/-- The times when nothing else is asked for. -/
def default : Timing := ⟨1000, 10000, 100, 500⟩

/-- The variables that set the times, in their order. -/
def freshnessVariable : Text := "UIPROBE_CACHE_TTL_MS"
def timeoutVariable : Text := "UIPROBE_TIMEOUT_MS"
def pollVariable : Text := "UIPROBE_POLL_MS"
def refreshVariable : Text := "UIPROBE_REFRESH_MS"

/-- The milliseconds that the value of a variable denotes. -/
def milliseconds? (value : Text) : Option Nat := Text.natUpTo? Text.uint64Limit (Text.trim value)

/-- The defaults, but for the times that the environment sets. -/
def ofEnvironment (lookup : Text → Option Text) : Timing :=
  let time := fun (variableName : Text) (other : Nat) =>
    (lookup variableName >>= milliseconds?).getD other
  { freshness := time freshnessVariable default.freshness
    timeout := time timeoutVariable default.timeout
    poll := time pollVariable default.poll
    refresh := time refreshVariable default.refresh }

end Timing

/-- How a wait goes on, in milliseconds. -/
structure Patience where
  timeout : Nat
  poll : Nat
  refresh : Nat
  deriving DecidableEq, Repr

/-- The patience of a session's waits. -/
def Timing.patience (timing : Timing) : Patience := ⟨timing.timeout, timing.poll, timing.refresh⟩

/-- The pause between probes; it is never empty, so a wait always comes to its end. -/
def Patience.pause (patience : Patience) : Nat := max patience.poll 1

end ScreenQuery
