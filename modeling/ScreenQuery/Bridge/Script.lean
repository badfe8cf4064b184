import ScreenQuery.Bridge.Basic

/-!
# Scripted devices

* A `Script` answers captures and inputs from lists, in order, each after a delay of its own. When
  the captures are used up the last dump comes again, at once; inputs then succeed at once.
* It keeps a record of what it was asked and when.

`Script` is `ScriptedBridge`, the device that sessions are tried on.
-/

namespace ScreenQuery

/-- A recorded answer: its delay and its result. -/
structure Recorded (α : Type) where
  delay : Nat
  result : Except BridgeError α

/-- The state of a scripted device. -/
structure Script where
  dumps : List (Recorded Text)
  /-- The last dump that was given. -/
  lastDump : Option Text
  results : List (Recorded Unit)
  /-- The number of captures asked for. -/
  captures : Nat
  /-- The inputs with their times, latest first. -/
  actions : List (Nat × Action)
  /-- The first and last moments of the answered calls, latest first. -/
  calls : List (Nat × Nat)

namespace Script

/-- A device that has not been asked anything. -/
def start (dumps : List (Recorded Text)) (results : List (Recorded Unit)) : Script :=
  ⟨dumps, none, results, 0, [], []⟩

/-- What a capture gives when the list is used up. -/
def repeatedDump (script : Script) : Except BridgeError Text :=
  match script.lastDump with
  | some dump => .ok dump
  | none => .error (.unavailable "no dump scripted")

/-- Answers a capture. -/
def capture (now : Nat) (script : Script) : Answer Script Text :=
  let script := { script with captures := script.captures + 1 }
  match script.dumps with
  | [] => ⟨0, script.repeatedDump, script⟩
  | next :: rest =>
    let lastDump := match next.result with
      | .ok dump => some dump
      | .error _ => script.lastDump
    ⟨next.delay, next.result, { script with
      dumps := rest
      lastDump := lastDump
      calls := (now, now + next.delay) :: script.calls }⟩

/-- Answers an input. -/
def act (action : Action) (now : Nat) (script : Script) : Answer Script Unit :=
  let next := script.results.headD ⟨0, .ok ()⟩
  ⟨next.delay, next.result, { script with
    results := script.results.tail
    actions := (now, action) :: script.actions
    calls := (now, now + next.delay) :: script.calls }⟩

/-- The bridge of scripted devices. -/
def bridge : Bridge Script := ⟨capture, act⟩

/-- The most calls of a list, latest first, that were being answered at once. A call may begin when
another ends. -/
def peakOf : List (Nat × Nat) → Nat
  | [] => 0
  | call :: earlier =>
    max ((earlier.filter fun other => call.1 < other.2).length + 1) (peakOf earlier)

/-- The most calls that were being answered at once. -/
def peak (script : Script) : Nat := peakOf script.calls

end Script

end ScreenQuery
