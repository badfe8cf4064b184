import ScreenQuery.Failure

/-!
# Fallback

* Some work can be done in several ways, none of which always succeeds. Each is a `Strategy`;
  `firstSuccess` attempts them in order and stops at the first that succeeds.
* When all fail, the failure lists each of them in the order in which they were attempted.
* An attempt may change the state of whatever it works on.

`firstSuccess` is `run_strategies`. Out of scope: log lines.
-/

namespace ScreenQuery

/-- A named way to do some work on a state. -/
structure Strategy (σ α : Type) where
  name : Text
  attempt : σ → Except Failure α × σ

namespace Strategy

variable {σ α : Type}

/-- How a failed attempt is listed. -/
def failureLine (name : Text) (failure : Failure) : Text := name ++ ": " ++ failure.message

/-- The failure when there is nothing to attempt. -/
def noneGiven : Failure := .invalidInput "No strategies to try"

/-- The failure when all attempts failed. -/
def allFailed (lines : List Text) : Failure :=
  .commandFailed
    ("All " ++ Text.ofNat lines.length ++ " strategies failed (" ++ Text.joinWith "; " lines ++ ")")
    "Check that the device is connected and unlocked, then retry"

/-- Attempts the strategies in order; `lines` lists, reversed, the attempts that failed before. -/
def attemptFrom (lines : List Text) : List (Strategy σ α) → σ → Except Failure α × σ
  | [], state => (.error (allFailed lines.reverse), state)
  | strategy :: rest, state =>
    match strategy.attempt state with
    | (.ok value, state) => (.ok value, state)
    | (.error failure, state) => attemptFrom (failureLine strategy.name failure :: lines) rest state

/-- The result of the first strategy that succeeds. -/
def firstSuccess (strategies : List (Strategy σ α)) (state : σ) : Except Failure α × σ :=
  if strategies.isEmpty then (.error noneGiven, state) else attemptFrom [] strategies state

end Strategy

end ScreenQuery
