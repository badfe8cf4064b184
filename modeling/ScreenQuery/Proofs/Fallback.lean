import ScreenQuery.Fallback
import Mathlib.Data.List.Basic

/-!
# What is attempted until something succeeds

* `Failing` are strategies that are attempted one after the other, each on the state that the one
  before has left, and all fail. Strategies that are attempted begin with such
  (`exists_failing`), and what follows them is attempted next (`Failing.attemptFrom_append`).
* `Ends` says how it can end: there is nothing to attempt, one strategy succeeds, or all fail.
* An attempt may change the state in any way, so it can leave a note there. `noted` are strategies
  that note their place: the notes of a whole run are the places up to the last one that was
  attempted, each of them once and in order (`firstSuccess_ends`).

About `run_strategies`.
-/

namespace ScreenQuery.Strategy

variable {σ α : Type} {strategy : Strategy σ α} {strategies rest : List (Strategy σ α)}
  {state middle after : σ} {failures : List Failure} {lines : List Text} {value : α}

/-- Strategies that are attempted in order and fail, with their failures and the state behind. -/
inductive Failing : List (Strategy σ α) → σ → List Failure → σ → Prop
  | nil {state : σ} : Failing [] state [] state
  | cons {strategy : Strategy σ α} {rest : List (Strategy σ α)} {state middle after : σ}
    {failure : Failure} {failures : List Failure}
    (hFailed : strategy.attempt state = (.error failure, middle))
    (hRest : Failing rest middle failures after) :
    Failing (strategy :: rest) state (failure :: failures) after

/-- The lines of failed attempts. -/
def listed (strategies : List (Strategy σ α)) (failures : List Failure) : List Text :=
  List.zipWith (fun strategy failure => strategy.name ++ ": " ++ failure.message) strategies
    failures

/-- How it ends to attempt strategies in order, with the number of those that were attempted. -/
inductive Ends (strategies : List (Strategy σ α)) (state : σ) : Nat → Except Failure α × σ → Prop
  /-- There is nothing to attempt. -/
  | nothing (hNone : strategies = []) :
    Ends strategies state 0 (.error ⟨.invalidInput, "No strategies to try",
      some "Check the command syntax and try again"⟩, state)
  /-- One succeeds, after all those before it have failed. -/
  | success {failed rest : List (Strategy σ α)} {strategy : Strategy σ α}
    {failures : List Failure} {middle after : σ} {value : α}
    (hParts : strategies = failed ++ strategy :: rest)
    (hFailed : Failing failed state failures middle)
    (hDone : strategy.attempt middle = (.ok value, after)) :
    Ends strategies state (failed.length + 1) (.ok value, after)
  /-- All fail; the failure lists each of them by name. -/
  | failure {failures : List Failure} {after : σ} (hSome : strategies ≠ [])
    (hFailed : Failing strategies state failures after) :
    Ends strategies state strategies.length (.error ⟨.commandFailed,
      "All " ++ Text.ofNat strategies.length ++ " strategies failed (" ++
        Text.joinWith "; " (listed strategies failures) ++ ")",
      some "Check that the device is connected and unlocked, then retry"⟩, after)

/-! ## Attempts in order -/

namespace Failing

theorem length_eq (h : Failing strategies state failures after) :
    failures.length = strategies.length := by
  induction h with
  | nil => rfl
  | cons _ _ ih => simp [ih]

/-- What follows strategies that fail is attempted next. -/
theorem attemptFrom_append (h : Failing strategies state failures after) (lines : List Text)
    (rest : List (Strategy σ α)) : attemptFrom lines (strategies ++ rest) state =
      attemptFrom ((listed strategies failures).reverse ++ lines) rest after := by
  induction h generalizing lines with
  | nil => rfl
  | @cons strategy _ _ _ _ failure _ hFailed _ ih =>
    rw [List.cons_append, attemptFrom, hFailed]
    simp [ih, listed, failureLine]

end Failing

/-- Either a strategy succeeds behind some that fail, or all fail. -/
theorem exists_failing (strategies : List (Strategy σ α)) (state : σ) :
    (∃ failed strategy rest failures middle value after, strategies = failed ++ strategy :: rest ∧
      Failing failed state failures middle ∧ strategy.attempt middle = (.ok value, after)) ∨
    ∃ failures after, Failing strategies state failures after := by
  induction strategies generalizing state with
  | nil => exact .inr ⟨[], state, .nil⟩
  | cons strategy strategies ih =>
    match hFirst : strategy.attempt state with
    | (.ok value, middle) =>
      exact .inl ⟨[], strategy, strategies, [], state, value, middle, rfl, .nil, hFirst⟩
    | (.error failure, middle) =>
      rcases ih middle with
        ⟨failed, next, rest, failures, before, value, after, rfl, hFailed, hDone⟩ |
        ⟨failures, after, hFailed⟩
      · exact .inl ⟨strategy :: failed, next, rest, failure :: failures, before, value, after, rfl,
          .cons hFirst hFailed, hDone⟩
      · exact .inr ⟨failure :: failures, after, .cons hFirst hFailed⟩

theorem attemptFrom_success (hFailed : Failing strategies state failures middle)
    (hDone : strategy.attempt middle = (.ok value, after)) :
    attemptFrom [] (strategies ++ strategy :: rest) state = (.ok value, after) := by
  rw [hFailed.attemptFrom_append, attemptFrom, hDone]

theorem attemptFrom_failure (hFailed : Failing strategies state failures after) :
    attemptFrom [] strategies state = (.error (allFailed (listed strategies failures)), after) := by
  have hAll := hFailed.attemptFrom_append [] []
  rwa [List.append_nil, List.append_nil, attemptFrom, List.reverse_reverse] at hAll

theorem firstSuccess_eq (hSome : strategies ≠ []) :
    firstSuccess strategies state = attemptFrom [] strategies state :=
  if_neg (by simpa using hSome)

/-- It ends in one of the three ways. -/
theorem exists_ends (strategies : List (Strategy σ α)) (state : σ) :
    ∃ tried, Ends strategies state tried (firstSuccess strategies state) := by
  by_cases hNone : strategies = []
  · subst hNone
    exact ⟨0, .nothing rfl⟩
  · rw [firstSuccess_eq hNone]
    rcases exists_failing strategies state with
      ⟨failed, strategy, rest, failures, middle, value, after, rfl, hFailed, hDone⟩ |
      ⟨failures, after, hFailed⟩
    · rw [attemptFrom_success hFailed hDone]
      exact ⟨_, .success rfl hFailed hDone⟩
    · have hLength : (listed strategies failures).length = strategies.length := by
        rw [listed, List.length_zipWith, hFailed.length_eq, Nat.min_self]
      rw [attemptFrom_failure hFailed, allFailed, hLength]
      exact ⟨_, .failure hNone hFailed⟩

/-! ## Notes -/

/-- A strategy that notes its place when it is attempted. -/
def noting (place : Nat) (strategy : Strategy σ α) : Strategy (σ × List Nat) α :=
  ⟨strategy.name, fun (state, notes) =>
    let (result, state) := strategy.attempt state
    (result, state, notes ++ [place])⟩

/-- Strategies that note their places, which are counted from `place`. -/
def noted (place : Nat) : List (Strategy σ α) → List (Strategy (σ × List Nat) α)
  | [] => []
  | strategy :: rest => strategy.noting place :: noted (place + 1) rest

theorem noted_append (place : Nat) (strategies rest : List (Strategy σ α)) :
    noted place (strategies ++ rest) =
      noted place strategies ++ noted (place + strategies.length) rest := by
  induction strategies generalizing place with
  | nil => rfl
  | cons strategy strategies ih =>
    rw [List.cons_append, noted, ih, noted, List.cons_append, List.length_cons, Nat.add_assoc,
      Nat.add_comm 1]

theorem length_noted (place : Nat) (strategies : List (Strategy σ α)) :
    (noted place strategies).length = strategies.length := by
  induction strategies generalizing place with
  | nil => rfl
  | cons strategy strategies ih => simp [noted, ih]

theorem attempt_noting (place : Nat) (notes : List Nat) {result : Except Failure α}
    (h : strategy.attempt state = (result, after)) :
    (strategy.noting place).attempt (state, notes) = (result, after, notes ++ [place]) := by
  simp [noting, h]

theorem listed_noted (place : Nat) (strategies : List (Strategy σ α)) (failures : List Failure) :
    listed (noted place strategies) failures = listed strategies failures := by
  induction strategies generalizing place failures with
  | nil => rfl
  | cons strategy strategies ih =>
    cases failures with
    | nil => rfl
    | cons failure failures => simpa [listed, noted, noting] using ih (place + 1) failures

/-- Strategies that fail note their places in order. -/
theorem Failing.noted (h : Failing strategies state failures after) (place : Nat)
    (notes : List Nat) : Failing (noted place strategies) (state, notes) failures
      (after, notes ++ List.range' place strategies.length) := by
  induction h generalizing place notes with
  | nil => simpa [Strategy.noted] using Failing.nil
  | cons hFailed _ ih =>
    have hRest := ih (place + 1) (notes ++ [place])
    rw [List.append_assoc] at hRest
    exact .cons (attempt_noting place notes hFailed) hRest

/-- **What is attempted are the strategies up to the first that succeeds**, or all when none does,
each once and in order. The notes tell, and they change nothing else. -/
theorem firstSuccess_ends (strategies : List (Strategy σ α)) (state : σ) :
    ∃ tried, Ends strategies state tried (firstSuccess strategies state) ∧
      firstSuccess (noted 0 strategies) (state, []) =
        ((firstSuccess strategies state).1, (firstSuccess strategies state).2,
          List.range tried) := by
  obtain ⟨tried, hEnds⟩ := exists_ends strategies state
  refine ⟨tried, hEnds, ?_⟩
  generalize hResult : firstSuccess strategies state = result at hEnds
  cases hEnds with
  | nothing hNone =>
    subst hNone
    rfl
  | @success failed rest strategy failures middle after value hParts hFailed hDone =>
    subst hParts
    have hNotes := hFailed.noted 0 []
    rw [List.nil_append] at hNotes
    have hLast := attempt_noting (0 + failed.length) (List.range' 0 failed.length) hDone
    rw [noted_append, noted, firstSuccess_eq (by simp), attemptFrom_success hNotes hLast,
      List.range_succ, List.range_eq_range', Nat.zero_add]
  | @failure failures after hSome hFailed =>
    have hNotes := hFailed.noted 0 []
    have hSome' : noted 0 strategies ≠ [] := by
      rwa [Ne, ← List.length_eq_zero_iff, length_noted, List.length_eq_zero_iff]
    rw [firstSuccess_eq hSome, attemptFrom_failure hFailed] at hResult
    rw [firstSuccess_eq hSome', attemptFrom_failure hNotes, listed_noted, List.nil_append,
      ← List.range_eq_range']
    exact congrArg (fun result => (result.1, result.2, List.range strategies.length)) hResult

end ScreenQuery.Strategy
