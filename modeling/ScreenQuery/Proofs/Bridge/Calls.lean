import ScreenQuery.Bridge.Adb
import ScreenQuery.Proofs.Fallback

/-!
# Calls of a program

* A call passes its arguments on if none of them holds a NUL, and gives what the program prints if
  it ends well: `call_eq`, `resultOf_eq_ok_iff`.
* `capture_cases` lists how a capture can go: the dump to the output succeeds, or else the dump to a
  file does, or neither.
* What holds of the state behind the launcher, and is kept up by every launch, is kept up by
  captures and inputs: `kept_capture`, `kept_act`.
-/

namespace ScreenQuery.Adb

/-- The program and the device that it is told to use can be passed on. -/
structure Device.Passable (device : Device) : Prop where
  program : holdsNul device.program = false
  serial : ∀ serial, device.serial = some serial → holdsNul serial = false

/-- A call has succeeded and printed a text. -/
def Outcome.Printed (ending : Outcome) (text : Text) : Prop :=
  ∃ output errors, ending = .exited (some 0) output errors ∧ textOf output = text

section Calls

variable {σ : Type} {launcher : Launcher σ} {device : Device} {rest : List Text}
  {state middle after : σ} {text : Text} {failure other : Failure}

theorem any_holdsNul_iff : (device.program :: device.arguments rest).any holdsNul = false ↔
    device.Passable ∧ rest.any holdsNul = false := by
  obtain ⟨program, serial⟩ := device
  cases serial with
  | none =>
    simp only [Device.arguments, List.any_cons, Bool.or_eq_false_iff]
    exact ⟨fun ⟨hProgram, hRest⟩ => ⟨⟨hProgram, nofun⟩, hRest⟩,
      fun ⟨hPassable, hRest⟩ => ⟨hPassable.program, hRest⟩⟩
  | some serial =>
    have hFlag : holdsNul "-s" = false := by decide
    simp only [Device.arguments, List.any_cons, Bool.or_eq_false_iff]
    constructor
    · rintro ⟨hProgram, -, hSerial, hRest⟩
      refine ⟨⟨hProgram, ?_⟩, hRest⟩
      rintro _ ⟨⟩
      exact hSerial
    · rintro ⟨hPassable, hRest⟩
      exact ⟨hPassable.program, hFlag, hPassable.serial serial rfl, hRest⟩

theorem call_eq (h : device.Passable) (hRest : rest.any holdsNul = false) :
    call launcher device rest state =
      (resultOf device rest (launcher device.program (device.arguments rest) state).1,
        (launcher device.program (device.arguments rest) state).2) := by
  unfold call
  rw [any_holdsNul_iff.mpr ⟨h, hRest⟩]
  rfl

theorem exists_call_eq_error (h : ¬ device.Passable) :
    ∃ error, call launcher device rest state = (.error error, state) := by
  unfold call
  have hNul : (device.program :: device.arguments rest).any holdsNul = true := by
    rw [← Bool.not_eq_false, any_holdsNul_iff]
    exact fun hBoth => h hBoth.1
  rw [hNul]
  exact ⟨_, rfl⟩

theorem resultOf_eq_ok_iff {ending : Outcome} :
    resultOf device rest ending = .ok text ↔ ending.Printed text := by
  unfold resultOf Outcome.Printed
  cases ending with
  | missing => simp
  | blocked reason => simp
  | exited status output errors =>
    by_cases hStatus : status = some 0 <;> simp [hStatus]

theorem requireHierarchy_eq_ok_iff {output : Text} : requireHierarchy output = .ok text ↔
    output = text ∧ Text.contains hierarchyMark text = true := by
  unfold requireHierarchy
  split
  · rename_i hMark
    constructor
    · rintro ⟨⟩
      exact ⟨rfl, hMark⟩
    · rintro ⟨rfl, -⟩
      rfl
  · rename_i hMark
    constructor
    · exact nofun
    · rintro ⟨rfl, h⟩
      exact absurd h hMark

/-- A capture reports what comes of its ways to dump the screen. -/
theorem capture_of_attempts {outcome : Except Failure Text}
    (h : Strategy.attemptFrom [] (strategies launcher device) state = (outcome, after)) :
    capture launcher device state =
      (outcome.mapError fun failure => .unavailable failure.message, after) := by
  have hSome : strategies launcher device ≠ [] := List.cons_ne_nil _ _
  rw [capture, Strategy.firstSuccess_eq hSome, h]
  cases outcome <;> rfl

theorem capture_of_first (hFirst : dumpToOutput launcher device state = (.ok text, after)) :
    capture launcher device state = (.ok text, after) := by
  have hDone : Strategy.attemptFrom [] (strategies launcher device) state = (.ok text, after) := by
    rw [strategies, ← List.nil_append (_ :: _)]
    exact Strategy.attemptFrom_success .nil hFirst
  exact capture_of_attempts hDone

theorem capture_of_second (hFirst : dumpToOutput launcher device state = (.error failure, middle))
    (hSecond : dumpToFile launcher device middle = (.ok text, after)) :
    capture launcher device state = (.ok text, after) := by
  have hDone : Strategy.attemptFrom [] (strategies launcher device) state = (.ok text, after) := by
    rw [strategies, ← List.singleton_append]
    exact Strategy.attemptFrom_success (.cons hFirst .nil) hSecond
  exact capture_of_attempts hDone

theorem capture_of_failures
    (hFirst : dumpToOutput launcher device state = (.error failure, middle))
    (hSecond : dumpToFile launcher device middle = (.error other, after)) :
    capture launcher device state = (.error (.unavailable (Strategy.allFailed
      (Strategy.listed (strategies launcher device) [failure, other])).message), after) :=
  capture_of_attempts (Strategy.attemptFrom_failure (.cons hFirst (.cons hSecond .nil)))

/-- A capture attempts one way after the other, until one succeeds. -/
theorem capture_cases (launcher : Launcher σ) (device : Device) (state : σ) :
    let first := dumpToOutput launcher device state
    let second := dumpToFile launcher device first.2
    (∃ dump, first.1 = .ok dump ∧ capture launcher device state = (.ok dump, first.2)) ∨
      ∃ failure, first.1 = .error failure ∧
        ((∃ dump, second.1 = .ok dump ∧ capture launcher device state = (.ok dump, second.2)) ∨
          ∃ other error, second.1 = .error other ∧
            capture launcher device state = (.error error, second.2)) := by
  dsimp only
  match hFirst : dumpToOutput launcher device state with
  | (.ok dump, _) => exact .inl ⟨dump, rfl, capture_of_first hFirst⟩
  | (.error failure, middle) =>
    refine .inr ⟨failure, rfl, ?_⟩
    match hSecond : dumpToFile launcher device middle with
    | (.ok dump, _) => exact .inl ⟨dump, rfl, capture_of_second hFirst hSecond⟩
    | (.error other, _) => exact .inr ⟨other, _, rfl, capture_of_failures hFirst hSecond⟩

theorem capture_eq_ok_iff : (capture launcher device state).1 = .ok text ↔
    (dumpToOutput launcher device state).1 = .ok text ∨
      (∀ other, (dumpToOutput launcher device state).1 ≠ .ok other) ∧
        (dumpToFile launcher device (dumpToOutput launcher device state).2).1 = .ok text := by
  rcases capture_cases launcher device state with ⟨dump, hFirst, hCapture⟩ |
    ⟨failure, hFirst, ⟨dump, hSecond, hCapture⟩ | ⟨other, error, hSecond, hCapture⟩⟩
  · simp [hFirst, hCapture]
  · simp [hFirst, hSecond, hCapture]
  · simp [hFirst, hSecond, hCapture]

theorem passable_of_capture (h : (capture launcher device state).1 = .ok text) :
    device.Passable := by
  refine Classical.byContradiction fun hDevice => ?_
  have hOutput : ∀ other, (dumpToOutput launcher device state).1 ≠ .ok other := by
    obtain ⟨error, hCall⟩ := exists_call_eq_error hDevice
    unfold dumpToOutput
    rw [hCall]
    exact nofun
  have hFile : ∀ state, (dumpToFile launcher device state).1 ≠ .ok text := by
    intro state
    obtain ⟨error, hCall⟩ := exists_call_eq_error hDevice
    unfold dumpToFile
    rw [hCall]
    exact nofun
  rcases capture_eq_ok_iff.mp h with hFirst | ⟨-, hSecond⟩
  · exact hOutput text hFirst
  · exact hFile _ hSecond

end Calls

/-! ## What every call keeps up -/

section Kept

variable {σ : Type} {launcher : Launcher σ} {p : σ → Prop}
  (hLaunch : ∀ program arguments state, p state → p (launcher program arguments state).2)
  (device : Device) {state : σ} (h : p state)

include hLaunch h

theorem kept_call (rest : List Text) : p (call launcher device rest state).2 := by
  unfold call
  split
  · exact h
  · exact hLaunch _ _ _ h

theorem kept_dumpToOutput : p (dumpToOutput launcher device state).2 := by
  have hCall := kept_call hLaunch device h ["exec-out", "uiautomator", "dump", "/dev/tty"]
  unfold dumpToOutput
  split <;> rename_i hEq <;> rwa [hEq] at hCall

theorem kept_dumpToFile : p (dumpToFile launcher device state).2 := by
  have hDump := kept_call hLaunch device h ["shell", "uiautomator", "dump", dumpPath]
  unfold dumpToFile
  split <;> rename_i hEq <;> rw [hEq] at hDump
  · exact hDump
  · have hRead := kept_call hLaunch device hDump ["exec-out", "cat", dumpPath]
    split <;> rename_i hEq <;> rwa [hEq] at hRead

theorem kept_capture : p (capture launcher device state).2 := by
  have hFirst := kept_dumpToOutput hLaunch device h
  have hSecond := kept_dumpToFile hLaunch device hFirst
  rcases capture_cases launcher device state with ⟨dump, -, hCapture⟩ |
    ⟨failure, -, ⟨dump, -, hCapture⟩ | ⟨other, error, -, hCapture⟩⟩
  · rwa [hCapture]
  · rwa [hCapture]
  · rwa [hCapture]

theorem kept_act (action : Action) : p (act launcher device action state).2 :=
  kept_call hLaunch device h _

end Kept

end ScreenQuery.Adb
