import ScreenQuery.Proofs.Bridge.Calls
import ScreenQuery.Proofs.Fallback
import ScreenQuery.Proofs.Text.Parts

/-!
# The calls of a capture

A capture has two ways to get a dump: one call that prints it, or two calls, of which the first
leaves it in a file and the second prints the file.

* `Launched` is a call, by what the launcher gives back; a call that holds a NUL is not launched.
  `Fails` lists what makes a call fail, and `Refused` what keeps it from yielding a dump, each with
  the reason that is reported.
* `Captures` lists how a capture can go: which calls it makes, how each of them ends in the state
  that the one before has left, and what comes of it.
* A launcher can note what it is asked to run (`noting`). The notes of a capture are its calls, in
  order and once each, whatever the program answers (`capture_in_order`).

About `capture_hierarchy` of `AdbBridge`, with `run`, `StdoutDump`, `FileDump`, `require_hierarchy`
and `run_strategies`.
-/

namespace ScreenQuery.Adb

/-- The arguments of a dump to the output. -/
def toOutput : List Text := ["exec-out", "uiautomator", "dump", "/dev/tty"]

/-- The arguments of a dump into the file. -/
def toFile : List Text := ["shell", "uiautomator", "dump", "/sdcard/window_dump.xml"]

/-- The arguments by which the file is printed. -/
def readFile : List Text := ["exec-out", "cat", "/sdcard/window_dump.xml"]

/-- What is reported of an output that is no dump: its first line. -/
def remark (output : Text) : Text :=
  let line := Text.trim (Text.firstLine output)
  if line.isEmpty then "empty output" else line

/-- A call in some state: how the program ended, unless it was not launched, and the state after
it. -/
inductive Launched {σ : Type} (launcher : Launcher σ) (device : Device) (rest : List Text)
    (state : σ) : Option Outcome → σ → Prop
  /-- The program is run with all arguments. -/
  | run {ending : Outcome} {after : σ}
    (hPlain : ∀ word ∈ device.program :: device.arguments rest, Char.ofNat 0 ∉ word)
    (hRun : launcher device.program (device.arguments rest) state = (ending, after)) :
    Launched launcher device rest state (some ending) after
  /-- A NUL cannot be passed on. -/
  | held {word : Text} (hWord : word ∈ device.program :: device.arguments rest)
    (hNul : Char.ofNat 0 ∈ word) : Launched launcher device rest state none state

/-- A call fails, and this is what is reported of it. -/
inductive Fails (device : Device) (rest : List Text) : Option Outcome → (reason : Text) → Prop
  | held : Fails device rest none
    ("failed to run '" ++ device.commandLine rest ++ "': " ++ "nul byte found in provided data")
  | missing : Fails device rest (some .missing)
    ("device unavailable: '" ++ device.program ++ "' not found on PATH")
  | blocked (reason : Text) : Fails device rest (some (.blocked reason))
    ("failed to run '" ++ device.commandLine rest ++ "': " ++ reason)
  /-- The program ran to its end, but not well. -/
  | status {status : Nat} (hStatus : status ≠ 0) (output errors : List UInt8) :
    Fails device rest (some (.exited (some status) output errors))
      ("'" ++ device.commandLine rest ++ "' exited with status " ++ Text.ofNat status ++ ": " ++
        Text.trim (textOf errors))
  /-- The program was killed. -/
  | killed (output errors : List UInt8) : Fails device rest (some (.exited none output errors))
    ("'" ++ device.commandLine rest ++ "' exited with status " ++ "-1" ++ ": " ++
      Text.trim (textOf errors))

/-- A call does not yield a dump: it fails, or it ends well, but what it prints is none. -/
inductive Refused (device : Device) (rest : List Text) : Option Outcome → (reason : Text) → Prop
  | failed {ending : Option Outcome} {reason : Text} (hFails : Fails device rest ending reason) :
    Refused device rest ending reason
  | noDump {output : List UInt8} (errors : List UInt8)
    (hMark : ¬ ("<hierarchy" : Text) <:+: textOf output) :
    Refused device rest (some (.exited (some 0) output errors))
      ("uiautomator produced no hierarchy: " ++ remark (textOf output))

/-- What is reported when both ways fail. -/
def bothFailed (first second : Text) : BridgeError :=
  .unavailable ("All 2 strategies failed (dump to stdout: " ++ first ++ "; dump to file: " ++
    second ++ ")")

section Calls

variable {σ : Type} (launcher : Launcher σ) (device : Device) (state : σ)

/-- How a capture can go: its calls by their arguments, its result and the state after it. -/
inductive Captures : List (List Text) → Except BridgeError Text × σ → Prop
  /-- The screen is dumped to the output. -/
  | printed {output errors : List UInt8} {after : σ}
    (hFirst : Launched launcher device toOutput state (some (.exited (some 0) output errors)) after)
    (hMark : ("<hierarchy" : Text) <:+: textOf output) :
    Captures [toOutput] (.ok (textOf output), after)
  /-- It is not, and the dump into the file fails, too. The file is left alone. -/
  | unwritten {first second : Option Outcome} {reason reason' : Text} {middle after : σ}
    (hFirst : Launched launcher device toOutput state first middle)
    (hRefused : Refused device toOutput first reason)
    (hSecond : Launched launcher device toFile middle second after)
    (hFails : Fails device toFile second reason') :
    Captures [toOutput, toFile] (.error (bothFailed reason reason'), after)
  /-- It is not, but it is dumped into the file, which is printed. -/
  | read {first : Option Outcome} {reason : Text} {report warnings output errors : List UInt8}
    {middle written after : σ} (hFirst : Launched launcher device toOutput state first middle)
    (hRefused : Refused device toOutput first reason)
    (hSecond : Launched launcher device toFile middle
      (some (.exited (some 0) report warnings)) written)
    (hThird : Launched launcher device readFile written
      (some (.exited (some 0) output errors)) after)
    (hMark : ("<hierarchy" : Text) <:+: textOf output) :
    Captures [toOutput, toFile, readFile] (.ok (textOf output), after)
  /-- It is not, and to print the file does not yield a dump. -/
  | unread {first third : Option Outcome} {reason reason' : Text} {report warnings : List UInt8}
    {middle written after : σ} (hFirst : Launched launcher device toOutput state first middle)
    (hRefused : Refused device toOutput first reason)
    (hSecond : Launched launcher device toFile middle
      (some (.exited (some 0) report warnings)) written)
    (hThird : Launched launcher device readFile written third after)
    (hRefused' : Refused device readFile third reason') :
    Captures [toOutput, toFile, readFile] (.error (bothFailed reason reason'), after)

end Calls

/-! ## Calls -/

theorem holdsNul_iff {word : Text} : holdsNul word = true ↔ Char.ofNat 0 ∈ word := by
  have hChar : ∀ c : Char, c.toNat = 0 ↔ c = Char.ofNat 0 := fun c =>
    ⟨fun hZero => Char.ext (UInt32.toNat_inj.mp hZero), fun hEq => hEq ▸ rfl⟩
  simp [holdsNul, hChar]

theorem Outcome.fails_or_printed (device : Device) (rest : List Text) (ending : Option Outcome) :
    (∃ reason, Fails device rest ending reason) ∨
      ∃ output errors, ending = some (.exited (some 0) output errors) := by
  match ending with
  | none => exact .inl ⟨_, .held⟩
  | some .missing => exact .inl ⟨_, .missing⟩
  | some (.blocked reason) => exact .inl ⟨_, .blocked reason⟩
  | some (.exited none output errors) => exact .inl ⟨_, .killed output errors⟩
  | some (.exited (some status) output errors) =>
    by_cases hStatus : status = 0
    · exact .inr ⟨output, errors, by rw [hStatus]⟩
    · exact .inl ⟨_, .status hStatus output errors⟩

theorem Outcome.refused_or_dump (device : Device) (rest : List Text) (ending : Option Outcome) :
    (∃ reason, Refused device rest ending reason) ∨ ∃ output errors,
      ending = some (.exited (some 0) output errors) ∧
        ("<hierarchy" : Text) <:+: textOf output := by
  rcases fails_or_printed device rest ending with ⟨reason, hFails⟩ | ⟨output, errors, rfl⟩
  · exact .inl ⟨reason, .failed hFails⟩
  · by_cases hMark : ("<hierarchy" : Text) <:+: textOf output
    · exact .inr ⟨output, errors, rfl, hMark⟩
    · exact .inl ⟨_, .noDump errors hMark⟩

section Ways

variable {σ : Type} {launcher : Launcher σ} {device : Device} {rest : List Text}
  {state middle written after : σ} {ending : Option Outcome} {reason reason' : Text}
  {report warnings output errors : List UInt8} {calls : List (List Text)}
  {result : Except BridgeError Text × σ}

theorem exists_launched (launcher : Launcher σ) (device : Device) (rest : List Text) (state : σ) :
    ∃ ending after, Launched launcher device rest state ending after := by
  by_cases hNul : ∃ word ∈ device.program :: device.arguments rest, Char.ofNat 0 ∈ word
  · obtain ⟨word, hWord, hMem⟩ := hNul
    exact ⟨none, state, .held hWord hMem⟩
  · exact ⟨_, _, .run (fun word hWord hMem => hNul ⟨word, hWord, hMem⟩) rfl⟩

/-- What comes of a call, by how it ends. -/
def ended (device : Device) (rest : List Text) : Option Outcome → Except BridgeError Text
  | none => .error (.io (device.commandLine rest) "nul byte found in provided data")
  | some ending => resultOf device rest ending

theorem Launched.any_holdsNul (h : Launched launcher device rest state ending after) :
    (device.program :: device.arguments rest).any holdsNul = ending.isNone := by
  cases h with
  | run hPlain _ =>
    exact List.any_eq_false.mpr fun word hWord hNul => hPlain word hWord (holdsNul_iff.mp hNul)
  | held hWord hNul => exact List.any_eq_true.mpr ⟨_, hWord, holdsNul_iff.mpr hNul⟩

theorem Launched.call_eq (h : Launched launcher device rest state ending after) :
    call launcher device rest state = (ended device rest ending, after) := by
  unfold call
  rw [h.any_holdsNul]
  cases h with
  | run _ hRun =>
    simp only [hRun]
    rfl
  | held => rfl

theorem Fails.ended_eq (h : Fails device rest ending reason) :
    ∃ error, ended device rest ending = .error error ∧ error.message = reason := by
  cases h with
  | held => exact ⟨_, rfl, rfl⟩
  | missing => exact ⟨_, rfl, rfl⟩
  | blocked reason => exact ⟨_, rfl, rfl⟩
  | status hStatus output errors =>
    exact ⟨_, if_neg fun hZero => hStatus (Option.some.inj hZero), rfl⟩
  | killed output errors => exact ⟨_, rfl, rfl⟩

/-! ## Dumps -/

/-- What a call yields for a dump. -/
def yielded : Except BridgeError Text → Except Failure Text
  | .error error => .error error.failure
  | .ok output => requireHierarchy output

theorem yielded_of_mark (hMark : ("<hierarchy" : Text) <:+: textOf output) :
    yielded (ended device rest (some (.exited (some 0) output errors))) = .ok (textOf output) :=
  requireHierarchy_eq_ok_iff.mpr ⟨rfl, Text.contains_iff.mpr hMark⟩

theorem Refused.yielded_eq (h : Refused device rest ending reason) :
    yielded (ended device rest ending) = .error (.device reason) := by
  cases h with
  | failed hFails =>
    obtain ⟨error, hEnded, rfl⟩ := hFails.ended_eq
    rw [hEnded]
    rfl
  | @noDump output errors hMark =>
    have hContains : ¬ Text.contains hierarchyMark (textOf output) = true :=
      fun hSome => hMark (Text.contains_iff.mp hSome)
    show requireHierarchy (textOf output) = _
    rw [requireHierarchy, if_neg hContains]
    rfl

theorem dumpToOutput_eq (hFirst : Launched launcher device toOutput state ending after) :
    dumpToOutput launcher device state = (yielded (ended device toOutput ending), after) := by
  unfold dumpToOutput
  rw [show (["exec-out", "uiautomator", "dump", "/dev/tty"] : List Text) = toOutput from rfl,
    hFirst.call_eq]
  cases ended device toOutput ending <;> rfl

theorem dumpToFile_of_fails (hSecond : Launched launcher device toFile state ending after)
    (hFails : Fails device toFile ending reason) :
    dumpToFile launcher device state = (.error (.device reason), after) := by
  obtain ⟨error, hEnded, rfl⟩ := hFails.ended_eq
  unfold dumpToFile
  rw [show (["shell", "uiautomator", "dump", dumpPath] : List Text) = toFile from rfl,
    hSecond.call_eq, hEnded]
  rfl

theorem dumpToFile_of_written (hSecond : Launched launcher device toFile state
      (some (.exited (some 0) report warnings)) written)
    (hThird : Launched launcher device readFile written ending after) :
    dumpToFile launcher device state = (yielded (ended device readFile ending), after) := by
  have hEnded : ended device toFile (some (.exited (some 0) report warnings)) =
      .ok (textOf report) := rfl
  unfold dumpToFile
  rw [show (["shell", "uiautomator", "dump", dumpPath] : List Text) = toFile from rfl,
    hSecond.call_eq, hEnded]
  dsimp only
  rw [show (["exec-out", "cat", dumpPath] : List Text) = readFile from rfl, hThird.call_eq]
  cases ended device readFile ending <;> rfl

/-! ## Captures -/

theorem capture_of_neither
    (hFirst : dumpToOutput launcher device state = (.error (.device reason), middle))
    (hSecond : dumpToFile launcher device middle = (.error (.device reason'), after)) :
    capture launcher device state = (.error (bothFailed reason reason'), after) := by
  have hLines : Strategy.listed (strategies launcher device) [.device reason, .device reason'] =
      ["dump to stdout" ++ ": " ++ reason, "dump to file" ++ ": " ++ reason'] := rfl
  have hMessage : (Strategy.allFailed
      ["dump to stdout" ++ ": " ++ reason, "dump to file" ++ ": " ++ reason']).message =
        "All 2 strategies failed (dump to stdout: " ++ reason ++ "; dump to file: " ++ reason' ++
          ")" := by
    have hCount : ("All " ++ Text.ofNat 2 ++ " strategies failed (" : Text) =
        "All 2 strategies failed (" := by decide
    show "All " ++ Text.ofNat 2 ++ " strategies failed (" ++ Text.joinWith "; " _ ++ ")" = _
    rw [hCount]
    simp [Text.joinWith, List.intercalate]
  rw [capture_of_failures hFirst hSecond, hLines]
  exact congrArg (fun reason => (Except.error (BridgeError.unavailable reason), after)) hMessage

/-- What is listed as a way for a capture to go is how it goes. -/
theorem Captures.capture_eq (h : Captures launcher device state calls result) :
    capture launcher device state = result := by
  cases h with
  | printed hFirst hMark =>
    exact capture_of_first (by rw [dumpToOutput_eq hFirst, yielded_of_mark hMark])
  | unwritten hFirst hRefused hSecond hFails =>
    exact capture_of_neither (by rw [dumpToOutput_eq hFirst, hRefused.yielded_eq])
      (dumpToFile_of_fails hSecond hFails)
  | read hFirst hRefused hSecond hThird hMark =>
    exact capture_of_second (by rw [dumpToOutput_eq hFirst, hRefused.yielded_eq])
      (by rw [dumpToFile_of_written hSecond hThird, yielded_of_mark hMark])
  | unread hFirst hRefused hSecond hThird hRefused' =>
    exact capture_of_neither (by rw [dumpToOutput_eq hFirst, hRefused.yielded_eq])
      (by rw [dumpToFile_of_written hSecond hThird, hRefused'.yielded_eq])

/-- A capture goes in one of these ways. -/
theorem exists_captures (launcher : Launcher σ) (device : Device) (state : σ) :
    ∃ calls result, Captures launcher device state calls result := by
  obtain ⟨first, middle, hFirst⟩ := exists_launched launcher device toOutput state
  rcases Outcome.refused_or_dump device toOutput first with
    ⟨reason, hRefused⟩ | ⟨output, errors, rfl, hMark⟩
  · obtain ⟨second, written, hSecond⟩ := exists_launched launcher device toFile middle
    rcases Outcome.fails_or_printed device toFile second with
      ⟨reason', hFails⟩ | ⟨report, warnings, rfl⟩
    · exact ⟨_, _, .unwritten hFirst hRefused hSecond hFails⟩
    · obtain ⟨third, after, hThird⟩ := exists_launched launcher device readFile written
      rcases Outcome.refused_or_dump device readFile third with
        ⟨reason', hRefused'⟩ | ⟨output, errors, rfl, hMark⟩
      · exact ⟨_, _, .unread hFirst hRefused hSecond hThird hRefused'⟩
      · exact ⟨_, _, .read hFirst hRefused hSecond hThird hMark⟩
  · exact ⟨_, _, .printed hFirst hMark⟩

/-! ## Notes -/

/-- A launcher that notes what it is asked to run. -/
def noting (launcher : Launcher σ) : Launcher (σ × List (Text × List Text)) :=
  fun program arguments (state, notes) =>
    let (ending, state) := launcher program arguments state
    (ending, state, notes ++ [(program, arguments)])

/-- What a call asks to be run: nothing when there is a NUL in it. -/
def launched (device : Device) (rest : List Text) : List (Text × List Text) :=
  if (device.program :: device.arguments rest).any holdsNul then []
  else [(device.program, device.arguments rest)]

theorem Launched.noting (h : Launched launcher device rest state ending after)
    (notes : List (Text × List Text)) : Launched (noting launcher) device rest (state, notes) ending
      (after, notes ++ launched device rest) := by
  have hNul := h.any_holdsNul
  unfold launched
  rw [hNul]
  cases h with
  | run hPlain hRun =>
    refine .run hPlain ?_
    simp only [Adb.noting, hRun]
    rfl
  | held hWord hMem =>
    have hNone : (none : Option Outcome).isNone = true := rfl
    rw [if_pos hNone, List.append_nil]
    exact .held hWord hMem

/-- Notes change nothing, and tell the calls. -/
theorem Captures.noting (h : Captures launcher device state calls result)
    (notes : List (Text × List Text)) : Captures (noting launcher) device (state, notes) calls
      (result.1, result.2, notes ++ calls.flatMap (launched device)) := by
  cases h with
  | printed hFirst hMark =>
    have := Captures.printed (hFirst.noting notes) hMark
    simpa using this
  | unwritten hFirst hRefused hSecond hFails =>
    have := Captures.unwritten (hFirst.noting notes) hRefused (hSecond.noting _) hFails
    simpa using this
  | read hFirst hRefused hSecond hThird hMark =>
    have := Captures.read (hFirst.noting notes) hRefused (hSecond.noting _) (hThird.noting _) hMark
    simpa using this
  | unread hFirst hRefused hSecond hThird hRefused' =>
    have := Captures.unread (hFirst.noting notes) hRefused (hSecond.noting _) (hThird.noting _)
      hRefused'
    simpa using this

end Ways

/-- **Ways to do some work are attempted in order, up to the first that succeeds**, each of them
once; if all fail, the failure lists them in that order. A capture is a case of this. It makes one
call if that prints a dump. If not, it makes a second one, and a third one only if the second
succeeds. What it gives holds the mark of a dump, and otherwise it reports both ways. -/
theorem capture_in_order :
    (∀ {σ α : Type} (strategies : List (Strategy σ α)) (state : σ), ∃ tried,
      Strategy.Ends strategies state tried (Strategy.firstSuccess strategies state) ∧
        Strategy.firstSuccess (Strategy.noted 0 strategies) (state, []) =
          ((Strategy.firstSuccess strategies state).1, (Strategy.firstSuccess strategies state).2,
            List.range tried)) ∧
    ∀ {σ : Type} (launcher : Launcher σ) (device : Device) (state : σ), ∃ calls,
      Captures launcher device state calls (capture launcher device state) ∧
        capture (noting launcher) device (state, []) =
          ((capture launcher device state).1, (capture launcher device state).2,
            calls.flatMap (launched device)) := by
  refine ⟨fun strategies state => Strategy.firstSuccess_ends strategies state,
    fun launcher device state => ?_⟩
  obtain ⟨calls, result, hCaptures⟩ := exists_captures launcher device state
  rw [hCaptures.capture_eq, (hCaptures.noting []).capture_eq]
  exact ⟨calls, hCaptures, rfl⟩

end ScreenQuery.Adb
