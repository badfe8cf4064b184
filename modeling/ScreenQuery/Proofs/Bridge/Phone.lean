import ScreenQuery.Proofs.Bridge.Calls

/-!
# Where a captured screen comes from

* A `Phone` has a program that dumps the screen, to the terminal or into a file, and a program that
  prints the file. `Conduct` leaves open how each call goes: a run that does not dump the screen
  leaves the file as it is, and may still end as if it had succeeded.
* `Phone.Faithful` says what the file holds: what the latest run that dumped into it has written, or
  what was there at first. Every capture and every input keeps this up.
* `Leftover` is a capture that takes such a file for the screen: the dump to the terminal did not
  succeed, and the run before the file was read only pretended to. `fresh_or_leftover` says that
  every other capture gives what its own runs have produced; `capture_of_old_screen` is one that
  does not.

About `capture_hierarchy` of `AdbBridge`, with `StdoutDump` and `FileDump`.
-/

namespace ScreenQuery.Adb

/-! ## A phone -/

/-- An ending of a call that does not succeed. -/
structure Breakdown where
  ending : Outcome
  fails : ∀ output errors, ending ≠ .exited (some 0) output errors

/-- What a run of the dump program does. -/
inductive Dumping
  /-- It dumps the screen and reports it. -/
  | dumped (screen report : List UInt8)
  /-- It does not dump the screen. The call may end in any way, also as if it had succeeded. -/
  | refused (ending : Outcome)
  deriving DecidableEq

/-- Where a run dumps the screen to. -/
inductive Target
  | terminal | file
  deriving DecidableEq

/-- A run of the dump program. -/
structure Run where
  target : Target
  dumping : Dumping
  deriving DecidableEq

namespace Run

/-- How the call of a run ends. A screen that is dumped to the terminal is printed. -/
def ending : Run → Outcome
  | ⟨.terminal, .dumped screen report⟩ => .exited (some 0) (screen ++ report) []
  | ⟨.file, .dumped _ report⟩ => .exited (some 0) report []
  | ⟨_, .refused ending⟩ => ending

/-- What a run writes into the file. -/
def written? : Run → Option (List UInt8)
  | ⟨.file, .dumped screen _⟩ => some screen
  | _ => none

/-- A run has produced a text: it has printed it to the terminal, or written it into the file. -/
def Produced (text : Text) (run : Run) : Prop :=
  match run.target with
  | .terminal => ∃ status output errors, run.ending = .exited status output errors ∧
      textOf output = text
  | .file => ∃ screen, run.written? = some screen ∧ textOf screen = text

end Run

/-- How the calls of a phone go, by their number. -/
structure Conduct where
  /-- What a run of the dump program does. -/
  dump : Nat → Dumping
  /-- How it goes wrong to print the file, if it does. -/
  read : Nat → Option Breakdown

/-- A phone: how often it was called, its file, and the runs of the dump program, the latest
last. -/
structure Phone where
  calls : Nat
  file : Option (List UInt8)
  runs : List Run

namespace Phone

/-- A phone that has not been called. -/
def start (file : Option (List UInt8)) : Phone := ⟨0, file, []⟩

/-- The phone after a call that is no dump. -/
def called (phone : Phone) : Phone := { phone with calls := phone.calls + 1 }

/-- The phone after a run of the dump program. -/
def ran (phone : Phone) (run : Run) : Phone :=
  ⟨phone.calls + 1, run.written?.or phone.file, phone.runs ++ [run]⟩

/-- What the phone says when it has no file. -/
def noFile : Breakdown :=
  ⟨.exited (some 1) [] (Text.bytes "No such file or directory"), nofun⟩

@[simp] theorem ran_calls (phone : Phone) (run : Run) :
    (phone.ran run).calls = phone.calls + 1 := rfl

/-- How it ends to print the file. -/
def printing (file : Option (List UInt8)) : Option Breakdown → Outcome
  | some breakdown => breakdown.ending
  | none =>
    match file with
    | some bytes => .exited (some 0) bytes []
    | none => noFile.ending

/-- The run that a path asks for. -/
def runTo (conduct : Conduct) (path : Text) (phone : Phone) : Run :=
  ⟨if path = dumpPath then .file else .terminal, conduct.dump phone.calls⟩

/-- Calls of a phone. The last two arguments say what is asked for. -/
def launcher (conduct : Conduct) : Launcher Phone := fun _ arguments phone =>
  match arguments.reverse with
  | path :: verb :: _ =>
    if verb = "dump" then
      let run := phone.runTo conduct path
      (run.ending, phone.ran run)
    else if verb = "cat" then (printing phone.file (conduct.read phone.calls), phone.called)
    else (.exited (some 0) [] [], phone.called)
  | _ => (.exited (some 0) [] [], phone.called)

/-- What the runs have written into the file last. -/
def lastWritten (phone : Phone) : Option (List UInt8) :=
  (phone.runs.filterMap Run.written?).getLast?

/-- The file holds what was written last, or what was there at first. -/
def Faithful (initial : Option (List UInt8)) (phone : Phone) : Prop :=
  phone.file = phone.lastWritten.or initial

/-! ## Captures of a phone -/

variable {conduct : Conduct} {device : Device} {phone : Phone} {initial : Option (List UInt8)}
  {text : Text}

theorem launcher_dump (program way path : Text) :
    launcher conduct program (device.arguments [way, "uiautomator", "dump", path]) phone =
      ((phone.runTo conduct path).ending, phone.ran (phone.runTo conduct path)) := by
  unfold launcher Device.arguments
  cases device.serial <;> rfl

theorem launcher_cat (program way path : Text) :
    launcher conduct program (device.arguments [way, "cat", path]) phone =
      (printing phone.file (conduct.read phone.calls), phone.called) := by
  unfold launcher Device.arguments
  cases device.serial <;> rfl

/-- The run of a dump to the terminal. -/
def terminalRun (conduct : Conduct) (phone : Phone) : Run := phone.runTo conduct "/dev/tty"

/-- The run of a dump into the file. -/
def fileRun (conduct : Conduct) (phone : Phone) : Run := phone.runTo conduct dumpPath

theorem terminalRun_eq : phone.terminalRun conduct = ⟨.terminal, conduct.dump phone.calls⟩ := rfl

theorem fileRun_eq : phone.fileRun conduct = ⟨.file, conduct.dump phone.calls⟩ := rfl

/-- What a call prints is a dump. -/
def PrintsDump (ending : Outcome) (text : Text) : Prop :=
  ending.Printed text ∧ Text.contains hierarchyMark text = true

theorem requireHierarchy_of_printed {rest : List Text} {ending : Outcome} {output : Text}
    (h : resultOf device rest ending = .ok output) :
    requireHierarchy output = .ok text ↔ PrintsDump ending text := by
  rw [requireHierarchy_eq_ok_iff]
  have hPrinted := resultOf_eq_ok_iff.mp h
  constructor
  · rintro ⟨rfl, hMark⟩
    exact ⟨hPrinted, hMark⟩
  · rintro ⟨hText, hMark⟩
    exact ⟨Except.ok.inj (h.symm.trans (resultOf_eq_ok_iff.mpr hText)), hMark⟩

theorem not_printsDump_of_error {rest : List Text} {ending : Outcome} {error : BridgeError}
    (h : resultOf device rest ending = .error error) : ¬ PrintsDump ending text := by
  rintro ⟨hText, -⟩
  cases h.symm.trans (resultOf_eq_ok_iff.mpr hText)

section Ways

variable (conduct : Conduct) (phone : Phone) (h : device.Passable)

include h

/-- A dump to the terminal: a run, whose output is taken if it is a dump. -/
theorem dumpToOutput_launcher :
    (dumpToOutput (launcher conduct) device phone).2 = phone.ran (phone.terminalRun conduct) ∧
      ∀ text, (dumpToOutput (launcher conduct) device phone).1 = .ok text ↔
        PrintsDump (phone.terminalRun conduct).ending text := by
  unfold dumpToOutput
  rw [call_eq h (by decide), launcher_dump, ← terminalRun]
  cases hResult : resultOf device ["exec-out", "uiautomator", "dump", "/dev/tty"]
    (phone.terminalRun conduct).ending with
  | error error => exact ⟨rfl, fun _ => iff_of_false nofun (not_printsDump_of_error hResult)⟩
  | ok output => exact ⟨rfl, fun _ => requireHierarchy_of_printed hResult⟩

/-- A dump into the file: a run, and if it ends well the file is printed, which is taken if it is a
dump. -/
theorem dumpToFile_launcher :
    (dumpToFile (launcher conduct) device phone).2.runs =
        phone.runs ++ [phone.fileRun conduct] ∧
      ∀ text, (dumpToFile (launcher conduct) device phone).1 = .ok text ↔
        (∃ report, (phone.fileRun conduct).ending.Printed report) ∧
          PrintsDump (printing (phone.ran (phone.fileRun conduct)).file
            (conduct.read (phone.calls + 1))) text := by
  unfold dumpToFile
  rw [call_eq h (by decide), launcher_dump, ← fileRun]
  cases hDump : resultOf device ["shell", "uiautomator", "dump", dumpPath]
    (phone.fileRun conduct).ending with
  | error error =>
    refine ⟨rfl, fun text => iff_of_false nofun ?_⟩
    rintro ⟨⟨report, hReport⟩, -⟩
    cases hDump.symm.trans (resultOf_eq_ok_iff.mpr hReport)
  | ok report =>
    have hReport : ∃ report, (phone.fileRun conduct).ending.Printed report :=
      ⟨report, resultOf_eq_ok_iff.mp hDump⟩
    dsimp only
    rw [call_eq h (by decide), launcher_cat]
    dsimp only [ran_calls]
    cases hRead : resultOf device ["exec-out", "cat", dumpPath]
      (printing (phone.ran (phone.fileRun conduct)).file (conduct.read (phone.calls + 1))) with
    | error error =>
      exact ⟨rfl, fun _ => iff_of_false nofun fun hBoth => not_printsDump_of_error hRead hBoth.2⟩
    | ok output =>
      exact ⟨rfl, fun _ =>
        (requireHierarchy_of_printed hRead).trans (and_iff_right hReport).symm⟩

end Ways

/-- The file is printed if it is there and nothing goes wrong. -/
theorem printsDump_printing_iff {file : Option (List UInt8)} {breakdown : Option Breakdown} :
    PrintsDump (printing file breakdown) text ↔ breakdown = none ∧
      (∃ bytes, file = some bytes ∧ textOf bytes = text) ∧
        Text.contains hierarchyMark text = true := by
  unfold PrintsDump Outcome.Printed printing
  constructor
  · rintro ⟨⟨output, errors, hEnding, hText⟩, hMark⟩
    cases breakdown with
    | some breakdown => exact absurd hEnding (breakdown.fails output errors)
    | none =>
      cases file with
      | none => exact absurd hEnding (noFile.fails output errors)
      | some bytes =>
        cases hEnding
        exact ⟨rfl, ⟨_, rfl, hText⟩, hMark⟩
  · rintro ⟨rfl, ⟨bytes, rfl, hText⟩, hMark⟩
    exact ⟨⟨bytes, [], rfl, hText⟩, hMark⟩

/-- A capture takes what is left in the file for the screen. -/
structure Leftover (conduct : Conduct) (phone : Phone) (text : Text) : Prop where
  /-- The run that dumps to the terminal does not print a dump. -/
  unprinted : ∀ other, ¬ PrintsDump (phone.terminalRun conduct).ending other
  /-- The run that dumps into the file does not, but ends as if it had. -/
  pretended : ∃ output errors,
    conduct.dump (phone.calls + 1) = .refused (.exited (some 0) output errors)
  readable : conduct.read (phone.calls + 2) = none
  left : ∃ bytes, phone.file = some bytes ∧ textOf bytes = text
  isDump : Text.contains hierarchyMark text = true

theorem produced_of_printsDump (h : PrintsDump (phone.terminalRun conduct).ending text) :
    (phone.terminalRun conduct).Produced text := by
  obtain ⟨⟨output, errors, hEnding, hText⟩, -⟩ := h
  exact ⟨some 0, output, errors, hEnding, hText⟩

/-- What a capture reads from the file was written by its own run, or left there. -/
theorem produced_or_leftover
    (hFirst : ∀ other, ¬ PrintsDump (phone.terminalRun conduct).ending other)
    (hSecond : (dumpToFile (launcher conduct) device (phone.ran (phone.terminalRun conduct))).1 =
      .ok text) (h : device.Passable) :
    ((phone.ran (phone.terminalRun conduct)).fileRun conduct).Produced text ∨
      Leftover conduct phone text := by
  obtain ⟨⟨report, output, errors, hEnding, -⟩, hPrints⟩ :=
    ((dumpToFile_launcher conduct _ h).2 text).mp hSecond
  obtain ⟨hRead, ⟨bytes, hFile, hText⟩, hMark⟩ := printsDump_printing_iff.mp hPrints
  rw [fileRun_eq, ran_calls] at hEnding hFile
  cases hDump : conduct.dump (phone.calls + 1) with
  | dumped screen report =>
    rw [hDump] at hFile
    refine Or.inl ⟨screen, ?_, ?_⟩
    · rw [fileRun_eq, ran_calls, hDump]
      rfl
    · cases hFile
      exact hText
  | refused ending =>
    rw [hDump] at hEnding hFile
    exact Or.inr ⟨hFirst, ⟨output, errors, by rw [hDump]; exact congrArg Dumping.refused hEnding⟩,
      hRead, ⟨bytes, hFile, hText⟩, hMark⟩

/-- A capture that can take a leftover does so. -/
theorem capture_of_leftover (h : device.Passable) (hLeftover : Leftover conduct phone text) :
    (capture (launcher conduct) device phone).1 = .ok text := by
  obtain ⟨output, errors, hDump⟩ := hLeftover.pretended
  have hEnding : ((phone.ran (phone.terminalRun conduct)).fileRun conduct).ending =
      .exited (some 0) output errors := by
    rw [fileRun_eq, ran_calls, hDump]
    rfl
  have hFile : ((phone.ran (phone.terminalRun conduct)).ran
      ((phone.ran (phone.terminalRun conduct)).fileRun conduct)).file = phone.file := by
    rw [fileRun_eq, ran_calls, hDump]
    rfl
  obtain ⟨hState, hFirst⟩ := dumpToOutput_launcher conduct phone h
  rw [capture_eq_ok_iff, hState, (dumpToFile_launcher conduct _ h).2 text, hFile, ran_calls,
    printsDump_printing_iff]
  refine Or.inr ⟨fun other hOther => ?_, ⟨_, output, errors, hEnding, rfl⟩, hLeftover.readable,
    hLeftover.left, hLeftover.isDump⟩
  exact hLeftover.unprinted other ((hFirst other).mp hOther)

/-! ## What the file holds -/

theorem lastWritten_ran (phone : Phone) (run : Run) :
    (phone.ran run).lastWritten = run.written?.or phone.lastWritten := by
  unfold lastWritten ran
  rw [List.filterMap_append, List.getLast?_append]
  cases hWritten : run.written? <;> simp [hWritten]

theorem Faithful.ran (h : Faithful initial phone) (run : Run) :
    Faithful initial (phone.ran run) := by
  unfold Faithful at h ⊢
  rw [lastWritten_ran, Option.or_assoc, ← h]
  rfl

/-- Every call keeps it up, whatever it asks for. -/
theorem Faithful.launched (program : Text) (arguments : List Text) (phone : Phone)
    (h : Faithful initial phone) :
    Faithful initial (launcher conduct program arguments phone).2 := by
  unfold launcher
  split
  · split
    · exact h.ran _
    · split
      · exact h
      · exact h
  · exact h

/-- What is asked of a bridge. -/
inductive Job
  | capture
  | input (action : Action)

/-- The phone after some captures and inputs. -/
def after (conduct : Conduct) (device : Device) : List Job → Phone → Phone
  | [], phone => phone
  | .capture :: jobs, phone =>
    after conduct device jobs (capture (launcher conduct) device phone).2
  | .input action :: jobs, phone =>
    after conduct device jobs (act (launcher conduct) device action phone).2

theorem Faithful.after (jobs : List Job) (h : Faithful initial phone) :
    Faithful initial (Phone.after conduct device jobs phone) := by
  induction jobs generalizing phone with
  | nil => exact h
  | cons job jobs ih =>
    cases job with
    | capture => exact ih (kept_capture Faithful.launched device h)
    | input action => exact ih (kept_act Faithful.launched device h action)

/-! ## Whose screen a capture gives -/

/-- **A capture gives a screen that one of its own runs has produced, or a leftover**, after any
captures and inputs. A leftover is what the latest run that dumped into the file has written, or
what was in it at first; a capture that can take one does so. -/
theorem fresh_or_leftover (conduct : Conduct) (device : Device) (initial : Option (List UInt8))
    (jobs : List Job) (text : Text) :
    let before := Phone.after conduct device jobs (.start initial)
    let captured := capture (launcher conduct) device before
    before.file = before.lastWritten.or initial ∧
      (captured.1 = .ok text → ∃ made, captured.2.runs = before.runs ++ made ∧
        ((∃ run ∈ made, run.Produced text) ∨ Leftover conduct before text)) ∧
      (device.Passable → Leftover conduct before text → captured.1 = .ok text) := by
  intro before captured
  refine ⟨Faithful.after jobs rfl, fun hOk => ?_, capture_of_leftover⟩
  have hDevice := passable_of_capture hOk
  obtain ⟨hState, hFirst⟩ := dumpToOutput_launcher conduct before hDevice
  rcases capture_cases (launcher conduct) device before with ⟨dump, hDump, hCapture⟩ |
    ⟨failure, hFailed, ⟨dump, hDump, hCapture⟩ | ⟨other, error, -, hCapture⟩⟩
  · have hText : dump = text := Except.ok.inj ((congrArg Prod.fst hCapture).symm.trans hOk)
    rw [hText] at hDump
    refine ⟨[before.terminalRun conduct], ?_, Or.inl ⟨_, List.mem_singleton_self _, ?_⟩⟩
    · unfold captured
      rw [hCapture, hState]
      rfl
    · exact produced_of_printsDump ((hFirst text).mp hDump)
  · have hText : dump = text := Except.ok.inj ((congrArg Prod.fst hCapture).symm.trans hOk)
    rw [hText, hState] at hDump
    refine ⟨[before.terminalRun conduct, (before.ran (before.terminalRun conduct)).fileRun conduct],
      ?_, ?_⟩
    · unfold captured
      rw [hCapture, hState, (dumpToFile_launcher conduct _ hDevice).1]
      exact List.append_assoc _ _ _
    · refine (produced_or_leftover (fun other hOther => ?_) hDump hDevice).imp_left fun hRun =>
        ⟨_, List.mem_cons_of_mem _ (List.mem_singleton_self _), hRun⟩
      cases hFailed.symm.trans ((hFirst other).mpr hOther)
  · cases (congrArg Prod.fst hCapture).symm.trans hOk

/-! ## A capture of an old screen -/

/-- The screen that the phone of `sleepy` dumps once. -/
def onceShown : List UInt8 := Text.bytes "<hierarchy rotation=\"0\"><a/></hierarchy>"

/-- What a run says when there is nothing to dump. -/
def nullRoot : List UInt8 :=
  Text.bytes "ERROR: null root node returned by UiTestAutomationBridge.\n"

/-- A phone that dumps the screen into the file once, and from then on only says that it cannot. -/
def sleepy : Conduct where
  dump := fun call =>
    if call = 1 then
      .dumped onceShown (Text.bytes "UI hierchary dumped to: /sdcard/window_dump.xml\n")
    else .refused (.exited (some 0) nullRoot [])
  read := fun _ => none

/-- The program by its usual name, for the only phone. -/
def onlyPhone : Device := ⟨"adb", none⟩

/-- The phone after a first capture. -/
def capturedOnce : Phone := after sleepy onlyPhone [.capture] (.start none)

theorem capturedOnce_eq : capturedOnce.calls = 3 ∧ capturedOnce.file = some onceShown := by
  decide +kernel

theorem passable_onlyPhone : onlyPhone.Passable := ⟨by decide, nofun⟩

/-- The next capture finds the screen of the first one in the file. -/
theorem leftover_capturedOnce : Leftover sleepy capturedOnce (textOf onceShown) where
  unprinted := by
    rintro other ⟨⟨output, errors, hEnding, rfl⟩, hMark⟩
    rw [terminalRun_eq, capturedOnce_eq.1] at hEnding
    cases hEnding
    exact absurd hMark (by decide +kernel)
  pretended := ⟨nullRoot, [], by rw [capturedOnce_eq.1]; rfl⟩
  readable := rfl
  left := ⟨onceShown, capturedOnce_eq.2, rfl⟩
  isDump := by decide +kernel

theorem fresh_or_leftover_sleepy :
    (capture (launcher sleepy) onlyPhone capturedOnce).1 = .ok (textOf onceShown) ∧
      ∃ made, (capture (launcher sleepy) onlyPhone capturedOnce).2.runs =
          capturedOnce.runs ++ made ∧
        ((∃ run ∈ made, run.Produced (textOf onceShown)) ∨
          Leftover sleepy capturedOnce (textOf onceShown)) := by
  obtain ⟨-, hFresh, hTaken⟩ :=
    fresh_or_leftover sleepy onlyPhone none [.capture] (textOf onceShown)
  have hOk := hTaken passable_onlyPhone leftover_capturedOnce
  exact ⟨hOk, hFresh hOk⟩

/-- **There is a capture that gives an old screen.** None of its runs has produced the text that it
gives. -/
theorem capture_of_old_screen : ∃ text made,
    (capture (launcher sleepy) onlyPhone capturedOnce).1 = .ok text ∧
      (capture (launcher sleepy) onlyPhone capturedOnce).2.runs = capturedOnce.runs ++ made ∧
        ∀ run ∈ made, ¬ run.Produced text := by
  refine ⟨textOf onceShown,
    [⟨.terminal, .refused (.exited (some 0) nullRoot [])⟩,
      ⟨.file, .refused (.exited (some 0) nullRoot [])⟩],
    capture_of_leftover passable_onlyPhone leftover_capturedOnce, by decide +kernel, ?_⟩
  intro run hRun hProduced
  simp only [List.mem_cons, List.not_mem_nil, or_false] at hRun
  rcases hRun with rfl | rfl
  · obtain ⟨status, output, errors, hEnding, hText⟩ := hProduced
    cases hEnding
    exact absurd hText (by decide +kernel)
  · obtain ⟨screen, hWritten, -⟩ := hProduced
    cases hWritten

end Phone

end ScreenQuery.Adb
