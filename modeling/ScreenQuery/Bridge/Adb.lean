import ScreenQuery.Bridge.Basic
import ScreenQuery.Fallback
import ScreenQuery.Text.Blank
import ScreenQuery.Text.Utf8

/-!
# The adb bridge

* `Adb.bridge` drives a device by calls of a command-line program. A `Launcher` is whatever runs the
  program and gives back how it ended.
* A capture first dumps the screen to the output of the program. If that fails it dumps to a file on
  the device and reads the file. A text counts as a dump only if it holds the start of a hierarchy.
* `escape` prepares a text for its way through the shell of the device: a blank becomes `%s`, and
  each character that means something to the shell gets a backslash.

`call` is `run` of `Adb`, `capture` is `capture_hierarchy` of `AdbBridge` with `StdoutDump`,
`FileDump` and `require_hierarchy`, and `escape` is `escape_input_text`. Out of scope: how long the
program runs (`bridge` answers at once), and log lines.
-/

namespace ScreenQuery.Adb

/-- How a call of a program ended. -/
inductive Outcome
  /-- It ran to its end; the status is absent if it was killed. -/
  | exited (status : Option Nat) (output errors : List UInt8)
  /-- There is no such program. -/
  | missing
  /-- It could not be started for another reason. -/
  | blocked (reason : Text)
  deriving DecidableEq

/-- Runs a program with arguments. -/
abbrev Launcher (σ : Type) := (program : Text) → (arguments : List Text) → σ → Outcome × σ

/-- The program, and the device that it is told to use. -/
structure Device where
  program : Text
  serial : Option Text
  deriving DecidableEq

variable {σ : Type}

/-- All arguments of a call. -/
def Device.arguments (device : Device) (rest : List Text) : List Text :=
  match device.serial with
  | some serial => "-s" :: serial :: rest
  | none => rest

/-- A call as it is shown. -/
def Device.commandLine (device : Device) (rest : List Text) : Text :=
  Text.joinWith " " (device.program :: device.arguments rest)

/-- True for a text that cannot be passed to a program. -/
def holdsNul (text : Text) : Bool := text.any fun c => c.toNat == 0

/-- The text of some output. -/
def textOf (bytes : List UInt8) : Text := Text.ofBytes bytes

/-- The result of a call that ended in some way. -/
def resultOf (device : Device) (rest : List Text) : Outcome → Except BridgeError Text
  | .missing => .error (.unavailable ("'" ++ device.program ++ "' not found on PATH"))
  | .blocked reason => .error (.io (device.commandLine rest) reason)
  | .exited status output errors =>
    if status = some 0 then .ok (textOf output)
    else .error (.commandFailed (device.commandLine rest)
      (status.elim (-1) Int.ofNat) (Text.trim (textOf errors)))

/-- The output of a call. -/
def call (launcher : Launcher σ) (device : Device) (rest : List Text) (state : σ) :
    Except BridgeError Text × σ :=
  if (device.program :: device.arguments rest).any holdsNul then
    (.error (.io (device.commandLine rest) "nul byte found in provided data"), state)
  else
    let (outcome, state) := launcher device.program (device.arguments rest) state
    (resultOf device rest outcome, state)

/-! ## Captures -/

/-- What every dump holds. -/
def hierarchyMark : Text := "<hierarchy"

/-- The output of a dump, if it is one; otherwise its first line says what went wrong. -/
def requireHierarchy (output : Text) : Except Failure Text :=
  if Text.contains hierarchyMark output then .ok output
  else
    let line := Text.trim (Text.firstLine output)
    let shown : Text := if line.isEmpty then "empty output" else line
    .error (.device ("uiautomator produced no hierarchy: " ++ shown))

/-- Where the second way of a capture leaves its dump. -/
def dumpPath : Text := "/sdcard/window_dump.xml"

/-- A dump to the output of the program. -/
def dumpToOutput (launcher : Launcher σ) (device : Device) (state : σ) :
    Except Failure Text × σ :=
  match call launcher device ["exec-out", "uiautomator", "dump", "/dev/tty"] state with
  | (.error error, state) => (.error error.failure, state)
  | (.ok output, state) => (requireHierarchy output, state)

/-- A dump to a file on the device, which is then read. -/
def dumpToFile (launcher : Launcher σ) (device : Device) (state : σ) : Except Failure Text × σ :=
  match call launcher device ["shell", "uiautomator", "dump", dumpPath] state with
  | (.error error, state) => (.error error.failure, state)
  | (.ok _, state) =>
    match call launcher device ["exec-out", "cat", dumpPath] state with
    | (.error error, state) => (.error error.failure, state)
    | (.ok output, state) => (requireHierarchy output, state)

/-- The ways to capture the screen, in order. -/
def strategies (launcher : Launcher σ) (device : Device) : List (Strategy σ Text) :=
  [⟨"dump to stdout", dumpToOutput launcher device⟩, ⟨"dump to file", dumpToFile launcher device⟩]

/-- A dump of the screen. -/
def capture (launcher : Launcher σ) (device : Device) (state : σ) :
    Except BridgeError Text × σ :=
  match Strategy.firstSuccess (strategies launcher device) state with
  | (.ok dump, state) => (.ok dump, state)
  | (.error failure, state) => (.error (.unavailable failure.message), state)

/-! ## Inputs -/

/-- The characters that mean something to a shell. -/
def shellCharacters : Text := "\\\"'`$&|;<>()*?~#!%[]\x7b\x7d"

/-- One character of a text that is typed. -/
def escapeChar (c : Char) : Text :=
  if c = ' ' then "%s" else if c ∈ shellCharacters then ['\\', c] else [c]

/-- A text on its way through the shell of the device. -/
def escape (text : Text) : Text := text.flatMap escapeChar

/-- A coordinate as an argument. -/
def coordinate (i : Int32) : Text := Text.ofInt i.toInt

/-- The arguments of an input. -/
def inputArguments : Action → List Text
  | .tap spot => ["tap", coordinate spot.x, coordinate spot.y]
  | .swipe start finish duration =>
    ["swipe", coordinate start.x, coordinate start.y, coordinate finish.x, coordinate finish.y,
      Text.ofNat duration]
  | .typing words => ["text", escape words]
  | .key code => ["keyevent", Text.ofNat code.toNat]

/-- Passes an input to the device. -/
def act (launcher : Launcher σ) (device : Device) (action : Action) (state : σ) :
    Except BridgeError Unit × σ :=
  let (result, state) :=
    call launcher device ("shell" :: "input" :: inputArguments action) state
  (result.map fun _ => (), state)

/-- The bridge of a device; the time of its calls is not counted. -/
def bridge (launcher : Launcher σ) (device : Device) : Bridge σ where
  capture := fun _ state =>
    let (result, state) := capture launcher device state
    ⟨0, result, state⟩
  act := fun action _ state =>
    let (result, state) := act launcher device action state
    ⟨0, result, state⟩

end ScreenQuery.Adb
