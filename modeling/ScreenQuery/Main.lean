import ScreenQuery.Bridge.Adb
import ScreenQuery.Bridge.SavedDump
import ScreenQuery.Calendar
import ScreenQuery.CommandLine.Execute
import Std.Time.DateTime.Timestamp

/-!
# The program

* Reads the arguments and the environment, does the work of the command, and prints.
* Saved dumps are read from files. This program starts no other one, so a device that needs one is
  reported as unavailable.

This is `main` with `run`. Out of scope: log lines other than the one that reports a failure.
-/

namespace ScreenQuery.Program

open CommandLine

/-- The words of the system for a file that cannot be read. -/
def fileFault (error : IO.Error) : Text :=
  match error with
  | .noFileOrDirectory _ _ _ => "No such file or directory (os error 2)"
  | .permissionDenied _ _ _ => "Permission denied (os error 13)"
  | .inappropriateType _ _ _ => "Is a directory (os error 21)"
  | other => other.toString.toList

/-- The bytes of a file. -/
def bytesOf (path : Text) : IO (Except Text (List UInt8)) := do
  try
    let bytes ← IO.FS.readBinFile (String.ofList path)
    return .ok bytes.toList
  catch error => return .error (fileFault error)

/-- The bridge for the next call. -/
def bridgeNow (options : Options) : IO (Bridge Unit) := do
  match options.file with
  | some path =>
    let bytes ← bytesOf path
    return SavedDump.bridge (fun _ state => (bytes, state)) path
  | none =>
    return Adb.bridge (fun _ _ state => (.missing, state)) ⟨options.adb, options.serial⟩

/-- Sleeps for some milliseconds. -/
def sleep (duration : Nat) : IO Unit := IO.sleep (UInt32.ofNat (min duration (UInt32.size - 1)))

/-- Follows a plan on the clock of the system. -/
def follow {α : Type} (options : Options) : Plan α → Cache → IO α
  | .done value, _ => return value
  | .snapshot force next, cache => do
    let began ← IO.monoMsNow
    match cache.fresh? force began with
    | some s => follow options (next (.ok s) 0) cache
    | none =>
      let answer := (← bridgeNow options).capture began ()
      let now ← IO.monoMsNow
      let (reply, cache) := cache.accept answer.result now
      follow options (next reply (now - began)) cache
  | .act action next, cache => do
    let answer := (← bridgeNow options).act action (← IO.monoMsNow) ()
    follow options (next answer.result) cache
  | .invalidate next, cache => follow options next cache.invalidate
  | .sleep duration next, cache => do
    let began ← IO.monoMsNow
    sleep duration
    let now ← IO.monoMsNow
    follow options (next (now - began - duration)) cache

/-- Does some work: what is printed, or the line that reports the failure. -/
def perform (options : Options) (timing : Timing) : Work → IO (Except Text Print)
  | .show text => return .ok (.words text)
  | .rawDump => return printDump ((← bridgeNow options).capture 0 ()).result
  | .inSession plan =>
    return (← follow options plan (.empty timing.freshness)).mapError Failure.toText

/-- The variables that the program looks at. -/
def variableNames : List Text :=
  [serialVariable, adbVariable, Timing.freshnessVariable, Timing.timeoutVariable,
    Timing.pollVariable, Timing.refreshVariable]

/-- The values of these variables. -/
def environment : IO (Text → Option Text) := do
  let entries ← variableNames.filterMapM fun name => do
    return (← IO.getEnv (String.ofList name)).map fun value => (name, value.toList)
  return (Dictionary.ofList entries).get?

/-- The time in UTC. -/
def timeText : IO Text := do
  let moment ← Std.Time.Timestamp.now
  return Calendar.utcText moment.toNanosecondsSinceUnixEpoch.val.toNat

/-- Prints how the program ends, and gives its exit status. -/
def report (ending : Ending) : IO UInt32 := do
  IO.print (String.ofList ending.output)
  match ending.error with
  | some line => IO.eprintln ("ERROR " ++ String.ofList line)
  | none => pure ()
  return UInt32.ofNat ending.status

end ScreenQuery.Program

open ScreenQuery ScreenQuery.CommandLine ScreenQuery.Program in
/-- The program. -/
def main (arguments : List String) : IO UInt32 := do
  let lookup ← environment
  match Options.parse (arguments.map String.toList) lookup with
  | .error fault => report (endingOfFault fault)
  | .ok options =>
    let timing := Timing.ofEnvironment lookup
    let result ← perform options timing (workOf timing options.command)
    report (endingOf (← timeText) result)
