import ScreenQuery.Text.Numeral

/-!
# Failures

* A `Failure` is what an operation reports when it cannot do its work: a code, a message, and in
  most cases a suggestion of what to try. Dumps that cannot be read are no failures; they yield
  snapshots.
* There is one constructor function per cause; each fixes the code and the wording.

`Failure` is `ApiError` and `FailureCode` is `ErrorCode`; the constructor functions have the names
of theirs, with `invalid_input_with_suggestion` and `command_failed_with_suggestion` for the two
that take a suggestion.
-/

namespace ScreenQuery

/-- The kind of a failure. -/
inductive FailureCode
  | notFound | timeout | invalidSelector | invalidInput | deviceError | commandFailed
  deriving DecidableEq, Repr

/-- All codes. -/
def FailureCode.all : List FailureCode :=
  [notFound, timeout, invalidSelector, invalidInput, deviceError, commandFailed]

/-- The name of a code in reports. -/
def FailureCode.name : FailureCode → Text
  | notFound => "NOT_FOUND"
  | timeout => "TIMEOUT"
  | invalidSelector => "INVALID_SELECTOR"
  | invalidInput => "INVALID_INPUT"
  | deviceError => "DEVICE_ERROR"
  | commandFailed => "COMMAND_FAILED"

/-- The code with a name. -/
def FailureCode.ofName? (name : Text) : Option FailureCode :=
  all.find? fun code => code.name == name

/-- Why an operation could not do its work. -/
structure Failure where
  code : FailureCode
  message : Text
  suggestion : Option Text
  deriving DecidableEq

namespace Failure

/-- The line that reports the failure. -/
def toText (failure : Failure) : Text :=
  "[" ++ failure.code.name ++ "] " ++ failure.message ++
    match failure.suggestion with
    | some suggestion => " (hint: " ++ suggestion ++ ")"
    | none => []

/-- One element was asked for and the selector matches none. -/
def notFound (selector : Text) : Failure where
  code := .notFound
  message := "No element matches selector " ++ selector
  suggestion := some <| "Run 'uiprobe dump' to inspect the current screen, " ++
    "or use 'uiprobe wait-for' if the element appears later"

/-- The wording of a wait that took too long. -/
def timeoutMessage (what : Text) (elapsed : Nat) : Text :=
  "Timeout waiting for " ++ what ++ " after " ++ Text.ofNat elapsed ++ "ms"

/-- What to try after a wait that took too long. -/
def timeoutSuggestion : Text :=
  "The condition never held. Try increasing --timeout or check that " ++
    "the selector matches the screen you expect"

/-- A condition did not hold in time, and every capture could be read. -/
def timeout (what : Text) (elapsed : Nat) : Failure where
  code := .timeout
  message := timeoutMessage what elapsed
  suggestion := some timeoutSuggestion

/-- A condition did not hold in time; `cause` is the last failure of a capture. -/
def timeoutWithCause (what : Text) (elapsed : Nat) (cause : Text) : Failure where
  code := .timeout
  message := timeoutMessage what elapsed ++ " (last capture error: " ++ cause ++ ")"
  suggestion := some timeoutSuggestion

/-- A selector that cannot be read. -/
def invalidSelector (selector reason : Text) : Failure where
  code := .invalidSelector
  message := "Invalid selector '" ++ selector ++ "': " ++ reason
  suggestion := some <| "Use '#id', '.Class', '[attr=value]', '[attr*=value]', plain text, " ++
    "a path like '//Button[@text=\"OK\"]', or a JSON object"

/-- Input with its own suggestion. -/
def invalidInputWith (message suggestion : Text) : Failure :=
  ⟨.invalidInput, message, some suggestion⟩

/-- Input that makes no sense. -/
def invalidInput (message : Text) : Failure :=
  invalidInputWith message "Check the command syntax and try again"

/-- The device did not capture the screen or take an input. -/
def device (message : Text) : Failure where
  code := .deviceError
  message := message
  suggestion := some <| "Check that the device is connected ('adb devices') " ++
    "and the screen is unlocked"

/-- A command on the device did not succeed. -/
def commandFailed (message suggestion : Text) : Failure :=
  ⟨.commandFailed, message, some suggestion⟩

end Failure

end ScreenQuery
