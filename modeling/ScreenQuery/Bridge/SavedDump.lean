import ScreenQuery.Bridge.Basic
import ScreenQuery.Text.Utf8

/-!
# Saved dumps

* `SavedDump.bridge` serves the dump that a file holds. The file is read anew for every capture, and
  inputs are refused.
* Bytes that are no text are replaced; dumps from devices are not always text.

`bridge` is `FileBridge`. Out of scope: how long it takes to read the file.
-/

namespace ScreenQuery.SavedDump

variable {σ : Type}

/-- Reads a file; a failure is given by the wording of the system. -/
abbrev FileReader (σ : Type) := (path : Text) → σ → Except Text (List UInt8) × σ

/-- What the system says of a path that it cannot take. -/
def nulPathMessage : Text := "file name contained an unexpected NUL byte"

/-- The dump that a file holds. -/
def capture (reader : FileReader σ) (path : Text) (state : σ) : Except BridgeError Text × σ :=
  let failed := fun (reason : Text) => Except.error (.io ("read " ++ path) reason)
  if path.any fun c => c.toNat == 0 then (failed nulPathMessage, state)
  else match reader path state with
    | (.ok bytes, state) => (.ok (Text.ofBytes bytes), state)
    | (.error reason, state) => (failed reason, state)

/-- What an input is called when it is refused. -/
def refusal : Action → Text
  | .tap _ => "tap"
  | .swipe _ _ _ => "swipe"
  | .typing _ => "text input"
  | .key _ => "key events"

/-- The bridge that serves a file; the time of its calls is not counted. -/
def bridge (reader : FileReader σ) (path : Text) : Bridge σ where
  capture := fun _ state =>
    let (result, state) := capture reader path state
    ⟨0, result, state⟩
  act := fun action _ state => ⟨0, .error (.unsupported (refusal action)), state⟩

end ScreenQuery.SavedDump
