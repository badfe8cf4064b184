import ScreenQuery.Failure
import ScreenQuery.Geometry

/-!
# Bridges

* A `Bridge` captures the screen of a device and passes inputs to it. It is a state machine: what it
  answers may depend on the time and on all it was asked before, and each answer takes some time.
* A `BridgeError` says why a capture or an input failed.

A `Bridge` has the calls of `DeviceBridge`. The lock of `SerialBridge` is no part of it; it belongs
to the sessions (`Session.System`). Of an error of the operating system only its wording is kept.
-/

namespace ScreenQuery

/-- An input to a device. A swipe that ends where it starts is a long press. -/
inductive Action
  | tap (spot : Point)
  | swipe (start finish : Point) (duration : Nat)
  | typing (words : Text)
  | key (code : UInt32)
  deriving DecidableEq, Repr

/-- Why a capture or an input failed. -/
inductive BridgeError
  | io (command source : Text)
  | commandFailed (command : Text) (status : Int) (errors : Text)
  | unavailable (reason : Text)
  | unsupported (what : Text)
  deriving DecidableEq, Repr

namespace BridgeError

/-- The wording of an error. -/
def message : BridgeError → Text
  | io command source => "failed to run '" ++ command ++ "': " ++ source
  | commandFailed command status errors =>
    "'" ++ command ++ "' exited with status " ++ Text.ofInt status ++ ": " ++ errors
  | unavailable reason => "device unavailable: " ++ reason
  | unsupported what => what ++ " is not supported by this bridge"

/-- The wording of an error with its cause repeated at the end. -/
def messageWithCause (error : BridgeError) : Text :=
  match error with
  | io _ source => error.message ++ ": " ++ source
  | _ => error.message

/-- The failure that reports an error. -/
def failure (error : BridgeError) : Failure := .device error.message

end BridgeError

/-- What a bridge answers: how long the call takes, its result, and the state after it. -/
structure Answer (σ α : Type) where
  latency : Nat
  result : Except BridgeError α
  state : σ

/-- The captures and inputs of a device. A call is told the time at which it reaches the device. -/
structure Bridge (σ : Type) where
  capture : (now : Nat) → σ → Answer σ Text
  act : Action → (now : Nat) → σ → Answer σ Unit

/-- The bridge of a device that always shows the same screen, and answers at once. -/
def Bridge.still (dump : Text) : Bridge Unit :=
  ⟨fun _ _ => ⟨0, .ok dump, ()⟩, fun _ _ _ => ⟨0, .ok (), ()⟩⟩

end ScreenQuery
