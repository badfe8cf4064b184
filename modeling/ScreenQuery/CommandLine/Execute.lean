import ScreenQuery.CommandLine.Options
import ScreenQuery.Key
import ScreenQuery.Outline
import ScreenQuery.Record.Encode
import ScreenQuery.Session.Operation
import ScreenQuery.Session.Run

/-!
# Commands

* `workOf` says what a command does: it shows a text, prints a raw dump, or follows a plan in a
  session and prints what that finds. Nothing is printed by a command that fails.
* `run` does the work on a bridge that is a state machine.

`workOf` is `execute`, with `print_handle`, `print_json` and `hold_duration`. Out of scope: the long
help of the program, for which `usageText` stands.
-/

namespace ScreenQuery.CommandLine

open Session (Operation)

/-- What a command prints. -/
inductive Print
  | nothing
  | words (text : Text)
  | record (value : Json)
  | screen (s : Snapshot)

/-- The text that is printed; a screen is printed with the time of its capture. -/
def Print.toText (capturedAt : Text) : Print → Text
  | nothing => []
  | words text => text
  | record value => value.pretty ++ "\n"
  | screen s => (s.toJson capturedAt).pretty ++ "\n"

/-- What a command does. -/
inductive Work
  | show (text : Text)
  | rawDump
  | inSession (plan : Operation Print)

/-! ## Finding elements -/

/-- The line of an element that was found. -/
def handleLine (handle : Handle) : Text :=
  Outline.line .default handle.node ++ "  @(" ++ Text.ofInt handle.center.x.toInt ++ "," ++
    Text.ofInt handle.center.y.toInt ++ ")  " ++ handle.describe ++ "\n"

/-- What is printed of the elements that were found. -/
def printFound (all json : Bool) (selector : Selector) (found : List Handle) :
    Except Failure Print :=
  match found with
  | [] => .error (.notFound selector.toText)
  | first :: rest =>
    if !json then .ok (.words ((first :: rest).flatMap handleLine))
    else if all then .ok (.record (.array ((first :: rest).map Handle.toJson)))
    else .ok (.record first.toJson)

/-- What goes on with the value of an operation that succeeded. -/
def andThen {α β : Type} (operation : Operation α) (rest : α → Operation β) : Operation β :=
  operation.bind fun result =>
    match result with
    | .ok value => rest value
    | .error failure => .done (.error failure)

/-- An operation whose input may be refused. -/
def given {α β : Type} (input : Except Failure α) (rest : α → Operation β) : Operation β :=
  match input with
  | .ok value => rest value
  | .error failure => .done (.error failure)

/-- The selector of an argument. -/
def selectorOf (text : Text) : Except Failure Selector :=
  (Selector.ofInput text).mapError SelectorError.failure

/-- The elements that a selector picks: all or the first, anywhere or inside an element. -/
def search (all : Bool) (selector : Selector) : (scope : Option Selector) → Operation (List Handle)
  | some scope =>
    andThen (Session.require scope) fun outer =>
      .done (.ok (if all then outer.findAllWithin selector
        else (outer.findWithin selector).toList))
  | none =>
    if all then Session.findAll selector
    else andThen (Session.require selector) fun handle => .done (.ok [handle])

/-- Finds elements and prints them. -/
def find (selector : Text) (all json : Bool) (scope : Option Text) : Operation Print :=
  given (selectorOf selector) fun selector =>
    given (scope.mapM selectorOf) fun scope =>
      andThen (search all selector scope) fun found =>
        .done (printFound all json selector found)

/-! ## Inputs and waits -/

/-- An operation that prints nothing. -/
def silently (operation : Operation Unit) : Operation Print :=
  andThen operation fun _ => .done (.ok .nothing)

/-- How long a press takes. -/
def pressTime (hold : Option Nat) : Nat := hold.getD Session.defaultPress

/-- Taps or presses a place. -/
def tapSpot (spot : Point) : (hold : Option (Option Nat)) → Operation Print
  | some time => silently (Session.swipe spot spot (pressTime time))
  | none => silently (Session.tapPoint spot)

/-- Waits for an element, taps or presses it, and prints it. -/
def tapElement (selector : Selector) (patience : Patience) :
    (hold : Option (Option Nat)) → Operation Print
  | some time =>
    andThen (Session.waitFor selector patience) fun handle =>
      andThen (Session.longPress handle (pressTime time)) fun _ =>
        .done (.ok (.record handle.toJson))
  | none =>
    andThen (Session.tapSelector selector patience) fun handle =>
      .done (.ok (.record handle.toJson))

/-- Waits for an element to be shown or hidden, and prints which. -/
def waitFor (selector : Selector) (patience : Patience) (hidden : Bool) : Operation Print :=
  if hidden then
    andThen (Session.waitForHidden selector patience) fun _ =>
      .done (.ok (.record (.object [("hidden", .string selector.toText)])))
  else
    andThen (Session.waitFor selector patience) fun handle =>
      .done (.ok (.record handle.toJson))

/-- The failure of a key that has no meaning. -/
def unknownKey (name : Text) : Failure :=
  .invalidInputWith ("Unknown key '" ++ name ++ "'")
    "Use a key name like 'back', 'home', 'enter', or a numeric Android key code"

/-- Presses a key. -/
def pressKey (name : Text) : Operation Print :=
  match Key.parse? name with
  | some code => silently (Session.pressKey code)
  | none => .done (.error (unknownKey name))

/-- The patience of a command that may give its own timeout. -/
def patienceOf (timing : Timing) (timeout : Option Nat) : Patience :=
  { timing.patience with timeout := timeout.getD timing.timeout }

/-! ## All commands -/

/-- How to log in to an app, step by step. -/
def examplesText : Text := Text.joinWith "\n" [
  "End-to-end example: Log in to an app",
  "",
  "# 1. See what is on screen",
  "uiprobe dump --visible-only",
  "",
  "# 2. Wait for the login form and fill it in",
  "uiprobe wait-for '#username'",
  "uiprobe tap '#username'",
  "uiprobe type 'demo@example.com'",
  "uiprobe tap '#password'",
  "uiprobe type 'hunter2'",
  "",
  "# 3. Submit, matching the button by text and state",
  "uiprobe tap '\x7b\"text\": \x7b\"regex\": \"^Log ?in$\"\x7d, \"clickable\": true\x7d'",
  "",
  "# 4. Wait for the spinner to go away and the home screen to show",
  "uiprobe wait-for '.ProgressBar' --hidden -t 20000",
  "uiprobe wait-for '//RecyclerView/*[1]'",
  "",
  "# 5. Go back",
  "uiprobe key back",
  "",
  "# Work offline against a saved dump:",
  "uiprobe dump --format raw > screen.xml",
  "uiprobe --file screen.xml find '.Button' --all --json",
  "", ""]

/-- What a command does. -/
def workOf (timing : Timing) : Command → Work
  | .dump .raw _ _ => .rawDump
  | .dump .json _ _ =>
    .inSession (andThen (Session.snapshot true) fun s => .done (.ok (.screen s)))
  | .dump .tree visibleOnly width =>
    .inSession (andThen (Session.snapshot true) fun s =>
      .done (.ok (.words (Outline.ofSnapshot ⟨width, visibleOnly⟩ s))))
  | .find selector all json scope => .inSession (find selector all json scope)
  | .tap (.spot spot) hold _ => .inSession (tapSpot spot hold)
  | .tap (.selector text) hold timeout =>
    .inSession (given (selectorOf text) fun selector =>
      tapElement selector (patienceOf timing timeout) hold)
  | .waitFor text timeout hidden =>
    .inSession (given (selectorOf text) fun selector =>
      waitFor selector (patienceOf timing timeout) hidden)
  | .type words => .inSession (silently (Session.typeText words))
  | .key name => .inSession (pressKey name)
  | .swipe start finish duration => .inSession (silently (Session.swipe start finish duration))
  | .examples => .show examplesText

/-- What is printed of a raw dump, or the line that reports why there is none. -/
def printDump (result : Except BridgeError Text) : Except Text Print :=
  match result with
  | .ok dump => .ok (.words (Text.trimEnd dump ++ "\n"))
  | .error error => .error error.messageWithCause

/-- Does the work on a bridge: what is printed or the line that reports the failure, and the state
of the bridge after it. -/
def run {σ : Type} (bridge : Bridge σ) (timing : Timing) (work : Work) (device : σ) :
    Except Text Print × σ :=
  match work with
  | .show text => (.ok (.words text), device)
  | .rawDump =>
    let answer := bridge.capture 0 device
    (printDump answer.result, answer.state)
  | .inSession plan =>
    let (result, session) := plan.run bridge (Session.start timing.freshness device)
    (result.mapError Failure.toText, session.device)

/-- The line that tells the version. -/
def versionText : Text := "uiprobe 0.1.0\n"

/-- The lines that tell how to call the program. -/
def usageText : Text := Text.joinWith "\n" [
  "Query and drive Android UIs from their accessibility hierarchy",
  "",
  "Usage: uiprobe [--serial SERIAL] [--adb PROGRAM] [--file PATH] <COMMAND>",
  "",
  "Commands:",
  "  dump [--format tree|json|raw] [--visible-only] [--width N]",
  "  find SELECTOR [--all] [--json] [--within SELECTOR]",
  "  tap (SELECTOR | --at X Y) [--hold [MS]] [--timeout MS]",
  "  wait-for SELECTOR [--timeout MS] [--hidden]",
  "  type TEXT",
  "  key KEY",
  "  swipe X1 Y1 X2 Y2 [--duration MS]",
  "  examples",
  ""]

/-- How the program ends: its exit status, what it prints, and the line that reports a failure. -/
structure Ending where
  status : Nat
  output : Text
  error : Option Text

/-- How the program ends when its arguments are not used. -/
def endingOfFault : UsageFault → Ending
  | .versionRequested => ⟨0, versionText, none⟩
  | .helpRequested => ⟨0, usageText, none⟩
  | _ => ⟨2, [], none⟩

/-- How the program ends after some work. -/
def endingOf (capturedAt : Text) (result : Except Text Print) : Ending :=
  match result with
  | .ok print => ⟨0, print.toText capturedAt, none⟩
  | .error line => ⟨1, [], some line⟩

end ScreenQuery.CommandLine
