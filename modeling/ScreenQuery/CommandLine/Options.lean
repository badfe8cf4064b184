import ScreenQuery.CommandLine.Grammar
import ScreenQuery.Geometry

/-!
# The command line

* `Options.parse` reads the arguments of the program. Options of the device may stand before or
  behind the subcommand; behind it they count more, and the environment counts least.
* What is wrong behind the subcommand is reported before what is wrong in front of it.

`Options` is `Cli`, and `Command` is `Commands` with the arguments of each, from `DumpArgs` to
`SwipeArgs`.
-/

namespace ScreenQuery.CommandLine

/-- How a dump is printed. -/
inductive DumpFormat
  | tree | json | raw
  deriving DecidableEq, Repr

/-- What is tapped. -/
inductive Target
  | selector (text : Text)
  | spot (place : Point)
  deriving DecidableEq

/-- What the program is to do. -/
inductive Command
  | dump (format : DumpFormat) (visibleOnly : Bool) (width : Nat)
  | find (selector : Text) (all json : Bool) (scope : Option Text)
  /-- A press may be held, for a given time or for the usual one. -/
  | tap (target : Target) (hold : Option (Option Nat)) (timeout : Option Nat)
  | waitFor (selector : Text) (timeout : Option Nat) (hidden : Bool)
  | type (words : Text)
  | key (name : Text)
  | swipe (start finish : Point) (duration : Nat)
  | examples
  deriving DecidableEq

/-- What the program is to do, and with which device. -/
structure Options where
  serial : Option Text
  adb : Text
  file : Option Text
  command : Command
  deriving DecidableEq

/-! ## Grammars -/

/-- The options of every level. -/
def deviceOptions : List Parameter :=
  [.one "serial" .words (some 's'), .one "adb" .words none, .one "file" .path (some 'f')]

/-- The names of the formats. -/
def formatNames : List (Text × DumpFormat) := [("tree", .tree), ("json", .json), ("raw", .raw)]

/-- The option that bounds the time of a wait. -/
def timeoutOption : Parameter := .one "timeout" .natural (some 't')

/-- The selector of a command. -/
def selectorArgument : Parameter := .one "selector" .words none

/-- The subcommands, with their own options and their positional arguments. -/
def subcommands : List (Text × List Parameter × List Parameter) :=
  [("dump",
      [.one "format" (.choice (formatNames.map Prod.fst)) none, .switch "visible-only" none,
        .one "width" .natural none], []),
    ("find",
      [.switch "all" (some 'a'), .switch "json" none, .one "within" .words (some 'w')],
      [selectorArgument]),
    ("tap",
      [⟨"at", none, 2, 2, .int32⟩, ⟨"hold", none, 0, 1, .natural⟩, timeoutOption],
      [selectorArgument]),
    ("wait-for", [timeoutOption, .switch "hidden" none], [selectorArgument]),
    ("type", [], [.one "text" .words none]),
    ("key", [], [.one "key" .words none]),
    ("swipe", [.one "duration" .natural (some 'd')],
      [.one "x1" .int32 none, .one "y1" .int32 none, .one "x2" .int32 none,
        .one "y2" .int32 none]),
    ("examples", [], [])]

/-- The grammar in front of the subcommand. -/
def topGrammar : Grammar where
  options := deviceOptions
  positionals := []
  commands := subcommands.map Prod.fst ++ [Grammar.helpCommand]
  hasVersion := true

/-- The grammar behind a subcommand. -/
def subGrammar (options positionals : List Parameter) : Grammar where
  options := options ++ deviceOptions
  positionals := positionals
  commands := []
  hasVersion := false

/-! ## Commands -/

/-- The text of a parameter that has to be given. -/
def needText (given : Given) (name : Text) : Except UsageFault Text :=
  match given.value? name with
  | some value => .ok value
  | none => .error .missingArgument

/-- The number that a text denotes. -/
def natural (text : Text) : Except UsageFault Nat :=
  match Text.natUpTo? Text.uint64Limit text with
  | some n => .ok n
  | none => .error .unreadableValue

/-- The coordinate that a text denotes. -/
def coordinate (text : Text) : Except UsageFault Int32 :=
  match Text.int32? text with
  | some i => .ok i
  | none => .error .unreadableValue

/-- The number of an option, if it was given. -/
def number? (given : Given) (name : Text) : Except UsageFault (Option Nat) :=
  match given.value? name with
  | some text => (natural text).map some
  | none => .ok none

/-- The number of an option, or another one. -/
def numberD (given : Given) (name : Text) (other : Nat) : Except UsageFault Nat :=
  (number? given name).map fun n => n.getD other

/-- What is tapped: a selector or a place, and not both. -/
def targetOf (given : Given) : Except UsageFault Target :=
  match given.value? "selector", given.values? "at" with
  | some _, some _ => .error .conflict
  | some text, none => .ok (.selector text)
  | none, some [x, y] => do return .spot ⟨← coordinate x, ← coordinate y⟩
  | none, _ => .error .missingArgument

/-- How long a tap is held. -/
def holdOf (given : Given) : Except UsageFault (Option (Option Nat)) :=
  match given.values? "hold" with
  | none => .ok none
  | some [] => .ok (some none)
  | some (text :: _) => (natural text).map fun n => some (some n)

/-- The format of a dump. -/
def formatOf (given : Given) : DumpFormat :=
  ((given.value? "format").bind fun name =>
    (formatNames.find? fun entry => entry.1 == name).map Prod.snd).getD .tree

/-- The columns for a text when nothing else is asked for. -/
def defaultWidth : Nat := 60

/-- The length of a swipe when nothing else is asked for. -/
def defaultSwipe : Nat := 300

/-- The coordinate of a positional argument that has to be given. -/
def needCoordinate (given : Given) (name : Text) : Except UsageFault Int32 :=
  needText given name >>= coordinate

/-- The command that a subcommand and its parameters ask for. -/
def commandOf (name : Text) (given : Given) : Except UsageFault Command :=
  if name = "dump" then do
    return .dump (formatOf given) (given.has "visible-only")
      (← numberD given "width" defaultWidth)
  else if name = "find" then do
    return .find (← needText given "selector") (given.has "all") (given.has "json")
      (given.value? "within")
  else if name = "tap" then do
    return .tap (← targetOf given) (← holdOf given) (← number? given "timeout")
  else if name = "wait-for" then do
    return .waitFor (← needText given "selector") (← number? given "timeout")
      (given.has "hidden")
  else if name = "type" then do return .type (← needText given "text")
  else if name = "key" then do return .key (← needText given "key")
  else if name = "swipe" then do
    let start : Point := ⟨← needCoordinate given "x1", ← needCoordinate given "y1"⟩
    let finish : Point := ⟨← needCoordinate given "x2", ← needCoordinate given "y2"⟩
    return .swipe start finish (← numberD given "duration" defaultSwipe)
  else if name = "examples" then .ok .examples
  else .error .unknownCommand

/-! ## All arguments -/

/-- The command behind a subcommand's name, and the parameters that were given there. -/
def parseSubcommand (name : Text) (arguments : List Text) :
    Except UsageFault (Command × Given) :=
  match subcommands.find? fun entry => entry.1 == name with
  | none => .error .unknownCommand
  | some (_, options, positionals) => do
    let (reading, _) ← (subGrammar options positionals).read .start arguments
    let reading ← reading.settle
    return (← commandOf name reading.given, reading.given)

/-- The variables that name a device. -/
def serialVariable : Text := "ANDROID_SERIAL"
def adbVariable : Text := "UIPROBE_ADB"

/-- The program that drives devices when nothing else is asked for. -/
def defaultAdb : Text := "adb"

/-- Reads the arguments behind the name of the program. -/
def Options.parse (arguments : List Text) (lookup : Text → Option Text) :
    Except UsageFault Options := do
  let (reading, sub) ← topGrammar.read .start arguments
  match sub with
  | none =>
    let reading ← reading.settle
    if reading.given.isEmpty ∧ lookup serialVariable = none ∧ lookup adbVariable = none then
      throw .nothingGiven
    else throw .missingCommand
  | some (name, rest) =>
    let (command, inner) ← parseSubcommand name rest
    let outer := (← reading.settle).given
    let value? := fun (name : Text) => (inner.value? name).or (outer.value? name)
    return {
      serial := (value? "serial").or (lookup serialVariable)
      adb := ((value? "adb").or (lookup adbVariable)).getD defaultAdb
      file := value? "file"
      command := command }

end ScreenQuery.CommandLine
