import ScreenQuery.Text.Numeral

/-!
# Reading arguments

* A `Grammar` lists the options, the positional arguments and the subcommands of one level of a
  command line; `Grammar.read` takes the arguments one by one.
* `--name value`, `--name=value`, `-n value`, `-nvalue` and `-n=value` give an option its value, and
  switches may share one hyphen. After `--` every argument is positional.
* An option or a positional argument is only checked once the next one begins, or at the end. So of
  two faults the one that is met first is not always the one that is given first: `pending` holds
  what has not been checked yet.

These are the rules by which the arguments of `Cli` are read. Out of scope: the words in which
faults are reported; only which fault it is counts.
-/

namespace ScreenQuery.CommandLine

/-- Why arguments cannot be used, or what was asked for instead. -/
inductive UsageFault
  | helpRequested
  | versionRequested
  | nothingGiven
  | missingCommand
  | unknownCommand
  | unknownArgument
  | invalidValue
  | unreadableValue
  | wrongCount
  | surplusValue
  | conflict
  | missingArgument
  deriving DecidableEq, Repr

/-- What the values of a parameter have to be. -/
inductive ValueKind
  | words
  | path
  | int32
  | natural
  | choice (allowed : List Text)
  deriving DecidableEq

/-- Checks one value. -/
def ValueKind.check (kind : ValueKind) (value : Text) : Except UsageFault Unit :=
  match kind with
  | words => .ok ()
  | path => if value.isEmpty then .error .invalidValue else .ok ()
  | int32 => if (Text.int32? value).isSome then .ok () else .error .unreadableValue
  | natural =>
    if (Text.natUpTo? Text.uint64Limit value).isSome then .ok () else .error .unreadableValue
  | choice allowed => if allowed.contains value then .ok () else .error .invalidValue

/-- An option or a positional argument, and how many values it takes. A switch takes none. -/
structure Parameter where
  name : Text
  short : Option Char
  least : Nat
  most : Nat
  kind : ValueKind
  deriving DecidableEq

namespace Parameter

/-- A positional argument, or an option with one value. -/
def one (name : Text) (kind : ValueKind) (short : Option Char) : Parameter :=
  ⟨name, short, 1, 1, kind⟩

/-- A switch. -/
def switch (name : Text) (short : Option Char) : Parameter := ⟨name, short, 0, 0, .words⟩

/-- Checks the values that were given. -/
def check (parameter : Parameter) (values : List Text) : Except UsageFault Unit :=
  if values.isEmpty ∧ 0 < parameter.least then .error .invalidValue
  else if values.length < parameter.least ∨ parameter.most < values.length then
    .error .wrongCount
  else .ok ()

end Parameter

/-- One level of a command line. -/
structure Grammar where
  options : List Parameter
  positionals : List Parameter
  commands : List Text
  /-- True when the version can be asked for. -/
  hasVersion : Bool

/-- The parameters that were given, with their values. -/
abbrev Given := List (Text × List Text)

/-- The values of a parameter, if it was given. -/
def Given.values? (given : Given) (name : Text) : Option (List Text) :=
  (given.find? fun entry => entry.1 == name).map Prod.snd

/-- True when a parameter was given. -/
def Given.has (given : Given) (name : Text) : Bool := given.any fun entry => entry.1 == name

/-- The first value of a parameter. -/
def Given.value? (given : Given) (name : Text) : Option Text :=
  (given.values? name).bind List.head?

/-- How far the arguments have been read. -/
structure Reading where
  given : Given
  /-- The parameter that has not been checked yet. -/
  pending : Option (Parameter × List Text)
  /-- True when the next argument may be a value of the pending option. -/
  wantsValue : Bool
  /-- The number of positional arguments so far. -/
  position : Nat
  /-- True after `--`. -/
  literal : Bool

namespace Reading

/-- Nothing read yet. -/
def start : Reading := ⟨[], none, false, 0, false⟩

/-- Checks a parameter and adds it to those that were given. -/
def record (reading : Reading) (parameter : Parameter) (values : List Text) :
    Except UsageFault Reading := do
  parameter.check values
  if reading.given.has parameter.name then throw .conflict
  for value in values do parameter.kind.check value
  return { reading with
    given := reading.given ++ [(parameter.name, values)]
    wantsValue := false }

/-- Checks the pending parameter. -/
def settle (reading : Reading) : Except UsageFault Reading :=
  match reading.pending with
  | none => .ok reading
  | some (parameter, values) => { reading with pending := none }.record parameter values

/-- Begins a parameter whose values are still to come, or only need checking. -/
def begin (reading : Reading) (parameter : Parameter) (values : List Text) :
    Except UsageFault Reading := do
  let reading ← reading.settle
  return { reading with pending := some (parameter, values), wantsValue := values.isEmpty }

/-- Adds a parameter with all its values. -/
def add (reading : Reading) (parameter : Parameter) (values : List Text) :
    Except UsageFault Reading := do
  let reading ← reading.settle
  reading.record parameter values

/-- Gives the pending option one more value. -/
def addValue (reading : Reading) (value : Text) : Reading :=
  match reading.pending with
  | none => reading
  | some (parameter, values) =>
    { reading with
      pending := some (parameter, values ++ [value])
      wantsValue := values.length + 1 < parameter.most }

/-- Asks for something else than the work of the program. -/
def request (reading : Reading) (fault : UsageFault) : Except UsageFault Reading := do
  discard reading.settle
  throw fault

end Reading

namespace Grammar

/-- The option with a long name. -/
def long? (grammar : Grammar) (name : Text) : Option Parameter :=
  grammar.options.find? fun parameter => parameter.name == name

/-- The option with a short name. -/
def short? (grammar : Grammar) (c : Char) : Option Parameter :=
  grammar.options.find? fun parameter => parameter.short == some c

/-- What `help` and `version` ask for, by long name or by short. -/
def special? (grammar : Grammar) (name : Text) : Option UsageFault :=
  if name = "help" ∨ name = "h" then some .helpRequested
  else if grammar.hasVersion ∧ (name = "version" ∨ name = "V") then some .versionRequested
  else none

/-- Reads what follows two hyphens. -/
def readLong (grammar : Grammar) (reading : Reading) (body : Text) : Except UsageFault Reading :=
  let (name, value) := match Text.splitFirst "=" body with
    | some (name, value) => (name, some value)
    | none => (body, none)
  match (if name.length = 1 then none else grammar.special? name) with
  | some fault => if value.isSome then .error .surplusValue else reading.request fault
  | none =>
    match grammar.long? name, value with
    | none, _ => .error .unknownArgument
    | some parameter, some value =>
      if parameter.most = 0 then .error .surplusValue else reading.add parameter [value]
    | some parameter, none =>
      if parameter.most = 0 then reading.add parameter [] else reading.begin parameter []

/-- Reads what follows one hyphen. -/
def readShort (grammar : Grammar) (reading : Reading) : Text → Except UsageFault Reading
  | [] => .ok reading
  | c :: rest =>
    match grammar.special? [c] with
    | some fault => reading.request fault
    | none =>
      match grammar.short? c with
      | none => .error .unknownArgument
      | some parameter =>
        if parameter.most = 0 then
          match reading.add parameter [] with
          | .ok reading => readShort grammar reading rest
          | .error fault => .error fault
        else if rest.isEmpty then reading.begin parameter []
        else reading.add parameter [(Text.dropPrefix? "=" rest).getD rest]

/-- The fault of a positional argument too many. -/
def surplusFault (grammar : Grammar) (reading : Reading) (argument : Text) : UsageFault :=
  if grammar.commands.isEmpty ∨ (reading.literal ∧ argument ∈ grammar.commands) then
    .unknownArgument
  else .unknownCommand

/-- Reads a positional argument. -/
def readPositional (grammar : Grammar) (reading : Reading) (argument : Text) :
    Except UsageFault Reading :=
  match grammar.positionals[reading.position]? with
  | some parameter => do
    let reading ← reading.begin parameter [argument]
    return { reading with position := reading.position + 1 }
  | none => .error (grammar.surplusFault reading argument)

/-- Reads an argument that is no subcommand. -/
def readArgument (grammar : Grammar) (reading : Reading) (argument : Text) :
    Except UsageFault Reading :=
  if reading.literal then grammar.readPositional reading argument
  else match argument with
    | ['-', '-'] => .ok { reading with literal := true }
    | '-' :: '-' :: body => grammar.readLong reading body
    | '-' :: c :: body => grammar.readShort reading (c :: body)
    | argument =>
      if reading.wantsValue then .ok (reading.addValue argument)
      else grammar.readPositional reading argument

/-- The subcommand that asks for help on others. -/
def helpCommand : Text := "help"

/-- What the arguments behind `help` ask for. -/
def helpFault (grammar : Grammar) : List Text → UsageFault
  | [] => .helpRequested
  | [command] => if command ∈ grammar.commands then .helpRequested else .unknownCommand
  | _ => .unknownCommand

/-- Reads the arguments of a level, up to a subcommand; that is given with what follows it. -/
def read (grammar : Grammar) (reading : Reading) :
    List Text → Except UsageFault (Reading × Option (Text × List Text))
  | [] => .ok (reading, none)
  | argument :: rest =>
    if !reading.literal ∧ !reading.wantsValue ∧ argument ∈ grammar.commands then
      if argument = helpCommand then .error (grammar.helpFault rest)
      else .ok (reading, some (argument, rest))
    else
      match grammar.readArgument reading argument with
      | .ok reading => read grammar reading rest
      | .error fault => .error fault

end Grammar

end ScreenQuery.CommandLine
