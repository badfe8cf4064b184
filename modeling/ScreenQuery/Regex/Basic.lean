import ScreenQuery.Regex.Class
import ScreenQuery.Text.Numeral

/-!
# Regular expressions

* `Regex.compile` reads the source of a pattern; what does not follow its rules is a `Fault`.
* A group that is not yet complete waits in a list of levels, innermost first. Flags that a group
  sets end with it.
* `Regex.isMatch` says whether the pattern occurs anywhere in a text.

`Regex.compile` and `Regex.isMatch` are what `regex` and `matches_str` of `Matcher` need of a
pattern. Out of scope: where a match lies and what its groups hold.
-/

namespace ScreenQuery

namespace Regex

/-- A pattern that has been read, and how deeply groups, classes, repetitions, sequences and choices
are nested in it. -/
structure Nested where
  pattern : Pattern
  depth : Nat

/-- A part of a branch: a pattern, or a setting of flags, which cannot be repeated. -/
inductive Item
  | piece (nested : Nested)
  | setting

/-- How deeply a part is nested. -/
def Item.depth : Item → Nat
  | piece nested => nested.depth
  | setting => 0

/-- A group that is being read: the flags to return to, the finished branches and the current one,
both reversed. -/
structure Level where
  outerFlags : Flags
  branches : List Nested
  items : List Item

/-- What is being read: the levels around the current one, innermost first, the current one, the
flags in force and the names of the groups so far. -/
structure State where
  outer : List Level
  level : Level
  flags : Flags
  names : List Text

/-- The state at the start of a pattern. -/
def State.start : State := ⟨[], ⟨.initial, [], []⟩, .initial, []⟩

/-- The pattern of a finished branch. -/
def branchPattern (items : List Item) : Pattern :=
  items.foldl (fun pattern item => match item, pattern with
    | .piece a, .empty => a.pattern
    | .piece a, b => .sequence a.pattern b
    | .setting, b => b) .empty

/-- A finished branch. -/
def branchOf (items : List Item) : Nested :=
  let depth := items.foldl (fun depth item => max depth item.depth) 0
  ⟨branchPattern items, if items.length ≤ 1 then depth else depth + 1⟩

/-- The pattern of a level that ends. -/
def Level.close (level : Level) : Nested :=
  let last := branchOf level.items
  let pattern := level.branches.foldl (fun later earlier => .choice earlier.pattern later)
    last.pattern
  let depth := level.branches.foldl (fun depth branch => max depth branch.depth) last.depth
  ⟨pattern, if level.branches.isEmpty then depth else depth + 1⟩

/-- The state with one more item in the current branch. -/
def State.add (state : State) (item : Item) : State :=
  { state with level := { state.level with items := item :: state.level.items } }

/-- The state with one more pattern in the current branch. -/
def State.addPiece (state : State) (pattern : Pattern) (depth : Nat) : State :=
  state.add (.piece ⟨pattern, depth⟩)

/-- The pattern of what a character or an escape denotes. -/
def atomPattern (flags : Flags) : Atom → Pattern
  | .char c => .chars (flags.fold (.single c))
  | .chars a => .chars a
  | .condition condition => .check condition flags.ascii

/-- The pattern of a dot. -/
def dotClass (flags : Flags) : CharClass :=
  if flags.dotAll then .any
  else if flags.anyLineEnd then .complement (.union (.single '\n') (.single '\r'))
  else .complement (.single '\n')

/-- The condition of a caret. -/
def caretCondition (flags : Flags) : Condition :=
  if !flags.multiLine then .textStart
  else if flags.anyLineEnd then .anyLineStart
  else .lineStart

/-- The condition of a dollar sign. -/
def dollarCondition (flags : Flags) : Condition :=
  if !flags.multiLine then .textEnd else if flags.anyLineEnd then .anyLineEnd else .lineEnd

/-! ## Groups -/

/-- The flags between a question mark and a colon or parenthesis: their letters, a hyphen before
those that are switched off. The answer holds the flags, the letters seen and the rest. -/
def readFlags (flags : Flags) (seen : List Char) (on : Bool) :
    Text → Except Fault (Flags × List Char × Text)
  | [] => .error .badFlag
  | c :: rest =>
    if c = ':' ∨ c = ')' then
      if seen.head? = some '-' then .error .badFlag else .ok (flags, seen, c :: rest)
    else if seen.contains c then .error .badFlag
    else if c = '-' then readFlags flags ('-' :: seen) false rest
    else match flags.set? on c with
      | some flags => readFlags flags (c :: seen) on rest
      | none => .error .badFlag

/-- True for a character that a group name can start with. -/
def startsName (c : Char) : Bool := c == '_' || Text.alphabetic.contains c

/-- True for a character of a group name after the first. -/
def continuesName (c : Char) : Bool :=
  startsName c || c == '.' || c == '[' || c == ']' ||
    ["Nd", "Nl", "No"].contains (Text.generalCategory c)

/-- The state inside a new group. -/
def State.push (state : State) (flags : Flags) : State :=
  { state with
    outer := state.level :: state.outer
    level := ⟨state.flags, [], []⟩
    flags := flags }

/-- A named group after the opening angle. -/
def openNamed (state : State) (text : Text) : Except Fault (State × Text) :=
  match Text.splitFirst ">" text with
  | none => .error .badGroupName
  | some (name, rest) =>
    if !(name.head?.any startsName && name.all continuesName) then .error .badGroupName
    else if state.names.contains name then .error .repeatedGroupName
    else .ok ({ state.push state.flags with names := name :: state.names }, rest)

/-- What follows an opening parenthesis. -/
def openGroup (state : State) (text : Text) : Except Fault (State × Text) :=
  match state.flags.skip text with
  | '?' :: '=' :: _ => .error .lookAround
  | '?' :: '!' :: _ => .error .lookAround
  | '?' :: '<' :: '=' :: _ => .error .lookAround
  | '?' :: '<' :: '!' :: _ => .error .lookAround
  | '?' :: 'P' :: '<' :: rest => openNamed state rest
  | '?' :: '<' :: rest => openNamed state rest
  | '?' :: rest => do
    let (flags, seen, rest) ← readFlags state.flags [] true (state.flags.skip rest)
    match rest with
    | ')' :: rest =>
      if seen.isEmpty then throw .missingOperand
      else return ({ state.add .setting with flags := flags }, rest)
    | rest => return (state.push flags, rest.drop 1)
  | rest => .ok (state.push state.flags, rest)

/-- The state after a closing parenthesis. -/
def State.closeGroup (state : State) : Except Fault State :=
  match state.outer with
  | [] => .error .unopenedGroup
  | level :: outer =>
    let group := state.level.close
    .ok ({ state with
      outer := outer
      level := level
      flags := state.level.outerFlags }.addPiece group.pattern (group.depth + 1))

/-- The state after a bar. -/
def State.alternate (state : State) : State :=
  { state with level := { state.level with
      branches := branchOf state.level.items :: state.level.branches
      items := [] } }

/-! ## Repetitions -/

/-- A count, with blanks allowed around it; nothing when there are no digits. -/
def readCount (text : Text) : Except Fault (Option Nat × Text) :=
  let text := text.dropWhile Text.isBlank
  let digits := text.takeWhile Text.isDigit
  let rest := (text.drop digits.length).dropWhile Text.isBlank
  if digits.isEmpty then .ok (none, rest)
  else match Text.natUpTo? (UInt32.size - 1) digits with
    | some n => .ok (some n, rest)
    | none => .error .badRepetition

/-- The bounds between braces, after the opening brace. -/
def readBounds (flags : Flags) (text : Text) : Except Fault (Nat × Option Nat × Text) := do
  let (atLeast, rest) ← readCount (flags.skip text)
  let some atLeast := atLeast | throw .badRepetition
  match rest with
  | '\x7d' :: rest => return (atLeast, some atLeast, rest)
  | ',' :: rest =>
    match flags.skip rest with
    | '\x7d' :: rest => return (atLeast, none, rest)
    | rest =>
      let (atMost, rest) ← readCount rest
      let some atMost := atMost | throw .badRepetition
      match rest with
      | '\x7d' :: rest =>
        if atLeast ≤ atMost then return (atLeast, some atMost, rest) else throw .badRepetition
      | _ => throw .badRepetition
  | _ => throw .badRepetition

/-- The state in which the last piece of the branch is repeated. A question mark behind the sign
changes which match is preferred, and so nothing here. -/
def State.repeatLast (state : State) (atLeast : Nat) (atMost : Option Nat) (rest : Text) :
    Except Fault (State × Text) :=
  match state.level.items with
  | .piece a :: items =>
    let items := .piece ⟨.repeated a.pattern atLeast atMost, a.depth + 1⟩ :: items
    let rest := match rest with
      | '?' :: rest => rest
      | _ => rest
    .ok ({ state with level := { state.level with items := items } }, rest)
  | _ => .error .missingOperand

/-! ## Patterns -/

/-- The state after the construct that starts with `c`, and what follows it. -/
def State.step (state : State) (c : Char) (rest : Text) : Except Fault (State × Text) :=
  match c with
  | '(' => openGroup state rest
  | ')' => do return (← state.closeGroup, rest)
  | '|' => .ok (state.alternate, rest)
  | '[' => do
    let (a, rest) ← Class.read state.flags rest
    return (state.addPiece (.chars a) 1, rest)
  | '*' => state.repeatLast 0 none rest
  | '+' => state.repeatLast 1 none rest
  | '?' => state.repeatLast 0 (some 1) rest
  | '\x7b' =>
    match state.level.items with
    | .piece _ :: _ => do
      let (atLeast, atMost, rest) ← readBounds state.flags rest
      state.repeatLast atLeast atMost rest
    | _ => .error .missingOperand
  | '\\' => do
    let (atom, after) ← readEscape state.flags rest
    if state.flags.ascii && atom.exceedsAscii && countsByte state.flags rest then throw .outsideUtf8
    else return (state.addPiece (atomPattern state.flags atom) 0, after)
  | '.' =>
    if state.flags.ascii then .error .outsideUtf8
    else .ok (state.addPiece (.chars (dotClass state.flags)) 0, rest)
  | '^' => .ok (state.addPiece (.check (caretCondition state.flags) false) 0, rest)
  | '$' => .ok (state.addPiece (.check (dollarCondition state.flags) false) 0, rest)
  | c => .ok (state.addPiece (atomPattern state.flags (.char c)) 0, rest)

/-- The work of `readPattern`, for a text of at most `bound` characters. -/
def readFrom (state : State) : (bound : Nat) → Text → Except Fault Nested
  | bound, text =>
    match state.flags.skip text with
    | [] => if state.outer.isEmpty then .ok state.level.close else .error .unclosedGroup
    | c :: rest =>
      match bound with
      | 0 => .error .unclosedGroup
      | bound + 1 =>
        match state.step c rest with
        | .error fault => .error fault
        | .ok (state, rest) => readFrom state bound rest

/-- The pattern of a source text. -/
def readPattern (source : Text) : Except Fault Nested := readFrom .start source.length source

/-- The greatest depth of a pattern. -/
def depthLimit : Nat := 250

/-- The largest size of a pattern with its repetitions written out. -/
def sizeLimit : Nat := 300000

end Regex

/-- A regular expression with its source. -/
structure Regex where
  source : Text
  pattern : Regex.Pattern

namespace Regex

/-- The regular expression of a source text. -/
def compile (source : Text) : Except Fault Regex := do
  let ⟨pattern, depth⟩ ← readPattern source
  if depthLimit < depth then throw .tooDeep
  else if sizeLimit < pattern.size then throw .tooLarge
  else return ⟨source, pattern⟩

/-- True when the pattern occurs in a text. -/
def isMatch (regex : Regex) (text : Text) : Bool := regex.pattern.occursIn text

end Regex

end ScreenQuery
