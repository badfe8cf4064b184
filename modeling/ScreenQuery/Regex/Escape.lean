import ScreenQuery.Regex.Pattern

/-!
# Flags and escapes of patterns

* `Flags` are the switches that a pattern can set for what follows: case, lines, dots, blanks and
  the reach of the classes.
* `readEscape` reads what stands after a backslash: a character, a class or a condition. Letters and
  digits have a meaning or are refused; other ASCII characters stand for themselves.
* References to groups, and looking around, are refused: a pattern is matched in one pass.

Out of scope: the words in which a pattern is refused, but for the two limits on its size.
-/

namespace ScreenQuery.Regex

/-- Why a pattern is refused. -/
inductive Fault
  | unclosedGroup
  | unopenedGroup
  | badGroupName
  | repeatedGroupName
  | lookAround
  | badFlag
  | missingOperand
  | badRepetition
  | unclosedClass
  | badRange
  | badClassItem
  | unknownProperty
  | badEscape
  | backReference
  | badCodePoint
  | outsideUtf8
  | tooDeep
  | tooLarge
  deriving DecidableEq

/-- The wording of a fault. -/
def Fault.message : Fault → Text
  | unclosedGroup => "unclosed group"
  | unopenedGroup => "unopened group"
  | badGroupName => "invalid capture group name"
  | repeatedGroupName => "duplicate capture group name"
  | lookAround => "look-around is not supported"
  | badFlag => "invalid flags"
  | missingOperand => "repetition operator missing expression"
  | badRepetition => "invalid repetition count"
  | unclosedClass => "unclosed character class"
  | badRange => "invalid character class range"
  | badClassItem => "invalid item in character class"
  | unknownProperty => "unknown property or class"
  | badEscape => "unrecognized escape sequence"
  | backReference => "backreferences are not supported"
  | badCodePoint => "invalid hexadecimal code point"
  | outsideUtf8 => "pattern can match invalid UTF-8"
  | tooDeep => "pattern is nested too deeply"
  | tooLarge => "pattern exceeds the size limit"

/-- The switches of a pattern. -/
structure Flags where
  ignoreCase : Bool
  multiLine : Bool
  dotAll : Bool
  swapGreed : Bool
  ascii : Bool
  anyLineEnd : Bool
  verbose : Bool
  deriving DecidableEq

/-- The switches at the start of a pattern. -/
def Flags.initial : Flags := ⟨false, false, false, false, false, false, false⟩

/-- The flags with the one of a letter switched on or off. -/
def Flags.set? (flags : Flags) (on : Bool) : Char → Option Flags
  | 'i' => some { flags with ignoreCase := on }
  | 'm' => some { flags with multiLine := on }
  | 's' => some { flags with dotAll := on }
  | 'U' => some { flags with swapGreed := on }
  | 'u' => some { flags with ascii := !on }
  | 'R' => some { flags with anyLineEnd := on }
  | 'x' => some { flags with verbose := on }
  | _ => none

/-- A class closed under case when the flags ask for it. -/
def Flags.fold (flags : Flags) (a : CharClass) : CharClass :=
  if !flags.ignoreCase then a else if flags.ascii then .anyAsciiCase a else .anyCase a

/-- The text without the blanks and comments at its front; `inComment` says whether a comment is
open. A comment ends with its line. -/
def skipVerbose (inComment : Bool) : Text → Text
  | [] => []
  | c :: rest =>
    if inComment then skipVerbose (c != '\n') rest
    else if Text.isBlank c then skipVerbose false rest
    else if c = '#' then skipVerbose true rest
    else c :: rest

/-- The text without what the flags allow to be passed over at its front. -/
def Flags.skip (flags : Flags) (text : Text) : Text :=
  if flags.verbose then skipVerbose false text else text

/-- What an escape denotes. -/
inductive Atom
  | char (c : Char)
  | chars (characters : CharClass)
  | condition (condition : Condition)

/-- Characters that have a meaning in patterns. -/
def metaCharacters : List Char := "\\.+*?()|[]\x7b\x7d^$#&-~".toList

/-- Characters that stand for themselves after a backslash. -/
def escapesItself (c : Char) : Bool :=
  metaCharacters.contains c ||
    (c.toNat < 0x80 && !Char.isAlphanum c && c != '<' && c != '>')

/-- The character with a code in hexadecimal digits. -/
def codePoint? (digits : Text) : Option Char :=
  if digits.isEmpty || !digits.all Text.isHexDigit then none
  else
    let n := digits.foldl (fun n c => n * 16 + (Text.hexDigit? c).getD 0) 0
    if n.isValidChar then some (Char.ofNat n) else none

/-- The characters up to a closing brace, and what follows it. If `verbose` is set, blanks and
comments among them are passed over; `inComment` says whether a comment is open. -/
def readBraced (verbose inComment : Bool) : Text → Option (Text × Text)
  | [] => none
  | c :: rest =>
    if inComment then readBraced verbose (c != '\n') rest
    else if verbose && (Text.isBlank c || c == '#') then readBraced verbose (c == '#') rest
    else if c = '\x7d' then some ([], rest)
    else (readBraced verbose false rest).map fun (content, rest) => (c :: content, rest)

/-- The next `count` characters, with blanks and comments passed over as in `readBraced`. -/
def readExactly (verbose inComment : Bool) : (count : Nat) → Text → Option (Text × Text)
  | 0, text => some ([], text)
  | _ + 1, [] => none
  | count + 1, c :: rest =>
    if inComment then readExactly verbose (c != '\n') (count + 1) rest
    else if verbose && (Text.isBlank c || c == '#') then
      readExactly verbose (c == '#') (count + 1) rest
    else (readExactly verbose false count rest).map fun (digits, rest) => (c :: digits, rest)

/-- A character by its code: `width` digits, or digits between braces. -/
def readCode (flags : Flags) (width : Nat) (text : Text) : Except Fault (Atom × Text) :=
  let digits := match flags.skip text with
    | '\x7b' :: rest => readBraced flags.verbose false rest
    | text => readExactly flags.verbose false width text
  match digits.bind fun (digits, rest) => (codePoint? digits).map fun c => (c, rest) with
  | some (c, rest) => .ok (.char c, rest)
  | none => .error .badCodePoint

/-- True for what follows the backslash of a code in two digits, which counts a byte where patterns
are limited to ASCII. -/
def countsByte (flags : Flags) : Text → Bool
  | 'x' :: rest => (flags.skip rest).head? != some '\x7b'
  | _ => false

/-- True for a character that ASCII lacks. -/
def Atom.exceedsAscii : Atom → Bool
  | .char c => 0x80 ≤ c.toNat
  | _ => false

/-- The class of a property, as it is written between braces, and whether its complement is
meant. -/
def propertyClass? (content : Text) : Option (CharClass × Bool) :=
  match Text.splitFirst "!=" content with
  | some (name, value) => (CharClass.propertyValue? name value).map fun a => (a, true)
  | none =>
    let found := match Text.splitFirst ":" content <|> Text.splitFirst "=" content with
      | some (name, value) => CharClass.propertyValue? name value
      | none => CharClass.property? content
    found.map fun a => (a, false)

/-- A property: one letter, or a name between braces. -/
def readProperty (flags : Flags) (negated : Bool) (text : Text) : Except Fault (Atom × Text) :=
  let content := match flags.skip text with
    | '\x7b' :: rest => readBraced flags.verbose false rest
    | '\\' :: _ => none
    | c :: rest => some ([c], rest)
    | [] => none
  match content with
  | none => .error .badEscape
  | some (content, rest) =>
    if flags.ascii then .error .outsideUtf8
    else match propertyClass? content with
      | none => .error .unknownProperty
      | some (a, other) => .ok (.chars (.negateIf (negated != other) (flags.fold a)), rest)

/-- The class of a letter that stands for digits, blanks or words, or their complement. -/
def letterClass? (flags : Flags) : Char → Option CharClass
  | 'd' => some (if flags.ascii then .asciiDigit else .digit)
  | 's' => some (if flags.ascii then .asciiBlank else .blank)
  | 'w' => some (if flags.ascii then .asciiWord else .word)
  | _ => none

/-- Names of conditions on words, between braces after `\b`. -/
def wordCondition? (name : Text) : Option Condition :=
  if name = "start" then some .wordStart
  else if name = "end" then some .wordEnd
  else if name = "start-half" then some .beforeWord
  else if name = "end-half" then some .afterWord
  else none

/-- What follows `\b`: a condition between braces, or nothing that belongs to it. -/
def readBoundary (text : Text) : Except Fault (Atom × Text) :=
  let isNamePart := fun (c : Char) => c.isAlpha || c == '-'
  match text with
  | ['\x7b'] => .error .badEscape
  | '\x7b' :: c :: rest =>
    if isNamePart c then
      match (c :: rest).dropWhile isNamePart with
      | '\x7d' :: rest' =>
        match wordCondition? ((c :: rest).takeWhile isNamePart) with
        | some condition => .ok (.condition condition, rest')
        | none => .error .badEscape
      | _ => .error .badEscape
    else .ok (.condition .wordBoundary, text)
  | _ => .ok (.condition .wordBoundary, text)

/-- What stands after a backslash. -/
def readEscape (flags : Flags) : Text → Except Fault (Atom × Text)
  | [] => .error .badEscape
  | c :: rest =>
    if Text.isDigit c then .error .backReference
    else if escapesItself c then .ok (.char c, rest)
    else match letterClass? flags c, letterClass? flags (Text.asciiLower c) with
      | some a, _ => .ok (.chars a, rest)
      | none, some a =>
        if flags.ascii then .error .outsideUtf8 else .ok (.chars (.complement a), rest)
      | none, none =>
        match c with
        | 'x' => readCode flags 2 rest
        | 'u' => readCode flags 4 rest
        | 'U' => readCode flags 8 rest
        | 'p' => readProperty flags false rest
        | 'P' => readProperty flags true rest
        | 'a' => .ok (.char '\x07', rest)
        | 'f' => .ok (.char '\x0c', rest)
        | 't' => .ok (.char '\t', rest)
        | 'n' => .ok (.char '\n', rest)
        | 'r' => .ok (.char '\r', rest)
        | 'v' => .ok (.char '\x0b', rest)
        | 'A' => .ok (.condition .textStart, rest)
        | 'z' => .ok (.condition .textEnd, rest)
        | 'b' => readBoundary rest
        | 'B' => .ok (.condition .noWordBoundary, rest)
        | '<' => .ok (.condition .wordStart, rest)
        | '>' => .ok (.condition .wordEnd, rest)
        | _ => .error .badEscape

end ScreenQuery.Regex
