import ScreenQuery.Json.Number

/-!
# Tokens of JSON texts

* `Token.readAll` cuts a text into brackets, marks, words, numbers and strings, with blanks between
  them; a text that cannot be cut has no tokens.
* A string or number may be well formed and yet denote nothing: half of a surrogate pair, or a
  number beyond the range of floats. Its token says so and leaves it to the reader whether that
  matters.

Out of scope: where in the text a fault is, and its wording.
-/

namespace ScreenQuery.Json

/-- A token. -/
inductive Token
  | openArray | closeArray | openObject | closeObject | comma | colon
  | word (name : Text)
  | number (value : Option Number)
  | string (value : Option Text)

/-- Blanks of JSON: space, tab, line feed and carriage return. -/
def isBlank (c : Char) : Bool := c == ' ' || c == '\t' || c == '\n' || c == '\r'

/-! ## Strings -/

/-- What a string is made of: characters, and halves of surrogate pairs by their code. -/
inductive Piece
  | char (c : Char)
  | half (code : Nat)

/-- The character that an escape by one letter denotes. -/
def letterEscape? : Char → Option Char
  | '"' => some '"'
  | '\\' => some '\\'
  | '/' => some '/'
  | 'b' => some '\x08'
  | 'f' => some '\x0c'
  | 'n' => some '\n'
  | 'r' => some '\r'
  | 't' => some '\t'
  | _ => none

/-- The piece that an escape by four hexadecimal digits denotes. -/
def codeEscape? (a b c d : Char) : Option Piece := do
  let a ← Text.hexDigit? a
  let b ← Text.hexDigit? b
  let c ← Text.hexDigit? c
  let d ← Text.hexDigit? d
  let code := ((a * 16 + b) * 16 + c) * 16 + d
  if 0xd800 ≤ code ∧ code ≤ 0xdfff then return .half code else return .char (Char.ofNat code)

/-- The rest of a string: its pieces, reversed, up to the closing quote, and what follows it. -/
def stringRest (pieces : List Piece) : Text → Option (List Piece × Text)
  | '"' :: rest => some (pieces, rest)
  | '\\' :: 'u' :: a :: b :: c :: d :: rest =>
    match codeEscape? a b c d with
    | some piece => stringRest (piece :: pieces) rest
    | none => none
  | '\\' :: c :: rest =>
    match letterEscape? c with
    | some c => stringRest (.char c :: pieces) rest
    | none => none
  | c :: rest => if c.toNat < 0x20 then none else stringRest (.char c :: pieces) rest
  | [] => none

/-- The text of reversed pieces: a high half with the low half after it makes one character, and
no other half may occur. -/
def joinPieces (text : Text) : List Piece → Option Text
  | [] => some text
  | .char c :: rest => joinPieces (c :: text) rest
  | .half low :: .half high :: rest =>
    if 0xdc00 ≤ low ∧ high < 0xdc00 then
      joinPieces (Char.ofNat (0x10000 + (high - 0xd800) * 0x400 + (low - 0xdc00)) :: text) rest
    else none
  | .half _ :: _ => none

/-! ## Numbers -/

/-- The digits at the front of a text and what follows them. -/
def spanDigits (text : Text) : Text × Text :=
  (text.takeWhile Text.isDigit, text.dropWhile Text.isDigit)

/-- The whole part of a number: a zero, or digits that start with another one. -/
def wholePart? (text : Text) : Option (Text × Text) :=
  match spanDigits text with
  | ([], _) => none
  | ('0' :: digit :: digits, rest) => some (['0'], digit :: digits ++ rest)
  | parts => some parts

/-- The fraction of a number, if a point follows. -/
def fractionPart? : Text → Option (Option Text × Text)
  | '.' :: text =>
    match spanDigits text with
    | ([], _) => none
    | (digits, rest) => some (some digits, rest)
  | text => some (none, text)

/-- The exponent of a number, if its letter follows. -/
def exponentPart? : Text → Option (Option (Bool × Text) × Text)
  | letter :: text =>
    if letter = 'e' ∨ letter = 'E' then
      let (negative, text) := match text with
        | '+' :: rest => (false, rest)
        | '-' :: rest => (true, rest)
        | _ => (false, text)
      match spanDigits text with
      | ([], _) => none
      | (digits, rest) => some (some (negative, digits), rest)
    else some (none, letter :: text)
  | [] => some (none, [])

/-- The number at the front of a text. -/
def numberToken? (text : Text) : Option (Token × Text) := do
  let (negative, text) := match text with
    | '-' :: rest => (true, rest)
    | _ => (false, text)
  let (whole, text) ← wholePart? text
  let (fraction, text) ← fractionPart? text
  let (exponent, text) ← exponentPart? text
  return (.number (Number.ofSpelling? ⟨negative, whole, fraction, exponent⟩), text)

/-! ## All tokens -/

/-- The token that a character starts, and what follows it. -/
def Token.read? (c : Char) (rest : Text) : Option (Token × Text) :=
  match c with
  | '[' => some (.openArray, rest)
  | ']' => some (.closeArray, rest)
  | '\x7b' => some (.openObject, rest)
  | '\x7d' => some (.closeObject, rest)
  | ',' => some (.comma, rest)
  | ':' => some (.colon, rest)
  | '"' => (stringRest [] rest).map fun (pieces, rest) => (.string (joinPieces [] pieces), rest)
  | _ =>
    if c = '-' ∨ Text.isDigit c then numberToken? (c :: rest)
    else
      let name := (c :: rest).takeWhile Char.isAlpha
      if name.isEmpty then none else some (.word name, (c :: rest).drop name.length)

/-- The work of `readAll`, for a text of at most `bound` characters. -/
def Token.readFrom (tokens : List Token) : (bound : Nat) → Text → Option (List Token)
  | _, [] => some tokens.reverse
  | 0, _ :: _ => none
  | bound + 1, c :: rest =>
    if isBlank c then Token.readFrom tokens bound rest
    else match Token.read? c rest with
      | some (token, rest) => Token.readFrom (token :: tokens) bound rest
      | none => none

/-- The tokens of a text. -/
def Token.readAll (text : Text) : Option (List Token) := Token.readFrom [] text.length text

end ScreenQuery.Json
