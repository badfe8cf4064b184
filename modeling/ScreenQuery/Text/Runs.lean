import ScreenQuery.Text.Basic

/-!
# Sets and classifications of characters, given as runs

* `CharSet` is a set of characters, kept as the code points at which membership changes; looking a
  character up counts the changes up to it.
* `CharClasses` sorts all characters into classes, kept as the code points at which a class starts.
* Both are read from run lengths in hexadecimal, the form of the tables of the character database.
-/

namespace ScreenQuery.Text

/-- The number that a run of hexadecimal digits denotes; other characters count as zero. -/
def hexValue (digits : Text) : Nat :=
  digits.foldl (fun value c => value * 16 + (hexDigit? c).getD 0) 0

/-- The words of a text, with blanks or line breaks between them; `word` holds, reversed, what has
been read of the first. -/
def wordsFrom (word : Text) : Text → List Text
  | [] => if word.isEmpty then [] else [word.reverse]
  | c :: text =>
    if c = ' ' ∨ c = '\n' then
      if word.isEmpty then wordsFrom [] text else word.reverse :: wordsFrom [] text
    else wordsFrom (c :: word) text

/-- The words of a table. -/
def tableWords (table : String) : List Text := wordsFrom [] table.toList

/-- How many entries of the increasing array `starts` between `low` and `high` are at most `n`,
counted from the front, by halving. -/
def countUpTo (starts : Array Nat) (n low high : Nat) : Nat :=
  if low < high then
    let middle := (low + high) / 2
    if starts[middle]?.any (· ≤ n) then countUpTo starts n (middle + 1) high
    else countUpTo starts n low middle
  else low
termination_by high - low

/-- A set of characters: the code points at which membership changes, in increasing order. -/
structure CharSet where
  changes : Array Nat

/-- The ends of runs of these lengths that follow each other from `start` on. -/
def runEnds (start : Nat) : List Nat → List Nat
  | [] => []
  | length :: rest => (start + length) :: runEnds (start + length) rest

/-- The set whose runs outside and inside it alternate, with these lengths in hexadecimal. -/
def CharSet.ofRuns (runs : String) : CharSet where
  changes := (runEnds 0 ((tableWords runs).map hexValue)).toArray

/-- A character belongs to the set when membership has changed an odd number of times. -/
def CharSet.contains (set : CharSet) (c : Char) : Bool :=
  countUpTo set.changes c.toNat 0 set.changes.size % 2 == 1

/-- All characters sorted into classes: where each run of one class starts, and its class. -/
structure CharClasses where
  starts : Array Nat
  codes : Array String

/-- The pairs of neighbours in a list of even length. -/
def pairUp : List Text → List (Text × Text)
  | a :: b :: rest => (a, b) :: pairUp rest
  | _ => []

/-- The starts of runs of these lengths that follow each other from `start` on. -/
def runStarts (start : Nat) : List Nat → List Nat
  | [] => []
  | length :: rest => start :: runStarts (start + length) rest

/-- The classification whose runs have these lengths, in hexadecimal, and classes. -/
def CharClasses.ofRuns (runs : String) : CharClasses where
  starts := (runStarts 0 ((pairUp (tableWords runs)).map fun run => hexValue run.1)).toArray
  codes := ((pairUp (tableWords runs)).map fun run => String.ofList run.2).toArray

/-- The class of the run that a character lies in. -/
def CharClasses.classOf (classes : CharClasses) (c : Char) : String :=
  (classes.codes[countUpTo classes.starts c.toNat 0 classes.starts.size - 1]?).getD ""

end ScreenQuery.Text
