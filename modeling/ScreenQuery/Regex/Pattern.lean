import ScreenQuery.Regex.CharClass

/-!
# Patterns and matching

* A `Pattern` is a regular expression over classes of characters, with conditions on the place
  between two characters.
* `Marked` is a pattern in which the classes that have just read a character carry a mark.
  `Marked.shift` reads one more character: every class that can come next after a mark, or first,
  and contains the character, is marked. The size of the pattern never changes, so reading a text
  takes time in proportion to its length.
* `occursIn` says whether some part of a text matches.
-/

namespace ScreenQuery.Regex

/-- A condition on the place between two characters. -/
inductive Condition
  | textStart
  | textEnd
  | lineStart
  | lineEnd
  | anyLineStart
  | anyLineEnd
  | wordBoundary
  | noWordBoundary
  | wordStart
  | wordEnd
  | beforeWord
  | afterWord
  deriving DecidableEq

/-- A place in a text: the characters on its left and on its right. -/
structure Place where
  left : Option Char
  right : Option Char

/-- Whether a condition holds at a place, given the characters that words are made of. -/
def Condition.holds (condition : Condition) (isWord : Char → Bool) (place : Place) : Bool :=
  let left := place.left.any isWord
  let right := place.right.any isWord
  match condition with
  | .textStart => place.left.isNone
  | .textEnd => place.right.isNone
  | .lineStart => place.left.all fun c => c == '\n'
  | .lineEnd => place.right.all fun c => c == '\n'
  | .anyLineStart =>
    place.left.all fun c => c == '\n' || (c == '\r' && place.right != some '\n')
  | .anyLineEnd =>
    place.right.all fun c => c == '\r' || (c == '\n' && place.left != some '\r')
  | .wordBoundary => left != right
  | .noWordBoundary => left == right
  | .wordStart => !left && right
  | .wordEnd => left && !right
  | .beforeWord => !left
  | .afterWord => !right

/-- A regular expression. `atMost` bounds a repetition; without it there is no bound. -/
inductive Pattern
  | empty
  | check (condition : Condition) (ascii : Bool)
  | chars (characters : CharClass)
  | sequence (a b : Pattern)
  | choice (a b : Pattern)
  | repeated (a : Pattern) (atLeast : Nat) (atMost : Option Nat)

/-- The size of a pattern when its repetitions are written out; a class counts as its ranges. -/
def Pattern.size : Pattern → Nat
  | .empty => 1
  | .check .. => 1
  | .chars characters => characters.weight
  | .sequence a b => a.size + b.size + 1
  | .choice a b => a.size + b.size + 1
  | .repeated a atLeast atMost => (a.size + 2) * ((atMost.getD (atLeast + 1)).max 1)

/-- A pattern in which the classes that have just read a character are marked. -/
inductive Marked
  | empty
  | check (condition : Condition) (ascii : Bool)
  | chars (marked : Bool) (characters : CharClass)
  | sequence (a b : Marked)
  | choice (a b : Marked)
  | many (a : Marked)

namespace Marked

/-- As many as `n` copies of a pattern in a row, each of them only after the one before. -/
def upTo (a : Marked) : Nat → Marked
  | 0 => .empty
  | n + 1 => .choice .empty (.sequence a (upTo a n))

/-- Exactly `n` copies of a pattern in a row, and then `last`. -/
def copies (a last : Marked) : Nat → Marked
  | 0 => last
  | n + 1 => .sequence a (copies a last n)

/-- A pattern with its repetitions written out and no marks. -/
def ofPattern : Pattern → Marked
  | .empty => .empty
  | .check condition ascii => .check condition ascii
  | .chars characters => .chars false characters
  | .sequence a b => .sequence (ofPattern a) (ofPattern b)
  | .choice a b => .choice (ofPattern a) (ofPattern b)
  | .repeated a atLeast atMost =>
    let last := match atMost with
      | none => .many (ofPattern a)
      | some atMost => upTo (ofPattern a) (atMost - atLeast)
    copies (ofPattern a) last atLeast

/-- The characters that words are made of, in ASCII or everywhere. -/
def isWord (ascii : Bool) (c : Char) : Bool :=
  if ascii then CharClass.asciiWord.contains c else CharClass.word.contains c

/-- True when the pattern matches the empty text at a place. -/
def isEmptyAt (place : Place) : Marked → Bool
  | .empty => true
  | .check condition ascii => condition.holds (isWord ascii) place
  | .chars .. => false
  | .sequence a b => a.isEmptyAt place && b.isEmptyAt place
  | .choice a b => a.isEmptyAt place || b.isEmptyAt place
  | .many _ => true

/-- True when a mark stands where the pattern can end at a place. -/
def isFinalAt (place : Place) : Marked → Bool
  | .empty => false
  | .check .. => false
  | .chars marked _ => marked
  | .sequence a b => (a.isFinalAt place && b.isEmptyAt place) || b.isFinalAt place
  | .choice a b => a.isFinalAt place || b.isFinalAt place
  | .many a => a.isFinalAt place

/-- The pattern after reading `c` at a place; `enter` says whether a match may start there. -/
def shift (place : Place) (c : Char) : (enter : Bool) → Marked → Marked
  | _, .empty => .empty
  | _, .check condition ascii => .check condition ascii
  | enter, .chars _ characters => .chars (enter && characters.contains c) characters
  | enter, .sequence a b =>
    let next := (enter && a.isEmptyAt place) || a.isFinalAt place
    .sequence (a.shift place c enter) (b.shift place c next)
  | enter, .choice a b => .choice (a.shift place c enter) (b.shift place c enter)
  | enter, .many a => .many (a.shift place c (enter || a.isFinalAt place))

/-- True when the pattern matches somewhere in the rest of a text, or a match that the marks stand
for ends in it. -/
def occursFrom (pattern : Marked) (left : Option Char) : Text → Bool
  | [] => pattern.isEmptyAt ⟨left, none⟩ || pattern.isFinalAt ⟨left, none⟩
  | c :: rest =>
    let place : Place := ⟨left, some c⟩
    pattern.isEmptyAt place || pattern.isFinalAt place ||
      occursFrom (pattern.shift place c true) (some c) rest

end Marked

/-- True when some part of a text matches the pattern. -/
def Pattern.occursIn (pattern : Pattern) (text : Text) : Bool :=
  (Marked.ofPattern pattern).occursFrom none text

end ScreenQuery.Regex
