import ScreenQuery.Text.Property
import ScreenQuery.Text.CasingTable

/-!
# Case of letters

* `lowercase` is the full lower case of a text. Two characters need more than a look at themselves:
  the capital I with dot becomes two characters, and a capital sigma at the end of a word becomes
  the final sigma.
* `caseVariants` are the characters with the same simple case folding.

`lowercase` is `to_lowercase`. Out of scope: the rules of single languages.
-/

namespace ScreenQuery.Text

/-- A run of code points that a case mapping shifts by the same distance. -/
structure CaseRange where
  first : Nat
  last : Nat
  step : Nat
  target : Nat

/-- The groups of four in a list of numbers. -/
def caseRanges : List Text → List CaseRange
  | a :: b :: c :: d :: rest =>
    ⟨hexValue a, hexValue b, hexValue c, hexValue d⟩ :: caseRanges rest
  | _ => []

/-- The ranges of the lower case mapping. -/
def lowerRanges : List CaseRange := caseRanges (tableWords lowerTable)

/-- The ranges of simple case folding. -/
def foldRanges : List CaseRange := caseRanges (tableWords foldTable)

/-- The image of a code point in a range that covers it. -/
def CaseRange.image? (range : CaseRange) (n : Nat) : Option Nat :=
  if range.first ≤ n ∧ n ≤ range.last ∧ (n - range.first) % range.step = 0 then
    some (range.target + (n - range.first))
  else none

/-- The code point in a range whose image is the given one. -/
def CaseRange.preimage? (range : CaseRange) (n : Nat) : Option Nat :=
  if range.target ≤ n ∧ n - range.target ≤ range.last - range.first ∧
      (n - range.target) % range.step = 0 then
    some (range.first + (n - range.target))
  else none

/-- The image of a character under the mapping that some ranges describe. -/
def mapCase (ranges : List CaseRange) (c : Char) : Char :=
  match ranges.findSome? fun range => range.image? c.toNat with
  | some n => Char.ofNat n
  | none => c

/-- The lower case of a character, looked at by itself. -/
def lowerChar (c : Char) : Char :=
  if c.toNat < 0x80 then asciiLower c else mapCase lowerRanges c

/-- True when the first character that is not case-ignorable exists and is cased. -/
def reachesCased (text : Text) : Bool :=
  match text.dropWhile caseIgnorable.contains with
  | c :: _ => cased.contains c
  | [] => false

/-- The lower case of `c` between the text before it, reversed, and the text after it. -/
def lowerInContext (before after : Text) (c : Char) : Text :=
  if c = 'İ' then ['i', '\u0307']
  else if c = 'Σ' then
    if reachesCased before && !reachesCased after then ['ς'] else ['σ']
  else [lowerChar c]

/-- The work of `lowercase`: what is done, reversed, and what has been read, reversed. -/
def lowercaseFrom (done before : Text) : Text → Text
  | [] => done.reverse
  | c :: after =>
    lowercaseFrom ((lowerInContext before after c).reverse ++ done) (c :: before) after

/-- The full lower case of a text. -/
def lowercase (text : Text) : Text := lowercaseFrom [] [] text

/-- The simple case folding of a character. -/
def foldCase (c : Char) : Char := mapCase foldRanges c

/-- The characters with the same simple case folding as `c`, itself among them. -/
def caseVariants (c : Char) : List Char :=
  let folded := foldCase c
  folded :: foldRanges.filterMap fun range => (range.preimage? folded.toNat).map Char.ofNat

end ScreenQuery.Text
