import ScreenQuery.Text.Casing
import ScreenQuery.Text.Blank

/-!
# Classes of characters in patterns

* A `CharClass` is built from ranges and properties of the character database by union,
  intersection, difference and complement; `contains` reads membership off its structure.
* `anyCase` closes a class under case: a character belongs to it when one of its case variants
  belongs to the class.
* `property?` finds the class that a property name stands for. Case, blanks, hyphens and underscores
  in a name do not matter, nor does a leading `is`.

Out of scope: classes of bytes; texts are made of characters.
-/

namespace ScreenQuery.Regex

/-- A class of characters. -/
inductive CharClass
  | nothing
  | range (low high : Char)
  | set (characters : Text.CharSet)
  | category (codes : List String)
  | script (code : String)
  | blank
  | union (a b : CharClass)
  | intersection (a b : CharClass)
  | difference (a b : CharClass)
  | exclusive (a b : CharClass)
  | complement (a : CharClass)
  | anyCase (a : CharClass)
  | anyAsciiCase (a : CharClass)

namespace CharClass

/-- The other case of an ASCII letter; every other character stays. -/
def swapAsciiCase (c : Char) : Char :=
  if 'A' ≤ c ∧ c ≤ 'Z' then Char.ofNat (c.toNat + 32)
  else if 'a' ≤ c ∧ c ≤ 'z' then Char.ofNat (c.toNat - 32)
  else c

/-- Membership. -/
def contains : CharClass → Char → Bool
  | .nothing, _ => false
  | .range low high, c => low ≤ c && c ≤ high
  | .set characters, c => characters.contains c
  | .category codes, c => codes.contains (Text.generalCategory c)
  | .script code, c => Text.script c == code
  | .blank, c => Text.isBlank c
  | .union a b, c => a.contains c || b.contains c
  | .intersection a b, c => a.contains c && b.contains c
  | .difference a b, c => a.contains c && !b.contains c
  | .exclusive a b, c => a.contains c != b.contains c
  | .complement a, c => !a.contains c
  | .anyCase a, c => a.contains c || (Text.caseVariants c).any a.contains
  | .anyAsciiCase a, c => a.contains c || a.contains (swapAsciiCase c)

/-- About how many ranges of characters a class is made of. -/
def weight : CharClass → Nat
  | .nothing => 1
  | .range .. => 1
  | .set characters => characters.changes.size / 2 + 1
  | .category codes => (Text.categories.codes.filter codes.contains).size + 1
  | .script code => (Text.scripts.codes.filter fun other => other == code).size + 1
  | .blank => Text.blankRanges.length
  | .union a b => a.weight + b.weight
  | .intersection a b => a.weight + b.weight
  | .difference a b => a.weight + b.weight
  | .exclusive a b => a.weight + b.weight
  | .complement a => a.weight + 1
  | .anyCase a => 2 * a.weight
  | .anyAsciiCase a => 2 * a.weight

/-- True when a class holds characters that ASCII lacks but one byte can count. -/
def exceedsAscii (a : CharClass) : Bool :=
  (List.range 0x80).any fun i => a.contains (Char.ofNat (0x80 + i))

/-- The class of one character. -/
def single (c : Char) : CharClass := .range c c

/-- All characters. -/
def any : CharClass := .complement .nothing

/-- The union of some classes. -/
def unionOf (classes : List CharClass) : CharClass := classes.foldl .union .nothing

/-- The class, or its complement. -/
def negateIf (negated : Bool) (a : CharClass) : CharClass := if negated then .complement a else a

/-- Decimal digits of all scripts. -/
def digit : CharClass := .category ["Nd"]

/-- Letters, marks, digits, connecting punctuation and joiners. -/
def word : CharClass :=
  unionOf [.set Text.alphabetic, .category ["Mn", "Mc", "Me", "Nd", "Pc"],
    .range '\u200c' '\u200d']

/-- Digits of ASCII. -/
def asciiDigit : CharClass := .range '0' '9'

/-- Letters and digits of ASCII and the underscore. -/
def asciiWord : CharClass :=
  unionOf [.range '0' '9', .range 'A' 'Z', .single '_', .range 'a' 'z']

/-- Blanks of ASCII. -/
def asciiBlank : CharClass := unionOf [.range '\t' '\r', .single ' ']

/-- The classes with a name between colons. -/
def named? (name : Text) : Option CharClass :=
  if name = "alnum" then some (unionOf [.range '0' '9', .range 'A' 'Z', .range 'a' 'z'])
  else if name = "alpha" then some (unionOf [.range 'A' 'Z', .range 'a' 'z'])
  else if name = "ascii" then some (.range '\x00' '\x7f')
  else if name = "blank" then some (unionOf [.single '\t', .single ' '])
  else if name = "cntrl" then some (unionOf [.range '\x00' '\x1f', .single '\x7f'])
  else if name = "digit" then some asciiDigit
  else if name = "graph" then some (.range '!' '~')
  else if name = "lower" then some (.range 'a' 'z')
  else if name = "print" then some (.range ' ' '~')
  else if name = "punct" then
    some (unionOf [.range '!' '/', .range ':' '@', .range '[' '`', .range '\x7b' '~'])
  else if name = "space" then some asciiBlank
  else if name = "upper" then some (.range 'A' 'Z')
  else if name = "word" then some asciiWord
  else if name = "xdigit" then
    some (unionOf [.range '0' '9', .range 'A' 'F', .range 'a' 'f'])
  else none

/-! ## Properties by name -/

/-- The form of a property name in which spellings are compared. -/
def looseName (name : Text) : Text :=
  let lower := name.map Text.asciiLower
  let stripped := (Text.dropPrefix? "is" lower).getD lower
  let kept := stripped.filter fun c => c != ' ' && c != '_' && c != '-' && c.toNat < 0x80
  if kept = "c" ∧ stripped.length < lower.length then "isc" else kept

/-- The general categories and groups of them: codes, and the names that stand for them. -/
def categoryNames : List (List String × List String) :=
  [(["Cc"], ["cc", "control", "cntrl"]), (["Cf"], ["cf", "format"]),
   (["Cn"], ["cn", "unassigned"]), (["Co"], ["co", "privateuse"]),
   (["Ll"], ["ll", "lowercaseletter"]), (["Lm"], ["lm", "modifierletter"]),
   (["Lo"], ["lo", "otherletter"]), (["Lt"], ["lt", "titlecaseletter"]),
   (["Lu"], ["lu", "uppercaseletter"]), (["Mc"], ["mc", "spacingmark"]),
   (["Me"], ["me", "enclosingmark"]), (["Mn"], ["mn", "nonspacingmark"]),
   (["Nd"], ["nd", "decimalnumber", "digit"]), (["Nl"], ["nl", "letternumber"]),
   (["No"], ["no", "othernumber"]), (["Pc"], ["pc", "connectorpunctuation"]),
   (["Pd"], ["pd", "dashpunctuation"]), (["Pe"], ["pe", "closepunctuation"]),
   (["Pf"], ["pf", "finalpunctuation"]), (["Pi"], ["pi", "initialpunctuation"]),
   (["Po"], ["po", "otherpunctuation"]), (["Ps"], ["ps", "openpunctuation"]),
   (["Sc"], ["sc", "currencysymbol"]), (["Sk"], ["sk", "modifiersymbol"]),
   (["Sm"], ["sm", "mathsymbol"]), (["So"], ["so", "othersymbol"]),
   (["Zl"], ["zl", "lineseparator"]), (["Zp"], ["zp", "paragraphseparator"]),
   (["Zs"], ["zs", "spaceseparator"]),
   (["Cc", "Cf", "Cn", "Co", "Cs"], ["c", "other"]),
   (["Ll", "Lm", "Lo", "Lt", "Lu"], ["l", "letter"]),
   (["Ll", "Lt", "Lu"], ["lc", "casedletter"]), (["Mc", "Me", "Mn"], ["m", "mark", "combiningmark"]),
   (["Nd", "Nl", "No"], ["n", "number"]),
   (["Pc", "Pd", "Pe", "Pf", "Pi", "Po", "Ps"], ["p", "punctuation", "punct"]),
   (["Sc", "Sk", "Sm", "So"], ["s", "symbol"]), (["Zl", "Zp", "Zs"], ["z", "separator"])]

/-- The class of a general category or a group of them, by its loose name. -/
def category? (name : Text) : Option CharClass :=
  if name = "any" then some any
  else if name = "assigned" then some (.complement (.category ["Cn"]))
  else if name = "ascii" then some (.range '\x00' '\x7f')
  else (categoryNames.find? fun entry => entry.2.contains (String.ofList name)).map fun entry =>
    .category entry.1

/-- The class of a script, by its loose name. Names that no character has as its script are none. -/
def script? (name : Text) : Option CharClass :=
  let name : Text := if name = "qaai" then "zinh" else if name = "qaac" then "copt" else name
  if name = "zzzz" ∨ name = "unknown" ∨ name = "hrkt" ∨ name = "katakanaorhiragana" then none else
  ((Text.pairUp (Text.tableWords Text.scriptNames)).find? fun entry =>
    looseName entry.1 == name || looseName entry.2 == name).map fun entry =>
      .script (String.ofList entry.1)

/-- The class of a binary property, by its loose name. -/
def binary? (name : Text) : Option CharClass :=
  let name : Text := if name = "space" then "wspace" else name
  (Text.propertyTable.find? fun entry =>
    looseName entry.1 == name || looseName entry.2.1 == name).map fun entry =>
      .set (Text.CharSet.ofRuns entry.2.2)

/-- Codes of general categories that are also the names of other properties. -/
def categoryFirst : List Text := ["cf", "sc", "lc"]

/-- The class that a property name stands for. -/
def property? (name : Text) : Option CharClass :=
  let name := looseName name
  (if categoryFirst.contains name then none else binary? name) <|> category? name <|> script? name

/-- The class of the characters with a value of a property. -/
def propertyValue? (name value : Text) : Option CharClass :=
  let name := looseName name
  if name = "gc" ∨ name = "generalcategory" then category? (looseName value)
  else if name = "sc" ∨ name = "script" then script? (looseName value)
  else none

end CharClass

end ScreenQuery.Regex
