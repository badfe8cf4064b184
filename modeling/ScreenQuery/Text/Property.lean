import ScreenQuery.Text.Runs
import ScreenQuery.Text.CategoryTable
import ScreenQuery.Text.ScriptTable
import ScreenQuery.Text.PropertyTable

/-!
# Properties of characters

* `generalCategory` and `script` read the character database.
* `property?` finds a binary property by its long or short name.
* `isUnprintable` is the class of characters that show nothing of themselves: controls, formats,
  surrogates, private and unassigned code points, and separators other than the space.
-/

namespace ScreenQuery.Text

/-- The table of general categories. -/
def categories : CharClasses := CharClasses.ofRuns categoryRuns

/-- The two-letter code of the general category of a character. -/
def generalCategory (c : Char) : String := categories.classOf c

/-- The table of scripts. -/
def scripts : CharClasses := CharClasses.ofRuns scriptRuns

/-- The four-letter code of the script of a character. -/
def script (c : Char) : String := scripts.classOf c

/-- The set of the characters with a binary property, under its long or short name. -/
def property? (name : String) : Option CharSet :=
  (propertyTable.find? fun entry => entry.1 == name || entry.2.1 == name).map fun entry =>
    CharSet.ofRuns entry.2.2

/-- The set of the characters with a binary property; empty for a name that is none. -/
def property (name : String) : CharSet := (property? name).getD ⟨#[]⟩

/-- Alphabetic. -/
def alphabetic : CharSet := property "Alphabetic"

/-- Cased. -/
def cased : CharSet := property "Cased"

/-- Case_Ignorable. -/
def caseIgnorable : CharSet := property "Case_Ignorable"

/-- Grapheme_Extend: characters that attach to the one before them. -/
def graphemeExtend : CharSet := property "Grapheme_Extend"

/-- True for a character that shows nothing of itself, the space excepted. -/
def isUnprintable (c : Char) : Bool :=
  c != ' ' && ["Cc", "Cf", "Cs", "Co", "Cn", "Zl", "Zp", "Zs"].contains (generalCategory c)

end ScreenQuery.Text
