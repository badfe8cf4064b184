import ScreenQuery.Text.Basic

/-!
# State flags

* `Flag` lists the yes-or-no states of a screen element, in the order of dumps and reports.
* A flag has the attribute name of dumps, a name with underscores for reports, and sometimes
  further spellings; `Flag.ofName?` accepts the first and the further ones.
* `Flags` holds one value per flag; unless a dump says otherwise an element is enabled, visible
  and nothing else.

`attributeName` is `attr_name`, `ofName?` is `from_name`, and `defaultValue` is `default_value`.
-/

namespace ScreenQuery

/-- The state flags of an element. -/
inductive Flag
  | clickable | longClickable | enabled | selected | focused | focusable | scrollable
  | checkable | checked | password | visibleToUser
  deriving DecidableEq, Repr

namespace Flag

/-- All flags, in the order of reports. -/
def all : List Flag :=
  [clickable, longClickable, enabled, selected, focused, focusable, scrollable, checkable,
    checked, password, visibleToUser]

/-- The attribute name in dumps. -/
def attributeName : Flag → Text
  | clickable => "clickable"
  | longClickable => "long-clickable"
  | enabled => "enabled"
  | selected => "selected"
  | focused => "focused"
  | focusable => "focusable"
  | scrollable => "scrollable"
  | checkable => "checkable"
  | checked => "checked"
  | password => "password"
  | visibleToUser => "visible-to-user"

/-- The field name in reports. -/
def fieldName : Flag → Text
  | longClickable => "long_clickable"
  | visibleToUser => "visible_to_user"
  | flag => flag.attributeName

/-- Every spelling that names the flag. -/
def spellings : Flag → List Text
  | longClickable => ["long-clickable", "longClickable"]
  | visibleToUser => ["visible-to-user", "visibleToUser", "visible"]
  | flag => [flag.attributeName]

/-- The flag that a name spells. -/
def ofName? (name : Text) : Option Flag := all.find? fun flag => flag.spellings.contains name

/-- The flag with a field name. -/
def ofFieldName? (name : Text) : Option Flag := all.find? fun flag => flag.fieldName == name

/-- The value of a flag that a dump leaves out. -/
def defaultValue (flag : Flag) : Bool := flag = enabled || flag = visibleToUser

end Flag

/-- One value for each flag. -/
structure Flags where
  clickable : Bool
  longClickable : Bool
  enabled : Bool
  selected : Bool
  focused : Bool
  focusable : Bool
  scrollable : Bool
  checkable : Bool
  checked : Bool
  password : Bool
  visibleToUser : Bool
  deriving DecidableEq, Repr

namespace Flags

/-- The flags whose values a function gives. -/
def ofFunction (value : Flag → Bool) : Flags where
  clickable := value .clickable
  longClickable := value .longClickable
  enabled := value .enabled
  selected := value .selected
  focused := value .focused
  focusable := value .focusable
  scrollable := value .scrollable
  checkable := value .checkable
  checked := value .checked
  password := value .password
  visibleToUser := value .visibleToUser

/-- The value of a flag. -/
def get (flags : Flags) : Flag → Bool
  | .clickable => flags.clickable
  | .longClickable => flags.longClickable
  | .enabled => flags.enabled
  | .selected => flags.selected
  | .focused => flags.focused
  | .focusable => flags.focusable
  | .scrollable => flags.scrollable
  | .checkable => flags.checkable
  | .checked => flags.checked
  | .password => flags.password
  | .visibleToUser => flags.visibleToUser

/-- The flags of an element whose dump gives none. -/
def default : Flags := ofFunction Flag.defaultValue

/-- The same flags but for one. -/
def set (flags : Flags) (flag : Flag) (value : Bool) : Flags :=
  ofFunction fun other => if other = flag then value else flags.get other

@[simp] theorem get_ofFunction (value : Flag → Bool) (flag : Flag) :
    (ofFunction value).get flag = value flag := by
  cases flag <;> rfl

@[simp] theorem get_set (flags : Flags) (flag other : Flag) (value : Bool) :
    (flags.set flag value).get other = if other = flag then value else flags.get other := by
  simp [set]

theorem ext_get {a b : Flags} (h : ∀ flag, a.get flag = b.get flag) : a = b := by
  cases a; cases b
  simp only [mk.injEq]
  exact ⟨h .clickable, h .longClickable, h .enabled, h .selected, h .focused, h .focusable,
    h .scrollable, h .checkable, h .checked, h .password, h .visibleToUser⟩

end Flags

end ScreenQuery
