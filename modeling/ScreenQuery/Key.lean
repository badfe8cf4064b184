import ScreenQuery.Text.Blank
import ScreenQuery.Text.Numeral

/-!
# Keys

* A key is a number. `Key.parse?` reads the number itself, or a name in any case, with underscores
  or hyphens, and with or without `KEYCODE_` in front.

`Key.parse?` is `parse_key_code`.
-/

namespace ScreenQuery.Key

/-- The keys that have names. -/
def names : List (Text × UInt32) :=
  [("home", 3), ("back", 4), ("dpad-up", 19), ("dpad-down", 20), ("dpad-left", 21),
    ("dpad-right", 22), ("dpad-center", 23), ("volume-up", 24), ("volume-down", 25),
    ("power", 26), ("tab", 61), ("space", 62), ("enter", 66), ("delete", 67),
    ("backspace", 67), ("menu", 82), ("search", 84), ("escape", 111), ("app-switch", 187)]

/-- The one spelling of a name: small letters and hyphens. -/
def spelling (name : Text) : Text :=
  name.map fun c => if c = '_' then '-' else Text.asciiLower c

/-- The name without the words that may stand in front of it. -/
def bareName (name : Text) : Text := (Text.dropPrefix? "keycode-" name).getD name

/-- The key that a text denotes. -/
def parse? (input : Text) : Option UInt32 :=
  let key := Text.trim input
  match Text.uint32? key with
  | some code => some code
  | none => (names.find? fun entry => entry.1 == bareName (spelling key)).map Prod.snd

end ScreenQuery.Key
