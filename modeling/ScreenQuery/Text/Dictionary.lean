import ScreenQuery.Text.Basic

/-!
# Dictionaries with text keys

* A `Dictionary` is a list of keys and values in the order of the keys' characters, without
  repetition; that is also the order of the keys' bytes in UTF-8.
* `insert` keeps that order and replaces the value of a key that is present.
-/

namespace ScreenQuery

/-- Keys and values in the order of the keys. -/
abbrev Dictionary (α : Type) := List (Text × α)

namespace Dictionary

variable {α : Type}

/-- Adds a key and its value, or replaces the value. -/
def insert (key : Text) (value : α) : Dictionary α → Dictionary α
  | [] => [(key, value)]
  | (k, v) :: rest =>
    if key = k then (key, value) :: rest
    else if key < k then (key, value) :: (k, v) :: rest
    else (k, v) :: insert key value rest

/-- The value of a key. -/
def get? (dictionary : Dictionary α) (key : Text) : Option α :=
  (dictionary.find? fun entry => entry.1 == key).map Prod.snd

/-- The dictionary of some keys and values; of a repeated key the last value stays. -/
def ofList (entries : List (Text × α)) : Dictionary α :=
  entries.foldl (fun dictionary entry => dictionary.insert entry.1 entry.2) []

end Dictionary

end ScreenQuery
