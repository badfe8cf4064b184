import ScreenQuery.Markup.Reference
import ScreenQuery.Text.Utf8
import ScreenQuery.Text.Numeral

/-!
# Attributes of a tag

* `Attribute.readAll` reads what follows the name of a tag: names and quoted values with an equals
  sign between them. Blanks may stand around the sign and before a name; the next name may also
  follow a closing quote at once.
* The first thing that does not fit is an `AttributeFault`, with its position in bytes from the
  start of the tag's name.

These are the attributes that `push_node` goes through. Out of scope: namespaces.
-/

namespace ScreenQuery.Markup

/-- Blanks of markup: space, tab, line feed and carriage return. -/
def isBlank (c : Char) : Bool := c == ' ' || c == '\t' || c == '\n' || c == '\r'

/-- A name and its value, as they are written. -/
structure Attribute where
  name : Text
  value : Text
  deriving DecidableEq

/-- What is wrong with the attributes of a tag. -/
inductive AttributeFault
  | missingEquals
  | missingValue
  | unquotedValue
  | unclosedValue (quote : Char)
  deriving DecidableEq

/-- The wording of a fault. -/
def AttributeFault.message : AttributeFault → Text
  | missingEquals => "attribute key must be directly followed by `=` or space"
  | missingValue => "`=` must be followed by an attribute value"
  | unquotedValue => "attribute value must be enclosed in `\"` or `'`"
  | unclosedValue quote => "missing closing quote `" ++ [quote] ++ "` in attribute value"

namespace Attribute

/-- A position in bytes and the text from there on. -/
structure Cursor where
  position : Nat
  rest : Text

/-- The cursor behind the characters at its front that satisfy `p`. -/
def Cursor.skip (p : Char → Bool) (cursor : Cursor) : Cursor :=
  ⟨cursor.position + Text.byteLength (cursor.rest.takeWhile p), cursor.rest.dropWhile p⟩

/-- The first attribute at a cursor that stands on the first character of its name, and the cursor
behind it. -/
def readOne (name : Char) (cursor : Cursor) : Except (Nat × AttributeFault) (Attribute × Cursor) :=
  let inName := fun c => c != '=' && !isBlank c
  let atSign := (cursor.skip inName).skip isBlank
  match atSign.rest with
  | '=' :: rest =>
    let atQuote := Cursor.skip isBlank ⟨atSign.position + 1, rest⟩
    match atQuote.rest with
    | [] => .error (atQuote.position, .missingValue)
    | quote :: rest =>
      if quote = '"' ∨ quote = '\'' then
        let atEnd := Cursor.skip (fun c => c != quote) ⟨atQuote.position + 1, rest⟩
        match atEnd.rest with
        | [] => .error (atEnd.position, .unclosedValue quote)
        | _ :: rest' =>
          .ok (⟨name :: cursor.rest.takeWhile inName, rest.takeWhile fun c => c != quote⟩,
            ⟨atEnd.position + 1, rest'⟩)
      else .error (atQuote.position, .unquotedValue)
  | _ => .error (atSign.position, .missingEquals)

theorem skip_rest_length_le (p : Char → Bool) (cursor : Cursor) :
    (cursor.skip p).rest.length ≤ cursor.rest.length :=
  (List.dropWhile_suffix p).length_le

theorem readOne_rest_length_le {name : Char} {cursor next : Cursor} {one : Attribute}
    (h : readOne name cursor = .ok (one, next)) : next.rest.length ≤ cursor.rest.length := by
  unfold readOne at h
  simp only at h
  split at h
  · rename_i rest hSign
    split at h
    · cases h
    · rename_i quote rest' hQuote
      split at h
      · split at h
        · cases h
        · rename_i c rest'' hEnd
          simp only [Except.ok.injEq, Prod.mk.injEq] at h
          obtain ⟨-, rfl⟩ := h
          have h1 := skip_rest_length_le isBlank
            (cursor.skip fun c => c != '=' && !isBlank c)
          have h2 := skip_rest_length_le (fun c => c != '=' && !isBlank c) cursor
          have h3 := skip_rest_length_le isBlank ⟨((cursor.skip fun c =>
            c != '=' && !isBlank c).skip isBlank).position + 1, rest⟩
          have h4 := skip_rest_length_le (fun c => c != quote) ⟨(Cursor.skip isBlank
            ⟨((cursor.skip fun c => c != '=' && !isBlank c).skip isBlank).position + 1,
              rest⟩).position + 1, rest'⟩
          rw [hSign] at h1
          rw [hQuote] at h3
          rw [hEnd] at h4
          simp only [List.length_cons] at h1 h3 h4 ⊢
          omega
      · cases h
  · cases h

/-- The work of `readAll`: what has been read, reversed, and the cursor. -/
def readFrom (read : List Attribute) (cursor : Cursor) :
    Except (Nat × AttributeFault) (List Attribute) :=
  let start := cursor.skip isBlank
  match hStart : start.rest with
  | [] => .ok read.reverse
  | name :: rest =>
    match hOne : readOne name ⟨start.position + Text.byteLength [name], rest⟩ with
    | .error fault => .error fault
    | .ok (one, next) =>
      have : next.rest.length < cursor.rest.length := by
        have h1 := readOne_rest_length_le hOne
        have h2 : (cursor.skip isBlank).rest.length ≤ _ := skip_rest_length_le isBlank cursor
        rw [hStart] at h2
        simp only [List.length_cons] at h1 h2
        omega
      readFrom (one :: read) next
termination_by cursor.rest.length

/-- The attributes in what follows the name of a tag. -/
def readAll (name rest : Text) : Except (Nat × AttributeFault) (List Attribute) :=
  readFrom [] ⟨Text.byteLength name, rest⟩

end Attribute

end ScreenQuery.Markup
