import ScreenQuery.Markup.Reference

/-!
# Repair of dumps

Dumps come with a preamble and a trailer, stray control characters, and characters of markup that
were never escaped.

* `withoutControls` drops control characters other than tab, line feed and carriage return.
* `cutMarkup` keeps what lies from the first `<` to the last `>`.
* `escape` writes `&amp;` for an `&` that starts no reference, and escapes `<` and `>` inside the
  quoted values of a tag. It reads the text once, from left to right, and `Place` says where it is.

`repair` is `sanitize`.
-/

namespace ScreenQuery.Markup

/-- The text without its control characters, but for tab, line feed and carriage return. -/
def withoutControls (raw : Text) : Text :=
  raw.filter fun c => !Text.isControl c || c == '\t' || c == '\n' || c == '\r'

/-- The part from the first `<` to the last `>`; nothing when there is no such part. -/
def cutMarkup (text : Text) : Text :=
  ((text.dropWhile fun c => c != '<').reverse.dropWhile fun c => c != '>').reverse

/-- Where a character stands: outside of tags, in a tag, or in a quoted value of a tag. -/
inductive Place
  | outside
  | inTag
  | inValue (quote : Char)
  deriving DecidableEq

/-- The place of the character after `c`. -/
def Place.after (place : Place) (c : Char) : Place :=
  match place with
  | .outside => if c = '<' then .inTag else .outside
  | .inTag => if c = '>' then .outside else if c = '"' ∨ c = '\'' then .inValue c else .inTag
  | .inValue quote => if c = quote then .inTag else .inValue quote

/-- How `c` is written at a place, when `rest` follows it. -/
def Place.escaped (place : Place) (c : Char) (rest : Text) : Text :=
  if c = '&' then if startsReference rest then ['&'] else "&amp;"
  else match place with
    | .inValue _ => if c = '<' then "&lt;" else if c = '>' then "&gt;" else [c]
    | _ => [c]

/-- The work of `escape`: what is done, reversed, the place, and the rest of the text. -/
def escapeFrom (done : Text) (place : Place) : Text → Text
  | [] => done.reverse
  | c :: rest => escapeFrom ((place.escaped c rest).reverse ++ done) (place.after c) rest

/-- The text with the characters escaped that would be mistaken for markup. -/
def escape (text : Text) : Text := escapeFrom [] .outside text

/-- The markup of a raw dump. -/
def repair (raw : Text) : Text := escape (cutMarkup (withoutControls raw))

end ScreenQuery.Markup
