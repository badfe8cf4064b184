import ScreenQuery.Text.Basic

/-!
# Character references

* A reference is `&`, a body and `;`. Its body is one of five names, or a number sign and decimal
  digits, or a number sign, an `x` and hexadecimal digits.
* `isReferenceBody` is the shape alone; it also admits a capital `X` and numbers that denote no
  character. `character?` is the character, when there is one.
* `decode?` replaces every reference of a value and fails when one of them denotes nothing.

`startsReference` of repair is `starts_entity`, and `decode?` is how `push_node` unescapes a value.
-/

namespace ScreenQuery.Markup

/-- The references by name. -/
def namedReferences : List (Text × Char) :=
  [("lt", '<'), ("gt", '>'), ("amp", '&'), ("apos", '\''), ("quot", '"')]

/-- True when a text has the shape of what stands between `&` and `;`. -/
def isReferenceBody (body : Text) : Bool :=
  namedReferences.any (fun entry => entry.1 == body) ||
    match body with
    | '#' :: 'x' :: digits => !digits.isEmpty && digits.all Text.isHexDigit
    | '#' :: 'X' :: digits => !digits.isEmpty && digits.all Text.isHexDigit
    | '#' :: digits => !digits.isEmpty && digits.all Text.isDigit
    | _ => false

/-- The longest reference body that repair recognises. -/
def maxReferenceLength : Nat := 10

/-- True when the text after an `&` completes a reference of at most the longest length. -/
def startsReference (rest : Text) : Bool :=
  let body := (rest.take (maxReferenceLength + 1)).takeWhile fun c => c != ';'
  body.length ≤ maxReferenceLength && (rest.drop body.length).head? == some ';' &&
    isReferenceBody body

/-- The character with a code point, other than zero. -/
def ofCodePoint? (n : Nat) : Option Char :=
  if n ≠ 0 ∧ n.isValidChar then some (Char.ofNat n) else none

/-- The character of a reference that gives a code point in digits of some base. -/
def ofDigits? (base : Nat) (digit? : Char → Option Nat) (digits : Text) : Option Char :=
  if digits.isEmpty then none
  else do
    let values ← digits.mapM digit?
    ofCodePoint? (values.foldl (fun n d => n * base + d) 0)

/-- The character that a reference with this body denotes. -/
def character? : Text → Option Char
  | '#' :: 'x' :: digits => ofDigits? 16 Text.hexDigit? digits
  | '#' :: digits => ofDigits? 10 Text.digit? digits
  | name => (namedReferences.find? fun entry => entry.1 == name).map Prod.snd

/-- The work of `decode?`: what is done, reversed, and the rest of the value. -/
def decodeFrom (done : Text) : Text → Option Text
  | [] => some done.reverse
  | c :: rest =>
    if c = '&' then
      let body := rest.takeWhile fun c => c != ';' && c != '&'
      if (rest.drop body.length).head? = some ';' then
        match character? body with
        | some decoded => decodeFrom (decoded :: done) (rest.drop (body.length + 1))
        | none => none
      else none
    else decodeFrom (c :: done) rest
termination_by text => text.length
decreasing_by all_goals simp_wf; try omega

/-- A value with every reference replaced by its character. -/
def decode? (value : Text) : Option Text := decodeFrom [] value

/-- A value as it is meant: decoded, or left as it is when some reference denotes nothing. -/
def decode (value : Text) : Text := (decode? value).getD value

end ScreenQuery.Markup
