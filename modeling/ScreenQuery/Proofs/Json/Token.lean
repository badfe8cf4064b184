import ScreenQuery.Json.Basic
import ScreenQuery.Proofs.Json.Number

/-!
# A written value is cut into its tokens

* `stringRest_quoted`: whatever the characters of a string are, they are read back, because an
  escape denotes the character that it was made for (`stringRest_escapeChar`).
* `CutInto` is how a text is cut: token by token, each with what it leaves. A text that is cut to
  its end has these tokens (`CutInto.readAll_eq`).
* `Json.tokens` says which tokens a value consists of, by the same recursion as its text.
* A value is `Plain` when every number in it is an integer of 64 bits. The text of such a value is
  cut into its tokens (`Plain.cutInto`), also with more text behind it, if that does not go on like
  a number or a word (`Ends`).
-/

namespace ScreenQuery

namespace Json

/-! ## Strings -/

theorem hexDigit?_digitChar : ∀ n < 16, Text.hexDigit? (Nat.digitChar n) = some n := by decide

theorem ofHexPadded_four {n : Nat} (h : n < 256) :
    Text.ofHexPadded 4 n = ['0', '0', Nat.digitChar (n / 16), Nat.digitChar (n % 16)] := by
  unfold Text.ofHexPadded Text.ofHex
  by_cases hSmall : n < 16
  · rw [Nat.toDigits_of_lt_base hSmall, Nat.div_eq_of_lt hSmall, Nat.mod_eq_of_lt hSmall]
    rfl
  · rw [Nat.toDigits_of_base_le (by decide) (by omega), Nat.toDigits_of_lt_base (by omega)]
    rfl

/-- Four hexadecimal digits denote the character whose code they are. -/
theorem codeEscape?_of_lt {n : Nat} (h : n < 256) :
    codeEscape? '0' '0' (Nat.digitChar (n / 16)) (Nat.digitChar (n % 16)) =
      some (.char (Char.ofNat n)) := by
  have hCode : ((0 * 16 + 0) * 16 + n / 16) * 16 + n % 16 = n := by omega
  have hWhole : ¬ (0xd800 ≤ n ∧ n ≤ 0xdfff) := by omega
  have hZero : Text.hexDigit? '0' = some 0 := by decide
  simp only [codeEscape?, hZero, hexDigit?_digitChar (n / 16) (by omega),
    hexDigit?_digitChar (n % 16) (by omega), Option.bind_eq_bind, Option.bind_some, hCode]
  rw [if_neg hWhole]
  rfl

section

variable (pieces : List Piece) (rest : Text)

/-- A character that needs no escape. -/
theorem stringRest_cons {c : Char} (hQuote : c ≠ '"') (hBackslash : c ≠ '\\')
    (hControl : ¬ c.toNat < 0x20) :
    stringRest pieces (c :: rest) = stringRest (.char c :: pieces) rest := by
  rw [stringRest.eq_def]
  split
  all_goals
    rename_i hText
    cases hText
  · exact absurd rfl hQuote
  · exact absurd rfl hBackslash
  · exact absurd rfl hBackslash
  · rw [if_neg hControl]

theorem stringRest_code {a b c d : Char} {piece : Piece}
    (h : codeEscape? a b c d = some piece) :
    stringRest pieces ('\\' :: 'u' :: a :: b :: c :: d :: rest) =
      stringRest (piece :: pieces) rest := by
  rw [stringRest, h]

/-- **What a character is written as denotes the character.** -/
theorem stringRest_escapeChar (c : Char) :
    stringRest pieces (escapeChar c ++ rest) = stringRest (.char c :: pieces) rest := by
  by_cases hQuote : c = '"'
  · rw [hQuote]; rfl
  by_cases hBackslash : c = '\\'
  · rw [hBackslash]; rfl
  by_cases hFeed : c = '\n'
  · rw [hFeed]; rfl
  by_cases hReturn : c = '\r'
  · rw [hReturn]; rfl
  by_cases hTab : c = '\t'
  · rw [hTab]; rfl
  by_cases hBack : c = '\x08'
  · rw [hBack]; rfl
  by_cases hForm : c = '\x0c'
  · rw [hForm]; rfl
  rw [escapeChar, if_neg hQuote, if_neg hBackslash, if_neg hFeed, if_neg hReturn, if_neg hTab,
    if_neg hBack, if_neg hForm]
  by_cases hControl : c.toNat < 0x20
  · rw [if_pos hControl, ofHexPadded_four (by omega)]
    refine (stringRest_code pieces rest (codeEscape?_of_lt (by omega))).trans ?_
    rw [Char.ofNat_toNat]
  · rw [if_neg hControl]
    exact stringRest_cons pieces rest hQuote hBackslash hControl

theorem stringRest_escaped (text : Text) :
    stringRest pieces (text.flatMap escapeChar ++ '"' :: rest) =
      some (text.reverse.map .char ++ pieces, rest) := by
  induction text generalizing pieces with
  | nil => rfl
  | cons c text ih =>
    rw [List.flatMap_cons, List.append_assoc, stringRest_escapeChar, ih, List.reverse_cons,
      List.map_append, List.append_assoc]
    rfl

end

theorem joinPieces_chars (text behind : Text) :
    joinPieces behind (text.map .char) = some (text.reverse ++ behind) := by
  induction text generalizing behind with
  | nil => rfl
  | cons c text ih =>
    rw [List.map_cons, joinPieces, ih, List.reverse_cons, List.append_assoc]
    rfl

/-- **A string is read back**, whatever follows it. -/
theorem read?_quoted (text rest : Text) :
    Token.read? '"' (text.flatMap escapeChar ++ '"' :: rest) =
      some (.string (some text), rest) := by
  show (stringRest [] _).map _ = _
  have hJoin : joinPieces [] (text.reverse.map .char) = some text := by
    rw [joinPieces_chars, List.reverse_reverse, List.append_nil]
  rw [stringRest_escaped, List.append_nil, Option.map_some]
  show some (Token.string (joinPieces [] _), rest) = _
  rw [hJoin]

/-! ## Cutting -/

/-- A text is cut into tokens up to some rest of it. -/
inductive CutInto : Text → List Token → Text → Prop
  | nil (text : Text) : CutInto text [] text
  | cons {c : Char} {behind next rest : Text} {token : Token} {tokens : List Token}
      (hBlank : isBlank c = false) (hRead : Token.read? c behind = some (token, next))
      (hBehind : next <:+ behind) (hNext : CutInto next tokens rest) :
      CutInto (c :: behind) (token :: tokens) rest

namespace CutInto

variable {text next rest : Text} {tokens tokens' : List Token}

theorem single {c : Char} {behind : Text} {token : Token} (hBlank : isBlank c = false)
    (hRead : Token.read? c behind = some (token, next)) (hBehind : next <:+ behind) :
    CutInto (c :: behind) [token] next :=
  .cons hBlank hRead hBehind (.nil next)

theorem mark {c : Char} {token : Token} (hBlank : isBlank c = false)
    (hRead : Token.read? c text = some (token, text)) (h : CutInto text tokens rest) :
    CutInto (c :: text) (token :: tokens) rest :=
  .cons hBlank hRead List.suffix_rfl h

theorem append (h : CutInto text tokens next) (h' : CutInto next tokens' rest) :
    CutInto text (tokens ++ tokens') rest := by
  induction h with
  | nil text => exact h'
  | cons hBlank hRead hBehind _ ih => exact .cons hBlank hRead hBehind (ih h')

theorem length_le (h : CutInto text tokens rest) : tokens.length + rest.length ≤ text.length := by
  induction h with
  | nil text => exact (Nat.zero_add _).le
  | cons _ _ hBehind _ ih =>
    have hLength := hBehind.length_le
    simp only [List.length_cons]
    omega

theorem readFrom_eq (h : CutInto text tokens rest) (hRest : rest = []) (passed : List Token)
    {bound : Nat} (hBound : text.length ≤ bound) :
    Token.readFrom passed bound text = some (passed.reverse ++ tokens) := by
  induction h generalizing passed bound with
  | nil text =>
    subst hRest
    rw [List.append_nil]
    cases bound <;> rfl
  | @cons c behind next rest token tokens hBlank hRead hBehind _ ih =>
    cases bound with
    | zero => cases hBound
    | succ bound =>
      have hLength := hBehind.length_le
      rw [List.length_cons] at hBound
      simp only [Token.readFrom, hBlank, Bool.false_eq_true, if_false, hRead]
      rw [ih hRest (token :: passed) (by omega), List.reverse_cons, List.append_assoc]
      rfl

/-- A text that is cut to its end has these tokens. -/
theorem readAll_eq (h : CutInto text tokens []) : Token.readAll text = some tokens :=
  h.readFrom_eq rfl [] (Nat.le_refl _)

end CutInto

/-! ## The tokens of a value -/

mutual

/-- The tokens that a value is written with. -/
def tokens : Json → List Token
  | .null => [.word "null"]
  | .bool true => [.word "true"]
  | .bool false => [.word "false"]
  | .number value => [.number (some value)]
  | .string value => [.string (some value)]
  | .array items => .openArray :: itemTokens items ++ [.closeArray]
  | .object fields => .openObject :: fieldTokens fields ++ [.closeObject]

/-- The tokens of values with commas between them. -/
def itemTokens : List Json → List Token
  | [] => []
  | [item] => tokens item
  | item :: next :: rest => tokens item ++ .comma :: itemTokens (next :: rest)

/-- The tokens of fields with commas between them. -/
def fieldTokens : List (Text × Json) → List Token
  | [] => []
  | [(key, value)] => .string (some key) :: .colon :: tokens value
  | (key, value) :: next :: rest =>
    .string (some key) :: .colon :: tokens value ++ .comma :: fieldTokens (next :: rest)

end

/-- Values whose numbers are integers of 64 bits. -/
inductive Plain : Json → Prop
  | null : Plain .null
  | bool (value : Bool) : Plain (.bool value)
  | integer {i : Int} (h : Fits i) : Plain (.ofInt i)
  | string (value : Text) : Plain (.string value)
  | array {items : List Json} (h : ∀ item ∈ items, Plain item) : Plain (.array items)
  | object {fields : List (Text × Json)} (h : ∀ field ∈ fields, Plain field.2) :
    Plain (.object fields)

/-! ## Written values -/

section

variable {rest : Text}

theorem cutInto_quoted (text rest : Text) :
    CutInto (quoted text ++ rest) [.string (some text)] rest := by
  rw [quoted, List.append_assoc, List.cons_append]
  exact .single (by decide) (read?_quoted text rest)
    ((List.suffix_cons '"' rest).trans (List.suffix_append _ _))

section

variable {c : Char} (hc : c = '-' ∨ Text.isDigit c = true)

include hc

theorem isBlank_of_number : isBlank c = false := by
  refine Bool.eq_false_iff.mpr fun hBlank => ?_
  unfold isBlank at hBlank
  simp only [Bool.or_eq_true, beq_iff_eq] at hBlank
  rcases hBlank with ((rfl | rfl) | rfl) | rfl
  all_goals exact absurd hc (by decide)

theorem read?_number : Token.read? c rest = numberToken? (c :: rest) := by
  unfold Token.read?
  split
  case h_8 => rw [if_pos hc]
  all_goals exact absurd hc (by decide)

end

theorem cutInto_integer {i : Int} (hFits : Fits i) (h : Ends rest) :
    CutInto (Text.ofInt i ++ rest) [.number (some (.integer i))] rest := by
  obtain ⟨c, digits, hText⟩ := List.exists_cons_of_ne_nil (Text.ofInt_ne_nil i)
  have hc : c = '-' ∨ Text.isDigit c = true := by
    rw [Text.isDigit_eq]
    exact Text.mem_ofInt (hText ▸ List.mem_cons_self)
  have hRead := numberToken?_ofInt hFits h
  rw [hText] at hRead ⊢
  exact .single (isBlank_of_number hc) (read?_number hc |>.trans hRead) (List.suffix_append _ _)

theorem cutInto_word {c : Char} {name : Text} (hName : (c :: name).all Char.isAlpha = true)
    (hBlank : isBlank c = false) (hNumber : ¬ (c = '-' ∨ Text.isDigit c = true)) (h : Ends rest) :
    CutInto (c :: name ++ rest) [.word (c :: name)] rest := by
  have hAlpha := List.all_eq_true.mp hName
  have hTake : (c :: (name ++ rest)).takeWhile Char.isAlpha = c :: name :=
    Text.takeWhile_append hAlpha (h.stops (by decide))
  have hRead : Token.read? c (name ++ rest) = some (.word (c :: name), rest) := by
    unfold Token.read?
    split
    case h_8 =>
      rw [if_neg hNumber, hTake]
      exact congrArg (fun behind => some (Token.word (c :: name), behind)) List.drop_left
    all_goals exact absurd (hAlpha _ List.mem_cons_self) (by decide)
  exact .single hBlank hRead (List.suffix_append _ _)

theorem cutInto_items {items : List Json}
    (hItems : ∀ item ∈ items, ∀ {rest}, Ends rest →
      CutInto (compact item ++ rest) (tokens item) rest)
    (h : Ends rest) : CutInto (compactItems items ++ rest) (itemTokens items) rest := by
  match items with
  | [] => exact .nil rest
  | [item] => exact hItems item List.mem_cons_self h
  | item :: next :: others =>
    have hOthers : CutInto (compactItems (next :: others) ++ rest) _ rest :=
      cutInto_items (fun item hItem => hItems item (List.mem_cons_of_mem _ hItem)) h
    rw [compactItems, itemTokens, List.append_assoc, List.cons_append]
    exact (hItems item List.mem_cons_self (.cons (by decide) _)).append
      (hOthers.mark (by decide) rfl)

theorem cutInto_field (key : Text) {value : Json}
    (h : CutInto (compact value ++ rest) (tokens value) rest) :
    CutInto (quoted key ++ ':' :: compact value ++ rest)
      (.string (some key) :: .colon :: tokens value) rest := by
  rw [List.append_assoc, List.cons_append]
  exact (cutInto_quoted key _).append (h.mark (by decide) rfl)

theorem cutInto_fields {fields : List (Text × Json)}
    (hFields : ∀ field ∈ fields, ∀ {rest}, Ends rest →
      CutInto (compact field.2 ++ rest) (tokens field.2) rest)
    (h : Ends rest) : CutInto (compactFields fields ++ rest) (fieldTokens fields) rest := by
  match fields with
  | [] => exact .nil rest
  | [(key, value)] => exact cutInto_field key (hFields (key, value) List.mem_cons_self h)
  | (key, value) :: next :: others =>
    have hOthers : CutInto (compactFields (next :: others) ++ rest) _ rest :=
      cutInto_fields (fun field hField => hFields field (List.mem_cons_of_mem _ hField)) h
    have hField := hFields (key, value) List.mem_cons_self
      (Ends.cons (c := ',') (by decide) (compactFields (next :: others) ++ rest))
    rw [compactFields, fieldTokens, List.append_assoc, List.cons_append]
    exact (cutInto_field key hField).append (hOthers.mark (by decide) rfl)

/-- **The text of a plain value is cut into the tokens of the value.** -/
theorem Plain.cutInto {value : Json} (hPlain : Plain value) (h : Ends rest) :
    CutInto (compact value ++ rest) (tokens value) rest := by
  induction hPlain generalizing rest with
  | null => exact cutInto_word (by decide) (by decide) (by decide) h
  | bool value =>
    cases value with
    | true => exact cutInto_word (by decide) (by decide) (by decide) h
    | false => exact cutInto_word (by decide) (by decide) (by decide) h
  | integer hFits => exact cutInto_integer hFits h
  | string text => exact cutInto_quoted text rest
  | array _ ih =>
    have hItems := cutInto_items ih (Ends.cons (c := ']') (by decide) rest)
    have hClose : CutInto (']' :: rest) [.closeArray] rest := .mark (by decide) rfl (.nil rest)
    rw [compact, tokens, List.append_assoc, List.cons_append]
    exact (hItems.append hClose).mark (by decide) rfl
  | object _ ih =>
    have hFields := cutInto_fields ih (Ends.cons (c := '\x7d') (by decide) rest)
    have hClose : CutInto ('\x7d' :: rest) [.closeObject] rest :=
      .mark (by decide) rfl (.nil rest)
    rw [compact, tokens, List.append_assoc, List.cons_append]
    exact (hFields.append hClose).mark (by decide) rfl

end

end Json

end ScreenQuery
