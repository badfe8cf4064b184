import ScreenQuery.Proofs.Markup.Repaired
import Mathlib.Algebra.Order.BigOperators.Group.List
import Mathlib.Data.Nat.Digits.Defs

/-!
# What a value means

* `Denotes body c` says which character a reference stands for, by name or by code point;
  `character?` finds it (`character?_eq_some_iff`).
* A value falls into references and single characters, from left to right and in one way only
  (`Cut`, `exists_cut`, `Cut.unique`); together these are the value again (`Cut.text_eq`).
* Repair and decoding work on the same pieces. Repair keeps the references and escapes what else
  looks like markup (`Cut.write_eq`); decoding takes that back and replaces the references, provided
  that every one of them stands for a character. If one does not, the whole value stays as repair
  has left it (`Cut.decode_of_legible`, `Cut.decode_of_not_legible`).
-/

namespace ScreenQuery.Markup

variable {base : Nat} {digit? : Char → Option Nat} {body digits rest value : Text} {c : Char}

/-! ## References that stand for a character -/

/-- The number that digits make in a base, most significant first. -/
def numberOf (base : Nat) (digit? : Char → Option Nat) (digits : Text) : Nat :=
  Nat.ofDigits base (digits.map fun d => (digit? d).getD 0).reverse

/-- The reference with this body stands for a character, by its name or by its code point. Zero is
no code point here. -/
inductive Denotes : (body : Text) → (c : Char) → Prop
  | named {name : Text} {c : Char} (h : (name, c) ∈ namedReferences) : Denotes name c
  | decimal {digits : Text} {c : Char} (hSome : digits ≠ [])
      (h : ∀ d ∈ digits, Text.isDigit d = true)
      (hValue : numberOf 10 Text.digit? digits = c.toNat) (hZero : c.toNat ≠ 0) :
      Denotes ('#' :: digits) c
  | hexadecimal {digits : Text} {c : Char} (hSome : digits ≠ [])
      (h : ∀ d ∈ digits, Text.isHexDigit d = true)
      (hValue : numberOf 16 Text.hexDigit? digits = c.toNat) (hZero : c.toNat ≠ 0) :
      Denotes ('#' :: 'x' :: digits) c

theorem ofCodePoint?_eq_some_iff {n : Nat} :
    ofCodePoint? n = some c ↔ n = c.toNat ∧ c.toNat ≠ 0 := by
  unfold ofCodePoint?
  constructor
  · intro h
    split at h
    · rename_i hValid
      cases h
      have hNat : (Char.ofNat n).toNat = n := by
        rw [Char.ofNat, dif_pos hValid.2]
        rfl
      rw [hNat]
      exact ⟨rfl, hValid.1⟩
    · cases h
  · rintro ⟨rfl, hZero⟩
    rw [if_pos ⟨hZero, c.valid⟩, Char.ofNat_toNat]

theorem mapM_of_isSome (h : ∀ d ∈ digits, (digit? d).isSome = true) :
    digits.mapM digit? = some (digits.map fun d => (digit? d).getD 0) := by
  induction digits with
  | nil => rfl
  | cons d digits ih =>
    obtain ⟨hd, hRest⟩ := List.forall_mem_cons.mp h
    obtain ⟨n, hn⟩ := Option.isSome_iff_exists.mp hd
    simp [List.mapM_cons, hn, ih hRest]

theorem isSome_of_mapM {values : List Nat} (h : digits.mapM digit? = some values) :
    ∀ d ∈ digits, (digit? d).isSome = true := by
  induction digits generalizing values with
  | nil => exact fun d hd => absurd hd List.not_mem_nil
  | cons d digits ih =>
    rw [List.mapM_cons] at h
    obtain ⟨n, hn, hRest⟩ := Option.bind_eq_some_iff.mp h
    obtain ⟨rest, hRest, -⟩ := Option.bind_eq_some_iff.mp hRest
    exact List.forall_mem_cons.mpr ⟨Option.isSome_of_eq_some hn, ih hRest⟩

theorem numberOf_eq_foldl : numberOf base digit? digits =
    (digits.map fun d => (digit? d).getD 0).foldl (fun n d => n * base + d) 0 := by
  unfold numberOf
  rw [Nat.ofDigits_eq_foldr, List.foldr_reverse]
  simp [Nat.mul_comm, Nat.add_comm]

theorem ofDigits?_eq_some_iff : ofDigits? base digit? digits = some c ↔
    digits ≠ [] ∧ (∀ d ∈ digits, (digit? d).isSome = true) ∧
      numberOf base digit? digits = c.toNat ∧ c.toNat ≠ 0 := by
  rw [ofDigits?, numberOf_eq_foldl]
  split
  · rename_i hEmpty
    simp [List.isEmpty_iff.mp hEmpty]
  · rename_i hSome
    have hDigits : digits ≠ [] := fun hNil => hSome (List.isEmpty_iff.mpr hNil)
    constructor
    · intro h
      obtain ⟨values, hValues, hCode⟩ := Option.bind_eq_some_iff.mp h
      have hAll := isSome_of_mapM hValues
      rw [mapM_of_isSome hAll] at hValues
      obtain rfl := Option.some.inj hValues
      exact ⟨hDigits, hAll, ofCodePoint?_eq_some_iff.mp hCode⟩
    · rintro ⟨-, hAll, hValue⟩
      exact Option.bind_eq_some_iff.mpr
        ⟨_, mapM_of_isSome hAll, ofCodePoint?_eq_some_iff.mpr hValue⟩

theorem character?_eq_some_iff : character? body = some c ↔ Denotes body c := by
  constructor
  · intro h
    unfold character? at h
    split at h
    · obtain ⟨hSome, hAll, hValue, hZero⟩ := ofDigits?_eq_some_iff.mp h
      exact .hexadecimal hSome hAll hValue hZero
    · obtain ⟨hSome, hAll, hValue, hZero⟩ := ofDigits?_eq_some_iff.mp h
      exact .decimal hSome hAll hValue hZero
    · obtain ⟨⟨name, d⟩, hFind, rfl⟩ := Option.map_eq_some_iff.mp h
      have hName := List.find?_some hFind
      obtain rfl : name = body := beq_iff_eq.mp hName
      exact .named (List.mem_of_find?_eq_some hFind)
  · intro h
    cases h with
    | named h => exact (isReference_of_mem h).character
    | hexadecimal hSome h hValue hZero => exact ofDigits?_eq_some_iff.mpr ⟨hSome, h, hValue, hZero⟩
    | @decimal digits _ hSome h hValue hZero =>
      unfold character?
      split
      · rename_i more hEq
        obtain rfl := (List.cons.inj hEq).2
        exact absurd (h 'x' List.mem_cons_self) (by decide)
      · rename_i hEq
        obtain rfl := (List.cons.inj hEq).2
        exact ofDigits?_eq_some_iff.mpr ⟨hSome, h, hValue, hZero⟩
      · rename_i hOther
        exact absurd rfl (hOther digits)

/-! ## The pieces of a value -/

/-- A part of a value: a character by itself, or a reference. -/
inductive Piece
  | char (c : Char)
  | reference (body : Text)
  deriving DecidableEq

/-- The text of a reference. -/
def referenceText (body : Text) : Text := '&' :: (body ++ [';'])

/-- The piece as it is written. -/
def Piece.text : Piece → Text
  | .char c => [c]
  | .reference body => referenceText body

/-- The piece as repair writes it. -/
def Piece.repaired : Piece → Text
  | .char c =>
    if c = '&' then "&amp;" else if c = '<' then "&lt;" else if c = '>' then "&gt;" else [c]
  | .reference body => referenceText body

/-- The piece as it is meant: a reference that stands for a character is that character, and
everything else is what is written. -/
def Piece.meant : Piece → Text
  | .char c => [c]
  | .reference body => (character? body).elim (referenceText body) fun c => [c]

/-- The piece is no reference, or one that stands for a character. -/
def Piece.Legible : Piece → Prop
  | .char _ => True
  | .reference body => ∃ c, Denotes body c

/-- The value falls into these pieces: where an `&`, the body of a reference of at most the longest
length and a semicolon follow one another they are one piece, and elsewhere each character is. -/
inductive Cut : (value : Text) → List Piece → Prop
  | nil : Cut [] []
  | char {c : Char} {rest : Text} {pieces : List Piece}
      (hNone : c = '&' → ∀ body tail, IsBody body → body.length ≤ maxReferenceLength →
        rest ≠ body ++ ';' :: tail)
      (h : Cut rest pieces) : Cut (c :: rest) (.char c :: pieces)
  | reference {body rest : Text} {pieces : List Piece} (hBody : IsBody body)
      (hLength : body.length ≤ maxReferenceLength) (h : Cut rest pieces) :
      Cut ('&' :: (body ++ ';' :: rest)) (.reference body :: pieces)

variable {piece : Piece} {pieces pieces' : List Piece}

theorem Piece.meant_of_denotes (h : Denotes body c) : (Piece.reference body).meant = [c] := by
  simp [meant, character?_eq_some_iff.mpr h]

theorem Piece.meant_of_not_denotes (h : ∀ c, ¬Denotes body c) :
    (Piece.reference body).meant = referenceText body := by
  have hNone : character? body = none := by
    rw [Option.eq_none_iff_forall_ne_some]
    exact fun c hc => h c (character?_eq_some_iff.mp hc)
  simp [meant, hNone]

/-- The pieces make up the value. -/
theorem Cut.text_eq (h : Cut value pieces) : pieces.flatMap Piece.text = value := by
  induction h with
  | nil => rfl
  | char _ _ ih => rw [List.flatMap_cons, ih]; rfl
  | reference _ _ _ ih => simp [List.flatMap_cons, ih, Piece.text, referenceText]

theorem startsReference_eq_false_iff : startsReference rest = false ↔
    ∀ body tail, IsBody body → body.length ≤ maxReferenceLength → rest ≠ body ++ ';' :: tail := by
  rw [Bool.eq_false_iff, Ne, startsReference_iff]
  constructor
  · exact fun h body tail hBody hLength hRest => h ⟨body, tail, hRest, hBody, hLength⟩
  · rintro h ⟨body, tail, hRest, hBody, hLength⟩
    exact h body tail hBody hLength hRest

theorem exists_cut (value : Text) : ∃ pieces, Cut value pieces := by
  induction hLength : value.length using Nat.strong_induction_on generalizing value with
  | _ n ih =>
    cases value with
    | nil => exact ⟨[], .nil⟩
    | cons c rest =>
      rw [List.length_cons] at hLength
      by_cases hReference : c = '&' ∧ startsReference rest = true
      · obtain ⟨rfl, hStarts⟩ := hReference
        obtain ⟨body, tail, rfl, hBody, hShort⟩ := startsReference_iff.mp hStarts
        have hLess : tail.length < n := by
          simp only [List.length_append, List.length_cons] at hLength
          omega
        obtain ⟨pieces, hCut⟩ := ih _ hLess tail rfl
        exact ⟨_, .reference hBody hShort hCut⟩
      · obtain ⟨pieces, hCut⟩ := ih _ (by omega) rest rfl
        refine ⟨_, .char (fun hAmp => startsReference_eq_false_iff.mp ?_) hCut⟩
        exact Bool.eq_false_iff.mpr fun hStarts => hReference ⟨hAmp, hStarts⟩

theorem Cut.unique (h : Cut value pieces) (h' : Cut value pieces') : pieces = pieces' := by
  induction h generalizing pieces' with
  | nil => cases h'; rfl
  | char hNone _ ih =>
    cases h' with
    | char _ h' => rw [ih h']
    | reference hBody hLength _ => exact absurd rfl (hNone rfl _ _ hBody hLength)
  | @reference body rest pieces hBody hLength _ ih =>
    generalize hValue : '&' :: (body ++ ';' :: rest) = value at h'
    cases h' with
    | nil => cases hValue
    | char hNone' _ =>
      obtain ⟨rfl, rfl⟩ := List.cons.inj hValue
      exact absurd rfl (hNone' rfl _ _ hBody hLength)
    | reference hBody' _ h' =>
      obtain ⟨rfl, rfl⟩ := (Text.append_cons_inj hBody.isName.2 hBody'.isName.2).mp
        (List.cons.inj hValue).2
      rw [ih h']

/-! ## Repair piece by piece -/

theorem Place.escaped_char {quote : Char}
    (hNone : c = '&' → startsReference rest = false) :
    (Place.inValue quote).escaped c rest = (Piece.char c).repaired := by
  unfold Place.escaped Piece.repaired
  by_cases hAmp : c = '&'
  · simp [hAmp, hNone hAmp]
  · simp [hAmp]

/-- **Repair keeps the references of a value** and escapes what else looks like markup. -/
theorem Cut.write_eq {quote : Char} (hQuote : quote = '"' ∨ quote = '\'') (h : Cut value pieces) :
    quote ∉ value → (Place.inValue quote).write value = pieces.flatMap Piece.repaired := by
  induction h with
  | nil => exact fun _ => rfl
  | @char c rest pieces hNone _ ih =>
    intro hNot
    rw [List.mem_cons, not_or] at hNot
    have hAfter : (Place.inValue quote).after c = .inValue quote := if_neg (Ne.symm hNot.1)
    have hStarts : c = '&' → startsReference rest = false :=
      fun hAmp => startsReference_eq_false_iff.mpr (hNone hAmp)
    rw [Place.write, Place.escaped_char hStarts, hAfter, ih hNot.2, List.flatMap_cons]
  | @reference body rest pieces hBody hLength _ ih =>
    intro hNot
    have hRest : quote ∉ rest := fun hMem => hNot (by simp [hMem])
    have hPlace : (Place.inValue quote).Possible := hQuote
    have hWrite := unchanged_reference hPlace hBody hLength rest
    rw [ih hRest] at hWrite
    rw [List.flatMap_cons, ← show '&' :: (body ++ [';']) ++ rest = '&' :: (body ++ ';' :: rest) by
      simp]
    exact hWrite

/-! ## Decoding piece by piece -/

/-- A character is repaired to itself, or to a reference to it. -/
theorem Piece.repaired_char_cases (c : Char) :
    ((Piece.char c).repaired = [c] ∧ c ≠ '&' ∧ c ≠ '<' ∧ c ≠ '>') ∨
      ∃ name, (Piece.char c).repaired = referenceText name ∧ (name, c) ∈ namedReferences := by
  by_cases hAmp : c = '&'
  · exact .inr ⟨"amp", by simp [repaired, referenceText, hAmp], by rw [hAmp]; decide⟩
  by_cases hLess : c = '<'
  · exact .inr ⟨"lt", by simp [repaired, referenceText, hLess], by rw [hLess]; decide⟩
  by_cases hMore : c = '>'
  · exact .inr ⟨"gt", by simp [repaired, referenceText, hMore], by rw [hMore]; decide⟩
  · exact .inl ⟨by simp [repaired, hAmp, hLess, hMore], hAmp, hLess, hMore⟩

theorem decodeFrom_referenceText (done : Text) (h : IsBody body) (rest : Text) :
    decodeFrom done (referenceText body ++ rest) =
      (character? body).bind fun c => decodeFrom (c :: done) rest := by
  have hText : referenceText body ++ rest = '&' :: (body ++ ';' :: rest) := by
    simp [referenceText]
  rw [hText]
  exact decodeFrom_body done (h.isName.1.not_mem (by decide)) h.isName.2 rest

theorem decodeFrom_char (done : Text) (c : Char) (rest : Text) :
    decodeFrom done ((Piece.char c).repaired ++ rest) = decodeFrom (c :: done) rest := by
  rcases Piece.repaired_char_cases c with ⟨hSelf, hAmp, -⟩ | ⟨name, hReference, hName⟩
  · rw [hSelf]
    exact decodeFrom_cons_of_ne done hAmp rest
  · rw [hReference, decodeFrom_referenceText done (.named hName),
      (isReference_of_mem hName).character]
    rfl

/-- When every reference stands for a character, the value is decoded. -/
theorem Cut.decodeFrom_of_legible (h : Cut value pieces) (done : Text) :
    (∀ piece ∈ pieces, piece.Legible) →
      decodeFrom done (pieces.flatMap Piece.repaired) =
        some (done.reverse ++ pieces.flatMap Piece.meant) := by
  induction h generalizing done with
  | nil =>
    intro _
    rw [List.flatMap_nil, List.flatMap_nil, decodeFrom, List.append_nil]
  | @char c rest pieces _ _ ih =>
    intro hLegible
    obtain ⟨-, hRest⟩ := List.forall_mem_cons.mp hLegible
    rw [List.flatMap_cons, decodeFrom_char, ih _ hRest, List.flatMap_cons]
    simp [Piece.meant]
  | @reference body rest pieces hBody _ _ ih =>
    intro hLegible
    obtain ⟨⟨c, hc⟩, hRest⟩ := List.forall_mem_cons.mp hLegible
    rw [List.flatMap_cons, Piece.repaired, decodeFrom_referenceText done hBody,
      character?_eq_some_iff.mpr hc, Option.bind_some, ih _ hRest, List.flatMap_cons,
      Piece.meant_of_denotes hc]
    simp

/-- A reference that stands for nothing keeps the value from being decoded. -/
theorem Cut.decodeFrom_of_not_legible (h : Cut value pieces) (done : Text) :
    (∃ piece ∈ pieces, ¬piece.Legible) →
      decodeFrom done (pieces.flatMap Piece.repaired) = none := by
  induction h generalizing done with
  | nil =>
    rintro ⟨piece, hPiece, -⟩
    exact absurd hPiece List.not_mem_nil
  | @char c rest pieces _ _ ih =>
    rintro ⟨piece, hPiece, hNot⟩
    rw [List.flatMap_cons, decodeFrom_char]
    rcases List.mem_cons.mp hPiece with rfl | hRest
    · exact absurd trivial hNot
    · exact ih _ ⟨piece, hRest, hNot⟩
  | @reference body rest pieces hBody _ _ ih =>
    rintro ⟨piece, hPiece, hNot⟩
    rw [List.flatMap_cons, Piece.repaired, decodeFrom_referenceText done hBody]
    cases hCharacter : character? body with
    | none => rfl
    | some c =>
      rcases List.mem_cons.mp hPiece with rfl | hRest
      · exact absurd ⟨c, character?_eq_some_iff.mp hCharacter⟩ hNot
      · exact ih _ ⟨piece, hRest, hNot⟩

section

variable {quote : Char} (hQuote : quote = '"' ∨ quote = '\'') (h : Cut value pieces)
  (hNot : quote ∉ value)

include hQuote h hNot

/-- **A value whose references all stand for characters is read as it is meant.** -/
theorem Cut.decode_of_legible (hLegible : ∀ piece ∈ pieces, piece.Legible) :
    decode ((Place.inValue quote).write value) = pieces.flatMap Piece.meant := by
  rw [h.write_eq hQuote hNot, decode, decode?, h.decodeFrom_of_legible [] hLegible]
  rfl

/-- **A value with a reference that stands for nothing is read as it is repaired.** -/
theorem Cut.decode_of_not_legible (hSome : ∃ piece ∈ pieces, ¬piece.Legible) :
    decode ((Place.inValue quote).write value) = pieces.flatMap Piece.repaired := by
  rw [h.write_eq hQuote hNot, decode, decode?, h.decodeFrom_of_not_legible [] hSome]
  rfl

end

/-! ## When repair shows -/

/-- The piece neither looks like markup nor stands for another character. -/
def Piece.Plain : Piece → Prop
  | .char c => c ≠ '&' ∧ c ≠ '<' ∧ c ≠ '>'
  | .reference body => ∀ c, ¬Denotes body c

theorem Piece.Plain.repaired_eq (h : piece.Plain) : piece.repaired = piece.meant := by
  cases piece with
  | char c =>
    obtain ⟨hAmp, hLess, hMore⟩ := h
    simp [Piece.repaired, Piece.meant, hAmp, hLess, hMore]
  | reference body => exact (Piece.meant_of_not_denotes h).symm

/-- A reference is longer than what it stands for. -/
theorem Piece.length_lt (h : ¬piece.Plain) : piece.meant.length < piece.repaired.length := by
  cases piece with
  | char c =>
    rcases repaired_char_cases c with ⟨-, hPlain⟩ | ⟨name, hReference, -⟩
    · exact absurd hPlain h
    · simp [hReference, meant, referenceText]
  | reference body =>
    obtain ⟨c, hc⟩ : ∃ c, Denotes body c := by
      unfold Plain at h
      push Not at h
      exact h
    simp [repaired, meant_of_denotes hc, referenceText]

/-- The value is repaired to what it means just when nothing in it asks for either. -/
theorem flatMap_repaired_eq_iff : pieces.flatMap Piece.repaired = pieces.flatMap Piece.meant ↔
    ∀ piece ∈ pieces, piece.Plain := by
  constructor
  · intro hEq
    by_contra hNot
    push Not at hNot
    obtain ⟨piece, hPiece, hPlain⟩ := hNot
    have hLess : (pieces.flatMap Piece.meant).length < (pieces.flatMap Piece.repaired).length := by
      rw [List.length_flatMap, List.length_flatMap]
      refine List.sum_lt_sum _ _ (fun piece _ => ?_) ⟨piece, hPiece, Piece.length_lt hPlain⟩
      by_cases h : piece.Plain
      · rw [h.repaired_eq]
      · exact Nat.le_of_lt (Piece.length_lt h)
    rw [hEq] at hLess
    exact Nat.lt_irrefl _ hLess
  · intro hAll
    exact List.flatMap_congr fun piece hPiece => (hAll piece hPiece).repaired_eq

end ScreenQuery.Markup
