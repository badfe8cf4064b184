import ScreenQuery.Proofs.Markup.Repair
import ScreenQuery.Proofs.Text.Numeral
import ScreenQuery.Proofs.Text.Parts

/-!
# Values and their written form

* `encode` writes a value between double quotes: four characters become references.
* `decode_encode`: reading a written value gives the value back, whatever it looks like.
* Repair takes `&`, an `IsBody` of at most the longest length and `;` for a reference
  (`startsReference_iff`). No mark, such as a quote that closes a value, cuts one in two
  (`startsReference_closed`).
* `Unchanged` is a text that repair leaves as it is, whatever follows. Written values are such texts
  (`unchanged_encode`): an ampersand in them starts a reference, and brackets there are none.
-/

namespace ScreenQuery.Markup

variable {place middle last : Place} {a b body name rest text : Text} {c : Char}

/-! ## Written values -/

/-- The written form of a character. -/
def encodeChar (c : Char) : Text :=
  if c = '&' then "&amp;"
  else if c = '<' then "&lt;"
  else if c = '>' then "&gt;"
  else if c = '"' then "&quot;"
  else [c]

/-- The written form of a value. -/
def encode (value : Text) : Text := value.flatMap encodeChar

/-- A character is written as it is, or by a reference of its name. -/
theorem encodeChar_cases (c : Char) :
    (encodeChar c = [c] ∧ c ≠ '&' ∧ c ≠ '<' ∧ c ≠ '>' ∧ c ≠ '"') ∨
      ∃ name, encodeChar c = '&' :: (name ++ [';']) ∧ (name, c) ∈ namedReferences := by
  unfold encodeChar
  split
  · rename_i hAmp
    rw [hAmp]
    exact Or.inr ⟨"amp", rfl, by decide⟩
  rename_i hAmp
  split
  · rename_i hLess
    rw [hLess]
    exact Or.inr ⟨"lt", rfl, by decide⟩
  rename_i hLess
  split
  · rename_i hMore
    rw [hMore]
    exact Or.inr ⟨"gt", rfl, by decide⟩
  rename_i hMore
  split
  · rename_i hQuote
    rw [hQuote]
    exact Or.inr ⟨"quot", rfl, by decide⟩
  · rename_i hQuote
    exact Or.inl ⟨rfl, hAmp, hLess, hMore, hQuote⟩

/-- What a reference by name is to the functions that look at one. -/
structure IsReference (name : Text) (c : Char) : Prop where
  character : character? name = some c
  body : isReferenceBody name = true
  length_le : name.length ≤ maxReferenceLength
  isName : IsName name
  semicolon_not_mem : ';' ∉ name

theorem isReference_of_mem (h : (name, c) ∈ namedReferences) : IsReference name c := by
  have hAll : ∀ entry ∈ namedReferences, character? entry.1 = some entry.2 ∧
      isReferenceBody entry.1 = true ∧ entry.1.length ≤ maxReferenceLength ∧ IsName entry.1 ∧
        ';' ∉ entry.1 := by
    decide
  obtain ⟨hCharacter, hBody, hLength, hName, hSemicolon⟩ := hAll (name, c) h
  exact ⟨hCharacter, hBody, hLength, hName, hSemicolon⟩

theorem quote_not_mem_encode (value : Text) : '"' ∉ encode value := by
  intro hMem
  obtain ⟨c, -, hMem⟩ := List.mem_flatMap.mp hMem
  rcases encodeChar_cases c with ⟨hEq, -, -, -, hQuote⟩ | ⟨name, hEq, hName⟩ <;> rw [hEq] at hMem
  · exact hQuote (List.mem_singleton.mp hMem).symm
  · rw [List.mem_cons, List.mem_append, List.mem_singleton] at hMem
    rcases hMem with hEq | hMem | hEq
    · exact absurd hEq (by decide)
    · exact (isReference_of_mem hName).isName.not_mem (by decide) hMem
    · exact absurd hEq (by decide)

theorem isKept_encode {value : Text} (h : IsKept value) : IsKept (encode value) := by
  intro d hd
  obtain ⟨c, hc, hd⟩ := List.mem_flatMap.mp hd
  rcases encodeChar_cases c with ⟨hEq, -⟩ | ⟨name, hEq, hName⟩ <;> rw [hEq] at hd
  · obtain rfl := List.mem_singleton.mp hd
    exact h d hc
  · rw [List.mem_cons, List.mem_append, List.mem_singleton] at hd
    rcases hd with rfl | hd | rfl
    · decide
    · exact (isReference_of_mem hName).isName.kept d hd
    · decide

/-! ## Written values are read back -/

theorem decodeFrom_cons_of_ne (done : Text) (hAmp : c ≠ '&') (rest : Text) :
    decodeFrom done (c :: rest) = decodeFrom (c :: done) rest := by
  rw [decodeFrom, if_neg hAmp]

/-- A reference is decoded when its body denotes a character, and nothing is when it does not. -/
theorem decodeFrom_body (done : Text) (hAmp : '&' ∉ body) (hSemicolon : ';' ∉ body) (rest : Text) :
    decodeFrom done ('&' :: (body ++ ';' :: rest)) =
      (character? body).bind fun c => decodeFrom (c :: done) rest := by
  have hBody : (body ++ ';' :: rest).takeWhile (fun c => c != ';' && c != '&') = body := by
    refine Text.takeWhile_append (fun d hd => ?_) (Text.stops_of_head? rfl rfl)
    rw [Text.bne_of_not_mem hSemicolon d hd, Text.bne_of_not_mem hAmp d hd]
    rfl
  have hHead : ((body ++ ';' :: rest).drop body.length).head? = some ';' := by simp
  have hRest : (body ++ ';' :: rest).drop (body.length + 1) = rest := by
    rw [← List.drop_drop, List.drop_left]
    rfl
  rw [decodeFrom, if_pos rfl]
  simp only [hBody, hHead, if_true, hRest]
  cases character? body <;> rfl

theorem decodeFrom_reference (done : Text) (h : IsReference name c) (rest : Text) :
    decodeFrom done ('&' :: (name ++ ';' :: rest)) = decodeFrom (c :: done) rest := by
  rw [decodeFrom_body done (h.isName.not_mem (by decide)) h.semicolon_not_mem, h.character]
  rfl

theorem decodeFrom_encode (done value : Text) :
    decodeFrom done (encode value) = some (done.reverse ++ value) := by
  induction value generalizing done with
  | nil =>
    rw [encode, List.flatMap_nil, decodeFrom, List.append_nil]
  | cons c value ih =>
    rw [encode, List.flatMap_cons, ← encode]
    have hStep : decodeFrom done (encodeChar c ++ encode value) =
        decodeFrom (c :: done) (encode value) := by
      rcases encodeChar_cases c with ⟨hEq, hAmp, -⟩ | ⟨name, hEq, hName⟩ <;> rw [hEq]
      · exact decodeFrom_cons_of_ne done hAmp _
      · rw [List.cons_append, List.append_assoc]
        exact decodeFrom_reference done (isReference_of_mem hName) _
    rw [hStep, ih, List.reverse_cons, List.append_assoc, List.singleton_append]

/-- **A written value is read as the value.** -/
theorem decode_encode (value : Text) : decode (encode value) = value := by
  rw [decode, decode?, decodeFrom_encode]
  rfl

/-! ## What repair takes for a reference -/

/-- Digits of references are characters of names. -/
theorem isNameChar_of_isHexDigit (h : Text.isHexDigit c = true) :
    isNameChar c = true ∧ c ≠ ';' := by
  have hRange := Text.toNat_of_isHexDigit h
  have hAll : ∀ n ∈ List.range 103, Text.isHexDigit (Char.ofNat n) = true →
      isNameChar (Char.ofNat n) = true ∧ Char.ofNat n ≠ ';' := by decide
  have hc := hAll c.toNat (List.mem_range.mpr (by omega))
  rw [Char.ofNat_toNat] at hc
  exact hc h

/-- What may stand between the `&` and the `;` of a reference: a name, or a number. -/
inductive IsBody : Text → Prop
  | named {name : Text} {c : Char} (h : (name, c) ∈ namedReferences) : IsBody name
  | decimal {digits : Text} (hSome : digits ≠ []) (h : ∀ d ∈ digits, Text.isDigit d = true) :
      IsBody ('#' :: digits)
  | hexadecimal {x : Char} {digits : Text} (hx : x = 'x' ∨ x = 'X') (hSome : digits ≠ [])
      (h : ∀ d ∈ digits, Text.isHexDigit d = true) : IsBody ('#' :: x :: digits)

theorem isReferenceBody_iff : isReferenceBody body = true ↔ IsBody body := by
  unfold isReferenceBody
  rw [Bool.or_eq_true]
  constructor
  · rintro (hNamed | hNumber)
    · obtain ⟨⟨name, c⟩, hMem, hEq⟩ := List.any_eq_true.mp hNamed
      obtain rfl : name = body := beq_iff_eq.mp hEq
      exact .named hMem
    · split at hNumber
      · simp only [Bool.and_eq_true, Bool.not_eq_true', List.isEmpty_eq_false_iff,
          List.all_eq_true] at hNumber
        exact .hexadecimal (.inl rfl) hNumber.1 hNumber.2
      · simp only [Bool.and_eq_true, Bool.not_eq_true', List.isEmpty_eq_false_iff,
          List.all_eq_true] at hNumber
        exact .hexadecimal (.inr rfl) hNumber.1 hNumber.2
      · simp only [Bool.and_eq_true, Bool.not_eq_true', List.isEmpty_eq_false_iff,
          List.all_eq_true] at hNumber
        exact .decimal hNumber.1 hNumber.2
      · cases hNumber
  · intro h
    cases h with
    | @named _ c h => exact .inl (List.any_eq_true.mpr ⟨(body, c), h, beq_self_eq_true body⟩)
    | @decimal digits hSome h =>
      -- neither mark of a hexadecimal number is a decimal digit
      have hMark : ∀ x rest, digits = x :: rest → x ≠ 'x' ∧ x ≠ 'X' := by
        rintro x rest rfl
        have hx := h x List.mem_cons_self
        constructor <;> rintro rfl <;> exact absurd hx (by decide)
      refine .inr ?_
      split
      · rename_i hEq
        exact absurd rfl (hMark _ _ (List.cons.inj hEq).2).1
      · rename_i hEq
        exact absurd rfl (hMark _ _ (List.cons.inj hEq).2).2
      · rename_i hEq
        cases hEq
        simpa [hSome] using h
      · rename_i hOther
        exact absurd rfl (hOther digits)
    | hexadecimal hx hSome h =>
      refine .inr ?_
      rcases hx with rfl | rfl <;> simpa [hSome] using h

/-- The body of a reference could be a name, and it holds no semicolon. -/
theorem IsBody.isName (h : IsBody body) : IsName body ∧ ';' ∉ body := by
  have hOf : body ≠ [] → (∀ c ∈ body, isNameChar c = true ∧ c ≠ ';') → IsName body ∧ ';' ∉ body :=
    fun hSome hAll => ⟨⟨hSome, fun c hc => (hAll c hc).1⟩, fun hMem => (hAll _ hMem).2 rfl⟩
  have hSign : isNameChar '#' = true ∧ '#' ≠ ';' := by decide
  cases h with
  | named h =>
    have hReference := isReference_of_mem h
    exact ⟨hReference.isName, hReference.semicolon_not_mem⟩
  | decimal _ h =>
    refine hOf (List.cons_ne_nil _ _) (List.forall_mem_cons.mpr ⟨hSign, fun c hc => ?_⟩)
    exact isNameChar_of_isHexDigit (Text.isHexDigit_of_isDigit (h c hc))
  | @hexadecimal x digits hx _ h =>
    have hMark : isNameChar x = true ∧ x ≠ ';' := by
      rcases hx with rfl | rfl <;> decide
    refine hOf (List.cons_ne_nil _ _) (List.forall_mem_cons.mpr ⟨hSign,
      List.forall_mem_cons.mpr ⟨hMark, fun c hc => isNameChar_of_isHexDigit (h c hc)⟩⟩)

/-- What repair takes for a reference. -/
theorem startsReference_iff : startsReference rest = true ↔
    ∃ body tail, rest = body ++ ';' :: tail ∧ IsBody body ∧
      body.length ≤ maxReferenceLength := by
  constructor
  · intro h
    unfold startsReference at h
    simp only [Bool.and_eq_true, decide_eq_true_eq, beq_iff_eq, isReferenceBody_iff] at h
    obtain ⟨⟨hLength, hHead⟩, hBody⟩ := h
    obtain ⟨tail, hTail⟩ := List.head?_eq_some_iff.mp hHead
    have hPrefix := (List.takeWhile_prefix fun c => c != ';').trans
      (List.take_prefix (maxReferenceLength + 1) rest)
    have hRest := List.prefix_append_drop hPrefix
    rw [hTail] at hRest
    exact ⟨_, tail, hRest, hBody, hLength⟩
  · rintro ⟨name, tail, rfl, hBody, hLength⟩
    have hSemicolon := hBody.isName.2
    have hTake : ((name ++ ';' :: tail).take (maxReferenceLength + 1)).takeWhile
        (fun c => c != ';') = name := by
      have hMore : maxReferenceLength + 1 - name.length = (maxReferenceLength - name.length) + 1 :=
        Nat.succ_sub hLength
      rw [List.take_append, List.take_of_length_le (Nat.le_succ_of_le hLength), hMore,
        List.take_succ_cons]
      exact Text.takeWhile_append (Text.bne_of_not_mem hSemicolon)
        (Text.stops_of_head? rfl rfl)
    unfold startsReference
    simp only [hTake, isReferenceBody_iff.mpr hBody, Bool.and_true, Bool.and_eq_true,
      decide_eq_true_eq]
    exact ⟨hLength, by simp⟩

/-- No reference reaches over a mark. -/
theorem startsReference_closed {mark : Char} (hMark : mark ∈ marks) (text : Text) :
    startsReference (body ++ mark :: text) = startsReference body := by
  rw [Bool.eq_iff_iff, startsReference_iff, startsReference_iff]
  constructor
  · rintro ⟨name, tail, hText, hBody, hLength⟩
    have hName : mark ∉ name := hBody.isName.1.not_mem hMark
    have hSemicolon : mark ≠ ';' := by
      rintro rfl
      exact absurd hMark (by decide)
    -- the semicolon comes before the mark
    rcases List.append_eq_append_iff.mp hText with ⟨more, rfl, hMore⟩ | ⟨more, rfl, hMore⟩
    · cases more with
      | nil => exact absurd (List.cons.inj hMore).1 hSemicolon
      | cons d more =>
        obtain rfl := (List.cons.inj hMore).1
        exact absurd (List.mem_append_right _ List.mem_cons_self) hName
    · cases more with
      | nil => exact absurd (List.cons.inj hMore).1.symm hSemicolon
      | cons d more =>
        obtain rfl := (List.cons.inj hMore).1
        exact ⟨name, more, rfl, hBody, hLength⟩
  · rintro ⟨name, tail, rfl, hBody, hLength⟩
    exact ⟨name, tail ++ mark :: text, by rw [List.append_assoc]; rfl, hBody, hLength⟩

/-! ## Written values are not repaired -/

/-- Repair leaves the text as it is, whatever follows. -/
def Unchanged (place : Place) (text : Text) (last : Place) : Prop :=
  ∀ rest, place.write (text ++ rest) = text ++ last.write rest

theorem Unchanged.nil (place : Place) : Unchanged place [] place := fun _ => rfl

theorem Unchanged.append (ha : Unchanged place a middle) (hb : Unchanged middle b last) :
    Unchanged place (a ++ b) last := by
  intro rest
  rw [List.append_assoc, ha, hb, List.append_assoc]

theorem unchanged_singleton (place : Place) (hAmp : c ≠ '&') (hLess : c ≠ '<') (hMore : c ≠ '>') :
    Unchanged place [c] (place.after c) := by
  intro rest
  have hBracket : ¬(c = '<' ∨ c = '>') := not_or.mpr ⟨hLess, hMore⟩
  have hEscaped : place.escaped c rest = [c] :=
    Place.escaped_eq_self_iff.mpr ⟨fun h => absurd h hAmp, fun h => absurd h hBracket⟩
  rw [List.singleton_append, Place.write, hEscaped]

/-- A text without markup that stays in a tag. -/
theorem unchanged_of_passes (h : place.Passes text last)
    (hPlain : '&' ∉ text ∧ '<' ∉ text ∧ '>' ∉ text) : Unchanged place text last := by
  induction h with
  | nil _ => exact .nil _
  | @cons place last c text _ _ ih =>
    obtain ⟨hAmp, hLess, hMore⟩ := hPlain
    rw [List.mem_cons, not_or] at hAmp hLess hMore
    have hFirst := unchanged_singleton place (Ne.symm hAmp.1) (Ne.symm hLess.1) (Ne.symm hMore.1)
    exact hFirst.append (ih ⟨hAmp.2, hLess.2, hMore.2⟩)

theorem IsBlanks.unchanged {text : Text} (h : IsBlanks text) : Unchanged .inTag text .inTag :=
  unchanged_of_passes h.passes ⟨h.not_mem rfl, h.not_mem rfl, h.not_mem rfl⟩

theorem IsName.unchanged {text : Text} (h : IsName text) : Unchanged .inTag text .inTag :=
  unchanged_of_passes h.passes
    ⟨h.not_mem (by decide), h.not_mem (by decide), h.not_mem (by decide)⟩

/-- A text without marks stays where it is. -/
theorem unchanged_of_no_marks (hPlace : place.Possible) (h : ∀ mark ∈ marks, mark ∉ text) :
    Unchanged place text place := by
  induction text with
  | nil => exact .nil _
  | cons c text ih =>
    have hNe : ∀ mark ∈ marks, c ≠ mark := fun mark hMark hEq =>
      h mark hMark (hEq ▸ List.mem_cons_self)
    have hFirst := unchanged_singleton place (hNe '&' (by decide)) (hNe '<' (by decide))
      (hNe '>' (by decide))
    rw [hPlace.after_eq_self (hNe '<' (by decide)) (hNe '>' (by decide)) (hNe '"' (by decide))
      (hNe '\'' (by decide))] at hFirst
    exact hFirst.append (ih fun mark hMark hMem => h mark hMark (List.mem_cons_of_mem c hMem))

/-- What stands between the `&` and the end of a reference holds no marks. -/
theorem IsBody.unchanged (h : IsBody body) (hPlace : place.Possible) :
    Unchanged place (body ++ [';']) place := by
  refine unchanged_of_no_marks hPlace fun mark hMark hMem => ?_
  rcases List.mem_append.mp hMem with hMem | hMem
  · exact h.isName.1.not_mem hMark hMem
  · exact absurd (List.mem_singleton.mp hMem ▸ hMark) (by decide)

/-- A reference stays what it is. -/
theorem unchanged_reference (hPlace : place.Possible) (h : IsBody body)
    (hLength : body.length ≤ maxReferenceLength) :
    Unchanged place ('&' :: (body ++ [';'])) place := by
  intro rest
  have hStarts : startsReference (body ++ [';'] ++ rest) = true :=
    startsReference_iff.mpr ⟨body, rest, List.append_assoc .., h, hLength⟩
  have hEscaped : place.escaped '&' (body ++ [';'] ++ rest) = ['&'] :=
    Place.escaped_eq_self_iff.mpr ⟨fun _ => hStarts, fun h => absurd h (by decide)⟩
  have hAfter : place.after '&' = place :=
    hPlace.after_eq_self (by decide) (by decide) (by decide) (by decide)
  rw [List.cons_append, Place.write, hEscaped, hAfter, h.unchanged hPlace rest]
  rfl

theorem unchanged_named (hPlace : place.Possible) (h : (name, c) ∈ namedReferences) :
    Unchanged place ('&' :: (name ++ [';'])) place :=
  unchanged_reference hPlace (.named h) (isReference_of_mem h).length_le

/-- **A written value is no business of repair.** -/
theorem unchanged_encode (value : Text) :
    Unchanged (.inValue '"') (encode value) (.inValue '"') := by
  induction value with
  | nil => exact .nil _
  | cons c value ih =>
    rw [encode, List.flatMap_cons, ← encode]
    refine Unchanged.append ?_ ih
    rcases encodeChar_cases c with ⟨hEq, hAmp, hLess, hMore, hQuote⟩ | ⟨name, hEq, hName⟩ <;>
      rw [hEq]
    · have hSingleton := unchanged_singleton (.inValue '"') hAmp hLess hMore
      have hAfter : (Place.inValue '"').after c = .inValue '"' := if_neg hQuote
      rw [hAfter] at hSingleton
      exact hSingleton
    · exact unchanged_named (show (Place.inValue '"').Possible from .inl rfl) hName

end ScreenQuery.Markup
