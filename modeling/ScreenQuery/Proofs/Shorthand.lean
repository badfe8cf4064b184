import ScreenQuery.Proofs.Text.Parts
import ScreenQuery.Selector.Shorthand

/-!
# Attribute selectors with quoted values

`Shorthand.toText` shows the value of an attribute selector between quotes. What stands between the
brackets is split at its first `*=` before anybody looks at quotes.

* In `[name*="…"]` that is the sign of the selector, because the name holds no star. Whatever the
  value holds, it comes back as it is.
* In `[name="…"]` there is a `*=` only when the value holds one (`infix_quoted_iff`). Then the text
  is split inside the value: what stands before the `*=`, with the name and the first quote, is
  taken for the name of an attribute (`ofBody_torn`).

About `parse` of `Shorthand`, with `parse_attribute`, `attribute_name` and `unquote`.
-/

namespace ScreenQuery.Shorthand

variable {name value rest before after : Text}

/-- A text that may stand as the name of an attribute. -/
structure IsName (name : Text) : Prop where
  nonempty : name ≠ []
  chars : ∀ c ∈ name, Text.isBlank c = false ∧ c ∉ ['[', ']']

/-- A name of an attribute that no mark of the shorthand can be mistaken for. -/
structure IsKey (name : Text) : Prop where
  nonempty : name ≠ []
  chars : ∀ c ∈ name, Text.isBlank c = false ∧ c ∉ ['[', ']', '=', '*']

instance (name : Text) : Decidable (IsKey name) :=
  have := List.decidableBAll (fun c => Text.isBlank c = false ∧ c ∉ ['[', ']', '=', '*']) name
  decidable_of_iff (name ≠ [] ∧ ∀ c ∈ name, Text.isBlank c = false ∧ c ∉ ['[', ']', '=', '*'])
    ⟨fun h => ⟨h.1, h.2⟩, fun h => ⟨h.nonempty, h.chars⟩⟩

/-! ## Brackets and quotes -/

theorem trim_brackets (body : Text) : Text.trim ("[" ++ body ++ "]") = "[" ++ body ++ "]" := by
  refine Text.trim_eq_self (Text.stops_of_head? rfl (by decide)) fun c hc => ?_
  have hLast : ("[" ++ body ++ "]" : Text).getLast? = some ']' := List.getLast?_concat
  obtain rfl : ']' = c := Option.some.inj (hLast.symm.trans hc)
  decide

/-- What stands between brackets is read by itself. -/
theorem parse_brackets (body : Text) : parse ("[" ++ body ++ "]") =
    (ofBody body).mapError fun fault => ⟨"[" ++ body ++ "]", fault⟩ := by
  have hSuffix : Text.dropSuffix? "]" (body ++ "]") = some body :=
    Text.dropSuffix?_eq_some_iff.mpr rfl
  have hBody : ofTrimmed ("[" ++ body ++ "]") = ofBody body := by
    show ofTrimmed ('[' :: (body ++ "]")) = ofBody body
    rw [ofTrimmed, hSuffix]
  rw [parse, trim_brackets, hBody]

section

variable {quote : Char} (hQuote : quote = '"' ∨ quote = '\'')

theorem betweenQuotes?_quoted (quote : Char) (value : Text) :
    betweenQuotes? quote (quote :: (value ++ [quote])) = some value := by
  have hLast : (quote :: (value ++ [quote])).getLast? = some quote := by
    rw [← List.cons_append, List.getLast?_concat]
  unfold betweenQuotes?
  rw [if_pos ⟨by simp, rfl, hLast⟩]
  exact congrArg some List.dropLast_concat

include hQuote

theorem trim_quoted (value : Text) :
    Text.trim (quote :: (value ++ [quote])) = quote :: (value ++ [quote]) := by
  have hBlank : Text.isBlank quote = false := by
    rcases hQuote with rfl | rfl <;> decide
  refine Text.trim_eq_self (Text.stops_of_head? rfl hBlank) fun c hc => ?_
  rw [← List.cons_append, List.getLast?_concat] at hc
  exact Option.some.inj hc ▸ hBlank

/-- One pair of quotes is taken off, and what stands between them is left alone. -/
theorem unquote_between (value : Text) : unquote (quote :: (value ++ [quote])) = value := by
  rw [unquote, trim_quoted hQuote]
  rcases hQuote with rfl | rfl
  · rw [betweenQuotes?_quoted]
    rfl
  · have hOther : betweenQuotes? '"' ('\'' :: (value ++ ['\''])) = none := if_neg (by simp)
    rw [hOther, betweenQuotes?_quoted]
    rfl

/-- Blanks around the quotes do not matter. -/
theorem unquote_eq_of_trim_eq {raw : Text} {value : Text}
    (h : Text.trim raw = quote :: (value ++ [quote])) : unquote raw = value := by
  rw [← unquote_between hQuote value, unquote, unquote, h, trim_quoted hQuote]

end

theorem unquote_quoted (value : Text) : unquote ("\"" ++ value ++ "\"") = value :=
  unquote_between (.inl rfl) value

/-! ## Names -/

theorem IsName.trim_eq (h : IsName name) : Text.trim name = name :=
  Text.trim_eq_self (fun c hc => (h.chars c (List.mem_of_mem_head? hc)).1)
    fun c hc => (h.chars c (List.mem_of_getLast? hc)).1

/-- The name of an attribute is what stands between blanks. -/
theorem attributeName_eq_ok_iff {raw : Text} :
    attributeName raw = .ok name ↔ Text.trim raw = name ∧ IsName name := by
  have hPlain : ((Text.trim raw).any fun c => Text.isBlank c || c == '[' || c == ']') = false ↔
      ∀ c ∈ Text.trim raw, Text.isBlank c = false ∧ c ∉ ['[', ']'] := by
    simp only [List.any_eq_false, Bool.or_eq_true, beq_iff_eq, List.mem_cons, List.not_mem_nil,
      or_false, not_or, Bool.not_eq_true, and_assoc]
  unfold attributeName
  by_cases hNil : Text.trim raw = []
  · rw [if_pos (by simp [hNil])]
    exact iff_of_false (by simp) fun h => h.2.nonempty (h.1 ▸ hNil)
  · rw [if_neg (by simpa using hNil)]
    split
    next hAny =>
      refine iff_of_false (by simp) fun h => ?_
      obtain ⟨rfl, hName⟩ := h
      rw [hPlain.mpr hName.chars] at hAny
      cases hAny
    next hAny =>
      have hChars := hPlain.mp (by simpa using hAny)
      exact ⟨fun hOk => Except.ok.inj hOk ▸ ⟨rfl, hNil, hChars⟩, fun h => by rw [h.1]⟩

theorem IsName.attributeName_eq (h : IsName name) : attributeName name = .ok name :=
  attributeName_eq_ok_iff.mpr ⟨h.trim_eq, h⟩

namespace IsKey

variable (h : IsKey name)

include h

theorem isName : IsName name where
  nonempty := h.nonempty
  chars := by
    have hMarks : ['[', ']'] ⊆ ['[', ']', '=', '*'] := by decide
    exact fun c hc => (h.chars c hc).imp id fun hNot hMark => hNot (hMarks hMark)

theorem attributeName_eq : attributeName name = .ok name := h.isName.attributeName_eq

theorem star_not_mem : '*' ∉ name := fun hMem => (h.chars _ hMem).2 (by decide)

theorem star_not_mem_lead : '*' ∉ name ++ ("=\"" : Text) := by
  rw [List.mem_append, not_or]
  exact ⟨h.star_not_mem, by decide⟩

theorem sign_not_mem : '=' ∉ name := fun hMem => (h.chars _ hMem).2 (by decide)

/-! ## What stands between the brackets -/

theorem ofBody_containing (rest : Text) :
    ofBody (name ++ ("*=" ++ rest)) = .ok (.containing name (unquote rest)) := by
  have hFirst : ¬ ("*=" : Text) <:+: name ++ ("*=" : Text).dropLast := by
    rw [show ("*=" : Text) = '*' :: ['='] from rfl, Text.infix_append_iff h.star_not_mem]
    decide
  rw [ofBody, Text.splitFirst_append hFirst]
  simp only [h.attributeName_eq]
  rfl

theorem ofBody_equals (hRest : ¬ ("*=" : Text) <:+: name ++ ("=" ++ rest)) :
    ofBody (name ++ ("=" ++ rest)) = .ok (.equals name (unquote rest)) := by
  have hFirst : ¬ ("=" : Text) <:+: name ++ ("=" : Text).dropLast := by
    rw [show ("=" : Text) = '=' :: [] from rfl, Text.infix_append_iff h.sign_not_mem]
    decide
  rw [ofBody, Text.splitFirst_eq_none_iff.mpr hRest]
  simp only [Text.splitFirst_append hFirst, h.attributeName_eq]
  rfl

/-- The name, the sign and the quotes bring no `*=`. -/
theorem infix_quoted_iff :
    ("*=" : Text) <:+: name ++ ("=" ++ ("\"" ++ value ++ "\"")) ↔ ("*=" : Text) <:+: value := by
  have hText : name ++ ("=" ++ ("\"" ++ value ++ "\"")) =
      (name ++ "=\"") ++ (value ++ ['"']) := by simp
  rw [hText, show ("*=" : Text) = '*' :: ['='] from rfl, Text.infix_append_iff h.star_not_mem_lead,
    Text.infix_concat_iff (by decide)]

/-- A value that holds `*=` is torn at the first one. -/
theorem ofBody_torn (hFirst : ¬ ("*=" : Text) <:+: before) :
    ofBody (name ++ ("=" ++ ("\"" ++ (before ++ "*=" ++ after) ++ "\""))) =
      (attributeName (name ++ "=\"" ++ before)).map fun key =>
        .containing key (unquote (after ++ "\"")) := by
  have hText : name ++ ("=" ++ ("\"" ++ (before ++ "*=" ++ after) ++ "\"")) =
      (name ++ "=\"" ++ before) ++ ("*=" ++ (after ++ "\"")) := by simp
  have hEarlier : ¬ ("*=" : Text) <:+: name ++ "=\"" ++ before ++ ("*=" : Text).dropLast := by
    rw [show ("*=" : Text) = '*' :: ['='] from rfl, List.append_assoc,
      Text.infix_append_iff h.star_not_mem_lead]
    exact fun hInfix => hFirst ((Text.infix_concat_iff (by decide)).mp hInfix)
  rw [hText, ofBody, Text.splitFirst_append hEarlier]

end IsKey

/-! ## Selectors -/

/-- **A value between quotes is taken as it is**, unless it is to be equal and holds `*=`. These are
the texts by which such selectors are shown. A part that is to be contained comes back whatever it
holds. A value that is to be equal comes back just when it does not hold `*=`; if it does, what
stands before the first `*=` is taken for the end of the name, and what stands behind it, with the
closing quote, for a part that is to be contained. -/
theorem parse_quoted (h : IsKey name) (value : Text) :
    let part := "[" ++ name ++ "*=\"" ++ value ++ "\"]"
    let whole := "[" ++ name ++ "=\"" ++ value ++ "\"]"
    ((Shorthand.containing name value).toText = part ∧
      parse part = .ok (.containing name value)) ∧
    ((Shorthand.equals name value).toText = whole ∧
      (parse whole = .ok (.equals name value) ↔ ¬ ("*=" : Text) <:+: value)) ∧
    ∀ before after : Text, value = before ++ "*=" ++ after → ¬ ("*=" : Text) <:+: before →
      parse whole = ((attributeName (name ++ "=\"" ++ before)).map fun key =>
        .containing key (unquote (after ++ "\""))).mapError fun fault => ⟨whole, fault⟩ := by
  intro part whole
  have hPart : part = "[" ++ (name ++ ("*=" ++ ("\"" ++ value ++ "\""))) ++ "]" := by simp [part]
  have hWhole : whole = "[" ++ (name ++ ("=" ++ ("\"" ++ value ++ "\""))) ++ "]" := by
    simp [whole]
  have hTorn : ∀ before after : Text, value = before ++ "*=" ++ after →
      ¬ ("*=" : Text) <:+: before → parse whole =
        ((attributeName (name ++ "=\"" ++ before)).map fun key =>
          .containing key (unquote (after ++ "\""))).mapError fun fault => ⟨whole, fault⟩ := by
    rintro before after rfl hFirst
    rw [hWhole, parse_brackets, h.ofBody_torn hFirst]
  refine ⟨⟨rfl, ?part⟩, ⟨rfl, fun hWritten hInfix => ?torn, fun hInfix => ?whole⟩, hTorn⟩
  case part =>
    rw [hPart, parse_brackets, h.ofBody_containing, unquote_quoted]
    rfl
  case whole =>
    rw [hWhole, parse_brackets, h.ofBody_equals (h.infix_quoted_iff.not.mpr hInfix), unquote_quoted]
    rfl
  case torn =>
    obtain ⟨⟨before, after⟩, hSplit⟩ := Option.ne_none_iff_exists'.mp fun hNone =>
      Text.splitFirst_eq_none_iff.mp hNone hInfix
    obtain ⟨hValue, hFirst⟩ : value = before ++ '*' :: ('=' :: after) ∧ ¬ ['*', '='] <:+: before :=
      Text.splitFirst_eq_some hSplit
    rw [hTorn before after (by simp [hValue]) hFirst] at hWritten
    -- whether there is such a name or not, nothing is said to be equal
    cases hName : attributeName (name ++ "=\"" ++ before) <;> rw [hName] at hWritten <;>
      cases hWritten

/-- Signs, brackets, quotes and blanks in a value come through. Only where the value is to be equal
does a blank have to part the star from the sign. -/
theorem parse_quoted_marks :
    IsKey "text" ∧
      parse ("[" ++ "text" ++ "*=\"" ++ " [x='*= \"1\"] " ++ "\"]") =
        .ok (.containing "text" " [x='*= \"1\"] ") ∧
      parse ("[" ++ "text" ++ "=\"" ++ " [x='* = \"1\"] " ++ "\"]") =
        .ok (.equals "text" " [x='* = \"1\"] ") := by
  have hKey : IsKey "text" := by decide +kernel
  obtain ⟨⟨-, hPart⟩, -, -⟩ := parse_quoted hKey " [x='*= \"1\"] "
  obtain ⟨-, ⟨-, hWhole⟩, -⟩ := parse_quoted hKey " [x='* = \"1\"] "
  exact ⟨hKey, hPart, hWhole.mpr (by decide +kernel)⟩

/-- A value with `*=` in it is torn, and another attribute is looked for. -/
theorem parse_quoted_star_sign :
    IsKey "text" ∧ parse ("[" ++ "text" ++ "=\"" ++ "a*=b" ++ "\"]") ≠ .ok (.equals "text" "a*=b") ∧
      parse ("[" ++ "text" ++ "=\"" ++ "a*=b" ++ "\"]") = .ok (.containing "text=\"a" "b\"") := by
  decide +kernel

end ScreenQuery.Shorthand
