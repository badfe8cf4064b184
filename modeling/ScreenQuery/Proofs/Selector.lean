import ScreenQuery.Proofs.Shorthand
import ScreenQuery.Selector.Basic

/-!
# Selectors are shown by texts that can be read

Messages show a selector by `Selector.toText`, and a reader may want to use that text again.

* Only what trimming leaves of a text is read. A path, and a shorthand selector that is not about an
  attribute, are shown by just that (`PathQuery.parse_trim`, `Shorthand.ofTrimmed_cases`).
* An attribute selector is written anew, without blanks and with its value in double quotes.
  `Shorthand.Legible` is what reading ensures of its name and value: enough for the text to be split
  again where it was put together (`Shorthand.parse_toText_of_legible`).
* There is one exception. In `[text* =x]` a blank keeps the star of the name from the sign. Written
  without it they make another sign, and the text shown is that of the selector that looks for a
  part (`Shorthand.toText_starred`).

About `parse` of `Selector`, `Shorthand` and `PathQuery`, and the texts by which they are shown.
-/

namespace ScreenQuery

namespace Shorthand

variable {name value raw body key : Text} {short : Shorthand}

/-! ## Values -/

theorem isInfix_of_betweenQuotes? {quote : Char} (h : betweenQuotes? quote raw = some value) :
    value <:+: raw := by
  unfold betweenQuotes? at h
  split at h
  · cases h
    exact (List.dropLast_prefix _).isInfix.trans (List.drop_suffix 1 raw).isInfix
  · cases h

/-- Only characters around a value are taken off. -/
theorem unquote_isInfix (raw : Text) : unquote raw <:+: raw := by
  refine List.IsInfix.trans ?_ (Text.trim_isInfix raw)
  unfold unquote
  dsimp only
  cases hDouble : betweenQuotes? '"' (Text.trim raw) with
  | some value => exact isInfix_of_betweenQuotes? hDouble
  | none =>
    cases hSingle : betweenQuotes? '\'' (Text.trim raw) with
    | some value => exact isInfix_of_betweenQuotes? hSingle
    | none => exact List.infix_refl _

/-! ## Attribute selectors that were read -/

/-- What reading ensures of an attribute selector. A sign at which the text would have been split
does not occur ahead of the sign at which it was. -/
inductive Legible : Shorthand → Prop
  | containing {name part : Text} (hName : IsName name) (hStar : ¬ ("*=" : Text) <:+: name) :
    Legible (.containing name part)
  | equals {name value : Text} (hName : IsName name) (hSign : '=' ∉ name)
    (hStar : ¬ ("*=" : Text) <:+: value) : Legible (.equals name value)
  | present {name : Text} (hName : IsName name) (hSign : '=' ∉ name) : Legible (.present name)

theorem map_attributeName_eq_ok {make : Text → Shorthand}
    (h : (attributeName raw).map make = .ok short) :
    IsName (Text.trim raw) ∧ short = make (Text.trim raw) := by
  cases hName : attributeName raw with
  | error fault => rw [hName] at h; cases h
  | ok name =>
    rw [hName] at h
    cases h
    obtain ⟨rfl, hIsName⟩ := attributeName_eq_ok_iff.mp hName
    exact ⟨hIsName, rfl⟩

theorem legible_of_ofBody (h : ofBody body = .ok short) : Legible short := by
  unfold ofBody at h
  cases hStar : Text.splitFirst "*=" body with
  | some parts =>
    obtain ⟨before, after⟩ := parts
    rw [hStar] at h
    obtain ⟨hName, rfl⟩ := map_attributeName_eq_ok h
    exact .containing hName fun hInfix =>
      (Text.splitFirst_eq_some hStar).2 (hInfix.trans (Text.trim_isInfix before))
  | none =>
    rw [hStar] at h
    have hNoStar := Text.splitFirst_eq_none_iff.mp hStar
    cases hSign : Text.splitFirst "=" body with
    | some parts =>
      obtain ⟨before, after⟩ := parts
      rw [hSign] at h
      obtain ⟨hBody, hBefore⟩ : body = before ++ '=' :: after ∧ '=' ∉ before :=
        Text.splitFirst_singleton_iff.mp hSign
      obtain ⟨hName, rfl⟩ := map_attributeName_eq_ok h
      refine .equals hName (fun hMem => hBefore ((Text.trim_isInfix before).subset hMem)) ?_
      have hAfter : after <:+: body := ⟨before ++ ['='], [], by rw [hBody]; simp⟩
      exact fun hInfix => hNoStar (hInfix.trans ((unquote_isInfix after).trans hAfter))
    | none =>
      rw [hSign] at h
      obtain ⟨hName, rfl⟩ := map_attributeName_eq_ok h
      refine .present hName fun hMem => Text.splitFirst_eq_none_iff.mp hSign ?_
      exact (List.singleton_infix_iff '=' body).mpr ((Text.trim_isInfix body).subset hMem)

/-! ## Attribute selectors as they are shown -/

/-- Where a name does not end in a star, the name, the sign and the quotes bring no `*=`. -/
theorem star_of_quoted (hSign : '=' ∉ name) (hEnd : name.getLast? ≠ some '*')
    (hInfix : ("*=" : Text) <:+: name ++ ("=" ++ ("\"" ++ value ++ "\""))) :
    ("*=" : Text) <:+: value := by
  have hText : name ++ ("=" ++ ("\"" ++ value ++ "\"")) =
      (name ++ ['=']) ++ '"' :: (value ++ ['"']) := by
    simp
  rw [hText] at hInfix
  rcases Text.infix_append_cons (by decide) hInfix with hFront | hBack
  · exfalso
    obtain ⟨lead, hStart⟩ | hName := List.infix_concat_iff.mp hFront
    · have hEnds : lead ++ ['*'] ++ ['='] = name ++ ['='] := by
        rw [← hStart, List.append_assoc]
        rfl
      exact hEnd (List.append_cancel_right hEnds ▸ List.getLast?_concat)
    · exact hSign (hName.subset (by decide))
  · exact (Text.infix_concat_iff (by decide)).mp hBack

/-- **An attribute selector that was read is read back**, unless its name runs into the sign. -/
theorem parse_toText_of_legible (h : Legible short)
    (hEnd : ∀ key value, short ≠ .equals (key ++ "*") value) : parse short.toText = .ok short := by
  cases h with
  | @containing name part hName hStar =>
    have hText : (Shorthand.containing name part).toText =
        "[" ++ (name ++ ("*=" ++ ("\"" ++ part ++ "\""))) ++ "]" := by
      simp [toText]
    have hFirst : ¬ ("*=" : Text) <:+: name ++ ("*=" : Text).dropLast := fun hInfix =>
      hStar ((Text.infix_concat_iff (by decide)).mp hInfix)
    rw [hText, parse_brackets, ofBody, Text.splitFirst_append hFirst]
    simp only [hName.attributeName_eq, unquote_quoted]
    rfl
  | @equals name value hName hSign hStar =>
    have hText : (Shorthand.equals name value).toText =
        "[" ++ (name ++ ("=" ++ ("\"" ++ value ++ "\""))) ++ "]" := by
      simp [toText]
    have hLast : name.getLast? ≠ some '*' := by
      intro hLast
      obtain ⟨key, rfl⟩ := List.getLast?_eq_some_iff.mp hLast
      exact hEnd key value rfl
    have hNone := Text.splitFirst_eq_none_iff.mpr fun hInfix =>
      hStar (star_of_quoted hSign hLast hInfix)
    have hSome : Text.splitFirst "=" (name ++ ("=" ++ ("\"" ++ value ++ "\""))) =
        some (name, "\"" ++ value ++ "\"") :=
      Text.splitFirst_singleton_iff.mpr ⟨rfl, hSign⟩
    rw [hText, parse_brackets, ofBody, hNone, hSome]
    simp only [hName.attributeName_eq, unquote_quoted]
    rfl
  | @present name hName hSign =>
    have hNone : Text.splitFirst "=" name = none := Text.splitFirst_eq_none_iff.mpr fun hInfix =>
      hSign ((List.singleton_infix_iff '=' name).mp hInfix)
    have hNoStar : Text.splitFirst "*=" name = none :=
      Text.splitFirst_eq_none_iff.mpr fun hInfix => hSign (hInfix.subset (by decide))
    rw [toText, parse_brackets, ofBody, hNoStar, hNone]
    simp only [hName.attributeName_eq]
    rfl

/-- A star at the end of the name makes the text that of a selector that looks for a part. -/
theorem toText_starred (key value : Text) :
    (Shorthand.equals (key ++ "*") value).toText = (Shorthand.containing key value).toText := by
  simp [toText]

theorem parse_starred (hName : IsName (key ++ "*")) (hSign : '=' ∉ key ++ ("*" : Text)) :
    parse (Shorthand.equals (key ++ "*") value).toText =
      if key = [] then
        .error ⟨(Shorthand.equals (key ++ "*") value).toText, .missingAttributeName⟩
      else .ok (.containing key value) := by
  by_cases hNil : key = []
  · subst hNil
    have hText : (Shorthand.equals ([] ++ ("*" : Text)) value).toText =
        "[" ++ ("*=" ++ ("\"" ++ value ++ "\"")) ++ "]" := by
      simp [toText]
    have hSplit : Text.splitFirst "*=" ("*=" ++ ("\"" ++ value ++ "\"")) =
        some ([], "\"" ++ value ++ "\"") :=
      @Text.splitFirst_append "*=" [] (by decide) ("\"" ++ value ++ "\"")
    rw [if_pos rfl, hText, parse_brackets, ofBody, hSplit]
    rfl
  · rw [if_neg hNil, toText_starred]
    refine parse_toText_of_legible (.containing ⟨hNil, fun c hc => ?_⟩ fun hInfix => ?_)
      fun _ _ => Shorthand.noConfusion
    · exact hName.chars c (List.mem_append_left _ hc)
    · exact hSign (List.mem_append_left _ (hInfix.subset (by decide)))

/-! ## All shorthand selectors -/

/-- A selector that is not about an attribute is shown by the text that was read. -/
theorem ofTrimmed_cases {text : Text} (h : ofTrimmed text = .ok short) :
    (short.toText = text ∧ ∀ name value, short ≠ .equals name value) ∨ Legible short := by
  unfold ofTrimmed at h
  split at h
  · cases h
  · split at h <;> cases h
    exact .inl ⟨rfl, nofun⟩
  · split at h <;> cases h
    exact .inl ⟨rfl, nofun⟩
  · split at h
    · exact .inr (legible_of_ofBody h)
    · cases h
  · cases h
    exact .inl ⟨rfl, nofun⟩

theorem ofTrimmed_of_parse {input : Text} (h : parse input = .ok short) :
    ofTrimmed (Text.trim input) = .ok short := by
  unfold parse at h
  cases hRead : ofTrimmed (Text.trim input) with
  | error fault => rw [hRead] at h; cases h
  | ok read => rw [hRead] at h; cases h; rfl

theorem parse_trim {input : Text} (h : parse input = .ok short) :
    parse (Text.trim input) = .ok short := by
  rw [parse, Text.trim_trim, ofTrimmed_of_parse h]
  rfl

end Shorthand

theorem PathQuery.parse_trim {input : Text} {query : PathQuery} (h : parse input = .ok query) :
    parse (Text.trim input) = .ok query ∧ query.toText = Text.trim input := by
  unfold parse at h ⊢
  rw [Text.trim_trim]
  cases hSteps : stepsOf (Text.trim input) with
  | error fault => rw [hSteps] at h; cases h
  | ok steps => rw [hSteps] at h; cases h; exact ⟨rfl, rfl⟩

namespace Selector

variable {input : Text} {selector : Selector}

/-- A text is a path when what trimming leaves of it begins with a slash. -/
theorem parse_eq (input : Text) : parse input =
    if (Text.trim input).head? = some '/' then (PathQuery.parse input).map .path
    else (Shorthand.parse input).map .shorthand := by
  rw [Text.head?_trim, parse]
  cases Text.trimStart input with
  | nil => rfl
  | cons c rest =>
    by_cases hSlash : c = '/'
    · subst hSlash
      rfl
    · rw [if_neg (by simpa using hSlash)]
      split
      · rename_i hEq
        exact absurd (List.cons.inj hEq).1 hSlash
      · rfl

/-- What was read is a path, or a shorthand selector of a text that does not look like a path. -/
theorem parse_cases (h : parse input = .ok selector) :
    (∃ query, PathQuery.parse input = .ok query ∧ selector = .path query ∧
      (Text.trim input).head? = some '/') ∨
    ∃ short, Shorthand.parse input = .ok short ∧ selector = .shorthand short ∧
      (Text.trim input).head? ≠ some '/' := by
  rw [parse_eq] at h
  split at h
  · rename_i hSlash
    cases hQuery : PathQuery.parse input with
    | error error => rw [hQuery] at h; cases h
    | ok query =>
      rw [hQuery] at h
      cases h
      exact .inl ⟨query, rfl, rfl, hSlash⟩
  · rename_i hSlash
    cases hShort : Shorthand.parse input with
    | error error => rw [hShort] at h; cases h
    | ok short =>
      rw [hShort] at h
      cases h
      exact .inr ⟨short, rfl, rfl, hSlash⟩

/-- An attribute selector is shown by a text in brackets, which does not look like a path. -/
theorem parse_toText_shorthand {short : Shorthand} (h : Shorthand.Legible short) :
    parse (Selector.shorthand short).toText = (Shorthand.parse short.toText).map .shorthand := by
  obtain ⟨body, hBody⟩ : ∃ body, short.toText = "[" ++ body ++ "]" := by
    cases h with
    | @containing name part =>
      exact ⟨name ++ ("*=\"" ++ part ++ "\""), by simp [Shorthand.toText]⟩
    | @equals name value =>
      exact ⟨name ++ ("=\"" ++ value ++ "\""), by simp [Shorthand.toText]⟩
    | @present name => exact ⟨name, rfl⟩
  have hHead : (Text.trim short.toText).head? = some '[' := by
    rw [hBody, Shorthand.trim_brackets]
    rfl
  rw [toText, parse_eq, hHead, if_neg (by decide)]

/-- **A selector that was read is shown by a text that is read as the same selector**, but for one
kind: when an attribute is to have a value and its name ends in a star, the star is taken for a part
of the sign. What is looked for then is an attribute that contains the value; if there is no more to
the name than the star, nothing can be read. -/
theorem parse_toText (h : parse input = .ok selector) :
    (parse selector.toText = .ok selector ↔
      ∀ key value, selector ≠ .shorthand (.equals (key ++ "*") value)) ∧
    ∀ key value, selector = .shorthand (.equals (key ++ "*") value) →
      parse selector.toText =
        if key = [] then .error ⟨selector.toText, .missingAttributeName⟩
        else .ok (.shorthand (.containing key value)) := by
  have hStarred : ∀ key value, selector = .shorthand (.equals (key ++ "*") value) →
      Shorthand.Legible (.equals (key ++ "*") value) → parse selector.toText =
        if key = [] then .error ⟨selector.toText, .missingAttributeName⟩
        else .ok (.shorthand (.containing key value)) := by
    rintro key value rfl hLegible
    have hRead : Shorthand.parse (Shorthand.equals (key ++ "*") value).toText = _ :=
      match hLegible with
      | .equals hName hSign _ => Shorthand.parse_starred hName hSign
    rw [parse_toText_shorthand hLegible, hRead]
    split <;> rfl
  rcases parse_cases h with ⟨query, hQuery, rfl, hSlash⟩ | ⟨short, hShort, rfl, hSlash⟩
  · obtain ⟨hRead, hText⟩ := PathQuery.parse_trim hQuery
    have hSame : parse (Selector.path query).toText = .ok (.path query) := by
      rw [toText, hText, parse_eq, Text.trim_trim, if_pos hSlash, hRead]
      rfl
    exact ⟨iff_of_true hSame nofun, nofun⟩
  · rcases Shorthand.ofTrimmed_cases (Shorthand.ofTrimmed_of_parse hShort) with
      ⟨hText, hOther⟩ | hLegible
    · have hSame : parse (Selector.shorthand short).toText = .ok (.shorthand short) := by
        rw [toText, hText, parse_eq, Text.trim_trim, if_neg hSlash, Shorthand.parse_trim hShort]
        rfl
      have hNone : ∀ key value,
          Selector.shorthand short ≠ .shorthand (.equals (key ++ "*") value) :=
        fun key value hEq => hOther _ _ (Selector.shorthand.inj hEq)
      exact ⟨iff_of_true hSame hNone, fun key value hEq => absurd hEq (hNone key value)⟩
    · refine ⟨⟨fun hOk key value hEq => ?_, fun hNone => ?_⟩, fun key value hEq => ?_⟩
      · have hRead := hStarred key value hEq (Selector.shorthand.inj hEq ▸ hLegible)
        rw [hOk, hEq] at hRead
        split at hRead <;> cases hRead
      · rw [parse_toText_shorthand hLegible, Shorthand.parse_toText_of_legible hLegible
          fun key value hEq => hNone key value (congrArg Selector.shorthand hEq)]
        rfl
      · exact hStarred key value hEq (Selector.shorthand.inj hEq ▸ hLegible)

/-- Blanks and quotes are written anew, signs and brackets in a value stay, and a path is shown as
it was given. -/
theorem parse_toText_spaced :
    parse " [ text = ' a]=[b\" ' ] " = .ok (.shorthand (.equals "text" " a]=[b\" ")) ∧
      (Selector.shorthand (.equals "text" " a]=[b\" ")).toText = "[text=\" a]=[b\" \"]" ∧
      parse "[text=\" a]=[b\" \"]" = .ok (.shorthand (.equals "text" " a]=[b\" ")) := by
  have hRead : parse " [ text = ' a]=[b\" ' ] " =
      .ok (.shorthand (.equals "text" " a]=[b\" ")) := by
    rw [parse_eq, if_neg (by decide +kernel)]
    rfl
  have hText : (Selector.shorthand (.equals "text" " a]=[b\" ")).toText =
      "[text=\" a]=[b\" \"]" := by
    decide +kernel
  have hBack := (parse_toText hRead).1.mpr fun key value hEq => by
    have hName : ("text" : Text) = key ++ ['*'] :=
      (Shorthand.equals.inj (Selector.shorthand.inj hEq)).1
    have hMem : '*' ∈ ("text" : Text) := hName ▸ List.mem_append_right key (by decide)
    exact absurd hMem (by decide)
  rw [hText] at hBack
  exact ⟨hRead, hText, hBack⟩

/-- A blank between the star and the sign is lost, and the selector with it. -/
theorem starred_name_lost :
    parse "[text* =x]" = .ok (.shorthand (.equals "text*" "x")) ∧
      (Selector.shorthand (.equals "text*" "x")).toText = "[text*=\"x\"]" ∧
      parse "[text*=\"x\"]" = .ok (.shorthand (.containing "text" "x")) ∧
    parse "[* =x]" = .ok (.shorthand (.equals "*" "x")) ∧
      (Selector.shorthand (.equals "*" "x")).toText = "[*=\"x\"]" ∧
      parse "[*=\"x\"]" = .error ⟨"[*=\"x\"]", .missingAttributeName⟩ := by
  refine ⟨?_, ?_, ?_, ?_, ?_, ?_⟩ <;> rfl

end Selector

end ScreenQuery
