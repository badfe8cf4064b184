import ScreenQuery.Proofs.Markup.Comment

/-!
# The normal form of repair

* `IsClean text`: repair finds nothing to drop and nothing to escape. Every ampersand starts a
  reference, and no bracket stands in a value. It is said by positions, and it is the same as being
  a fixed point of `escape` without control characters (`isClean_iff`), so it can be evaluated.
* Whether an ampersand is escaped depends on the text as it was, not on the text as it is written.
  The two agree, for repair leaves references alone (`startsReference_write`) and its escapes are
  references themselves. So what it writes at a place it does not write anew (`write_write`).
* The text that repair returns is clean. A second repair can only cut it: when a value was left open
  the last bracket has been escaped, and the part behind the last bracket that was not is dropped.

About `sanitize` and `starts_entity`.
-/

namespace ScreenQuery.Markup

variable {place : Place} {text front rest : Text} {c : Char}

/-! ## What repair has written is not written anew -/

/-- A reference is one in the repaired text, too. -/
theorem startsReference_write (hPlace : place.Possible) (h : startsReference rest = true) :
    startsReference (place.write rest) = true := by
  obtain ⟨body, tail, rfl, hBody, hLength⟩ := startsReference_iff.mp h
  have hWrite := hBody.unchanged hPlace tail
  rw [List.append_assoc, List.append_assoc] at hWrite
  exact startsReference_iff.mpr ⟨body, place.write tail, hWrite, hBody, hLength⟩

/-- One character of a text that is repaired twice. -/
theorem write_escaped (hPlace : place.Possible) (c : Char) (rest : Text) :
    place.write (place.escaped c rest ++ (place.after c).write rest) =
      place.escaped c rest ++ (place.after c).write ((place.after c).write rest) := by
  rcases place.escaped_cases c rest with hEq | ⟨rfl, hEq⟩ | ⟨⟨quote, rfl⟩, hEscape⟩
  · obtain ⟨hAmp, hBracket⟩ := Place.escaped_eq_self_iff.mp hEq
    have hAgain : place.escaped c ((place.after c).write rest) = [c] :=
      Place.escaped_eq_self_iff.mpr
        ⟨fun h => startsReference_write (hPlace.after c) (hAmp h), hBracket⟩
    rw [hEq, List.singleton_append, Place.write, hAgain]
  · have hAfter : place.after '&' = place :=
      hPlace.after_eq_self (by decide) (by decide) (by decide) (by decide)
    rw [hEq, hAfter]
    exact unchanged_named hPlace (show ("amp".toList, '&') ∈ namedReferences by decide) _
  · rcases hEscape with ⟨rfl, hEq⟩ | ⟨rfl, hEq⟩
    · rw [hEq, hPlace.after_bracket (.inl rfl)]
      exact unchanged_named hPlace (show ("lt".toList, '<') ∈ namedReferences by decide) _
    · rw [hEq, hPlace.after_bracket (.inr rfl)]
      exact unchanged_named hPlace (show ("gt".toList, '>') ∈ namedReferences by decide) _

theorem write_write (hPlace : place.Possible) (text : Text) :
    place.write (place.write text) = place.write text := by
  induction text generalizing place with
  | nil => rfl
  | cons c rest ih => rw [Place.write, write_escaped hPlace, ih (hPlace.after c)]

/-- Repair of a repaired text escapes nothing. -/
theorem escape_escape (text : Text) : escape (escape text) = escape text := by
  rw [escape_eq text, escape_eq, write_write (show Place.outside.Possible from trivial)]

/-! ## Texts without anything to escape -/

theorem write_cons_eq_self_iff : place.write (c :: rest) = c :: rest ↔
    place.escaped c rest = [c] ∧ (place.after c).write rest = rest := by
  rw [Place.write]
  constructor
  · intro h
    have hEscaped : place.escaped c rest = [c] := by
      rcases place.escaped_cases c rest with hEq | ⟨rfl, hEq⟩ | ⟨-, ⟨rfl, hEq⟩ | ⟨rfl, hEq⟩⟩
      · exact hEq
      · -- the rest of the escape stands in the text already
        rw [hEq] at h
        have hStarts : startsReference rest = true := startsReference_iff.mpr
          ⟨"amp", _, (List.cons.inj h).2.symm, .named (show (_, '&') ∈ _ by decide), by decide⟩
        exact Place.escaped_eq_self_iff.mpr ⟨fun _ => hStarts, fun h => absurd h (by decide)⟩
      all_goals
        rw [hEq] at h
        exact absurd (List.cons.inj h).1 (by decide)
    rw [hEscaped] at h
    exact ⟨hEscaped, (List.cons.inj h).2⟩
  · rintro ⟨hEscaped, hRest⟩
    rw [hEscaped, hRest, List.singleton_append]

/-- A text is written as it is when each of its characters is. -/
theorem write_eq_self_iff : place.write text = text ↔ ∀ before c rest,
    text = before ++ c :: rest → (place.through before).escaped c rest = [c] := by
  induction text generalizing place with
  | nil => simp [Place.write]
  | cons d text ih =>
    rw [write_cons_eq_self_iff, ih]
    constructor
    · rintro ⟨hFirst, hRest⟩ before c rest hText
      cases before with
      | nil =>
        obtain ⟨rfl, rfl⟩ := List.cons.inj hText
        exact hFirst
      | cons e before =>
        obtain ⟨rfl, hTail⟩ := List.cons.inj hText
        exact hRest before c rest hTail
    · intro h
      exact ⟨h [] d text rfl, fun before c rest hText =>
        h (d :: before) c rest (congrArg (List.cons d) hText)⟩

/-- **A text that repair has nothing to do on**, but for what stands around its markup. -/
structure IsClean (text : Text) : Prop where
  kept : IsKept text
  ampersand : ∀ before rest, text = before ++ '&' :: rest → startsReference rest = true
  bracket : ∀ before c rest, text = before ++ c :: rest → c = '<' ∨ c = '>' →
    ∀ quote, Place.outside.through before ≠ .inValue quote

theorem isClean_iff : IsClean text ↔ IsKept text ∧ escape text = text := by
  rw [escape_eq, write_eq_self_iff]
  constructor
  · intro h
    refine ⟨h.kept, fun before c rest hText => Place.escaped_eq_self_iff.mpr ⟨?_, ?_⟩⟩
    · rintro rfl
      exact h.ampersand before rest hText
    · exact h.bracket before c rest hText
  · rintro ⟨hKept, h⟩
    exact
      { kept := hKept
        ampersand := fun before rest hText =>
          (Place.escaped_eq_self_iff.mp (h before '&' rest hText)).1 rfl
        bracket := fun before c rest hText =>
          (Place.escaped_eq_self_iff.mp (h before c rest hText)).2 }

instance (text : Text) : Decidable (IsClean text) := decidable_of_iff' _ isClean_iff

/-- What ends in a bracket is clean by itself: no reference reaches over the bracket. -/
theorem IsClean.of_append (h : IsClean (front ++ rest)) (hLast : front.getLast? = some '>') :
    IsClean front where
  kept := fun c hc => h.kept c (List.mem_append_left _ hc)
  ampersand := by
    rintro before after rfl
    have hStarts := h.ampersand before (after ++ rest) (List.append_assoc ..)
    rw [List.getLast?_append, List.getLast?_cons] at hLast
    cases hAfter : after.getLast? with
    | none =>
      rw [hAfter] at hLast
      exact absurd (Option.some.inj hLast) (by decide)
    | some d =>
      rw [hAfter] at hLast
      obtain rfl : d = '>' := Option.some.inj hLast
      obtain ⟨body, rfl⟩ := List.getLast?_eq_some_iff.mp hAfter
      rw [List.append_assoc, List.singleton_append, startsReference_closed (by decide)] at hStarts
      rwa [startsReference_closed (by decide)]
  bracket := fun before c after hText => h.bracket before c (after ++ rest)
    (by rw [hText, List.append_assoc, List.cons_append])

/-! ## Repair of raw texts -/

/-- What is cut out, if anything, begins and ends with a bracket. -/
theorem cutMarkup_cases (text : Text) : cutMarkup text = [] ∨
    (cutMarkup text).head? = some '<' ∧ (cutMarkup text).getLast? = some '>' := by
  by_cases hNil : cutMarkup text = []
  · exact .inl hNil
  have hPrefix := cutMarkup_isPrefix text
  refine .inr ⟨?_, ?_⟩
  · have hFirst := List.head_dropWhile_not (fun c => c != '<') (hPrefix.ne_nil hNil)
    rw [← hPrefix.head hNil, bne_eq_false_iff_eq] at hFirst
    rw [List.head?_eq_some_head hNil, hFirst]
  · have hLast := List.rdropWhile_last_not (fun c => c != '>')
      (text.dropWhile fun c => c != '<') hNil
    rw [bne_iff_ne, not_not] at hLast
    rw [List.getLast?_eq_some_getLast hNil]
    exact congrArg some hLast

/-- Nothing is cut off a text that begins and ends with a bracket. -/
theorem cutMarkup_eq_self (hFirst : text.head? = some '<') (hLast : text.getLast? = some '>') :
    cutMarkup text = text := by
  have hCut := cutMarkup_append List.not_mem_nil hFirst hLast []
  rwa [List.nil_append, List.append_nil, List.rdropWhile_nil, List.append_nil] at hCut

theorem head?_repair (raw : Text) : repair raw = [] ∨ (repair raw).head? = some '<' := by
  rw [repair, escape_eq]
  rcases cutMarkup_cases (withoutControls raw) with hNil | ⟨hFirst, -⟩
  · rw [hNil]
    exact .inl rfl
  · obtain ⟨tail, hTail⟩ := List.head?_eq_some_iff.mp hFirst
    rw [hTail]
    exact .inr rfl

theorem isClean_repair (raw : Text) : IsClean (repair raw) := by
  refine isClean_iff.mpr ⟨fun c hc => ?_, escape_escape _⟩
  rw [repair, escape_eq] at hc
  obtain ⟨last, hRepaired⟩ := repaired_write .outside (cutMarkup (withoutControls raw))
  rcases hRepaired.mem_cases hc with hMem | hEscape
  · exact isKept_withoutControls raw c (mem_of_mem_cutMarkup hMem)
  · exact (show IsKept "&amp;&lt;&gt;" by decide) c hEscape

/-- A clean text of markup is what repair makes of it. -/
theorem IsClean.repair_eq (h : IsClean text) (hFirst : text.head? = some '<')
    (hLast : text.getLast? = some '>') : repair text = text := by
  rw [repair, withoutControls_eq_self h.kept, cutMarkup_eq_self hFirst hLast]
  exact (isClean_iff.mp h).2

/-- A second repair only cuts. -/
theorem repair_repair (raw : Text) : repair (repair raw) = cutMarkup (repair raw) := by
  have hClean := isClean_repair raw
  rw [repair, withoutControls_eq_self hClean.kept]
  rcases cutMarkup_cases (repair raw) with hNil | ⟨-, hLast⟩
  · rw [hNil]
    rfl
  · have hPrefix : cutMarkup (repair raw) <+: repair raw := prefix_cutMarkup fun c hc => by
      rcases head?_repair raw with hNil | hFirst
      · rw [hNil] at hc
        cases hc
      · exact Option.some.inj (hc.symm.trans hFirst)
    obtain ⟨rest, hRest⟩ := hPrefix
    exact (isClean_iff.mp (IsClean.of_append (hRest ▸ hClean) hLast)).2

/-- **Repair brings a text into normal form, and leaves one in normal form alone.** What it returns
is clean and begins with a tag, if there is anything. Of that it escapes nothing anew and drops at
most what stands behind the last bracket. -/
theorem repair_normalForm :
    (∀ raw, IsClean (repair raw) ∧ (repair raw = [] ∨ (repair raw).head? = some '<') ∧
      escape (repair raw) = repair raw ∧ repair (repair raw) = cutMarkup (repair raw)) ∧
    ∀ text, IsClean text → text.head? = some '<' → text.getLast? = some '>' →
      repair text = text :=
  ⟨fun raw => ⟨isClean_repair raw, head?_repair raw, escape_escape _, repair_repair raw⟩,
    fun _ hClean hFirst hLast => hClean.repair_eq hFirst hLast⟩

/-- References by name and by number in a value, and a bracket between tags. -/
theorem repair_references : IsClean "<a t='R&amp;D &#x26;&lt;'>1 > 0</a>" ∧
    repair "<a t='R&amp;D &#x26;&lt;'>1 > 0</a>" = "<a t='R&amp;D &#x26;&lt;'>1 > 0</a>" := by
  have hClean : IsClean "<a t='R&amp;D &#x26;&lt;'>1 > 0</a>" := by decide +kernel
  exact ⟨hClean, repair_normalForm.2 _ hClean rfl rfl⟩

/-- The value is left open, so its bracket is escaped and there is none to cut at. -/
example : repair "<a t='>" = "<a t='&gt;" ∧ repair (repair "<a t='>") = [] := by
  decide +kernel

end ScreenQuery.Markup
