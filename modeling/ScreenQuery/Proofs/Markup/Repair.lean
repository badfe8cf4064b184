import ScreenQuery.Markup.Repair
import ScreenQuery.Proofs.Markup.Document
import ScreenQuery.Proofs.Text.Parts
import Mathlib.Data.List.DropRight
import Mathlib.Data.List.Infix

/-!
# What repair does to a document

* `Place.write` is `escape` without its accumulator. An ampersand is written by what follows it, so
  the writing of a text is not the writing of its parts one after another; `Repaired` is what can be
  said of a part whatever follows.
* `Place.Passes` is a text that begins and ends in a tag without leaving it in between. The tags of
  a well-formed document are such texts (`WrittenTag.WellFormed.passes`), and so is what repair
  makes of them (`Repaired.passes`): repair touches neither quotes nor the bracket at the end of a
  tag.
-/

namespace ScreenQuery.Markup

variable {place last : Place} {a b text out : Text} {c : Char}

/-! ## Escapes, one character after another -/

/-- The text as repair writes it from a place on. -/
def Place.write : Place → Text → Text
  | _, [] => []
  | place, c :: rest => place.escaped c rest ++ (place.after c).write rest

theorem escapeFrom_eq (done : Text) (place : Place) (text : Text) :
    escapeFrom done place text = done.reverse ++ place.write text := by
  induction text generalizing done place with
  | nil => simp [escapeFrom, Place.write]
  | cons c rest ih => simp [escapeFrom, Place.write, ih]

theorem escape_eq (text : Text) : escape text = Place.outside.write text :=
  escapeFrom_eq [] .outside text

/-- A character is written as it is, or it is one of those that have an escape. -/
theorem Place.escaped_cases (place : Place) (c : Char) (rest : Text) :
    place.escaped c rest = [c] ∨ (c = '&' ∧ place.escaped c rest = "&amp;") ∨
      ((∃ quote, place = .inValue quote) ∧
        ((c = '<' ∧ place.escaped c rest = "&lt;") ∨
          (c = '>' ∧ place.escaped c rest = "&gt;"))) := by
  unfold Place.escaped
  split
  · rename_i hAmp
    split
    · exact Or.inl (by rw [hAmp])
    · exact Or.inr (Or.inl ⟨hAmp, rfl⟩)
  · split
    · rename_i quote
      split
      · rename_i hLess
        exact Or.inr (Or.inr ⟨⟨quote, rfl⟩, Or.inl ⟨hLess, rfl⟩⟩)
      · split
        · rename_i hMore
          exact Or.inr (Or.inr ⟨⟨quote, rfl⟩, Or.inr ⟨hMore, rfl⟩⟩)
        · exact Or.inl rfl
    · exact Or.inl rfl

/-- A character is written as it is when it is no ampersand outside of references, and no bracket in
a value. -/
theorem Place.escaped_eq_self_iff {rest : Text} : place.escaped c rest = [c] ↔
    (c = '&' → startsReference rest = true) ∧
      (c = '<' ∨ c = '>' → ∀ quote, place ≠ .inValue quote) := by
  by_cases hAmp : c = '&'
  · subst hAmp
    by_cases hStarts : startsReference rest = true <;> simp [Place.escaped, hStarts]
  · cases place with
    | outside | inTag => simp [Place.escaped, hAmp]
    | inValue quote =>
      by_cases hLess : c = '<'
      · simp [Place.escaped, hLess]
      · by_cases hMore : c = '>' <;> simp [Place.escaped, hAmp, hLess, hMore]

/-- Outside of values, only an ampersand is not written as it is. -/
theorem Place.escaped_eq_self (hAmp : c ≠ '&') (hPlace : ∀ quote, place ≠ .inValue quote)
    (rest : Text) : place.escaped c rest = [c] :=
  Place.escaped_eq_self_iff.mpr ⟨fun h => absurd h hAmp, fun _ => hPlace⟩

/-! ## The part that is markup -/

theorem withoutControls_eq_self (h : IsKept text) : withoutControls text = text :=
  List.filter_eq_self.mpr h

theorem isKept_withoutControls (text : Text) : IsKept (withoutControls text) :=
  fun _ hc => (List.mem_filter.mp hc).2

theorem not_mem_withoutControls (h : c ∉ text) : c ∉ withoutControls text :=
  fun hMem => h (List.mem_filter.mp hMem).1

/-- What comes before the first bracket is dropped as a whole, and some of the end. -/
theorem cutMarkup_isPrefix (text : Text) : cutMarkup text <+: text.dropWhile fun c => c != '<' :=
  List.rdropWhile_prefix (fun c => c != '>') (text.dropWhile fun c => c != '<')

theorem mem_of_mem_cutMarkup (h : c ∈ cutMarkup text) : c ∈ text :=
  (List.dropWhile_suffix _).subset ((cutMarkup_isPrefix text).subset h)

/-- What begins with a tag only loses its end. -/
theorem prefix_cutMarkup (h : ∀ c, text.head? = some c → c = '<') : cutMarkup text <+: text := by
  have hStart : text.dropWhile (fun c => c != '<') = text := by
    cases text with
    | nil => rfl
    | cons c text => rw [h c rfl]; exact List.dropWhile_cons_of_neg (by decide)
  have hPrefix := cutMarkup_isPrefix text
  rwa [hStart] at hPrefix

theorem withoutControls_append :
    withoutControls (a ++ b) = withoutControls a ++ withoutControls b :=
  List.filter_append ..

/-- What is dropped from the end of a text is dropped from the end of what follows a stop. -/
theorem rdropWhile_append {p : Char → Bool} (hLast : text.getLast? = some c) (hc : p c = false)
    (trail : Text) : (text ++ trail).rdropWhile p = text ++ trail.rdropWhile p := by
  obtain ⟨front, rfl⟩ := List.getLast?_eq_some_iff.mp hLast
  induction trail using List.reverseRecOn with
  | nil => simp [hc]
  | append_singleton trail d ih =>
    rw [← List.append_assoc, List.rdropWhile_concat, List.rdropWhile_concat]
    by_cases hd : p d = true
    · simp only [hd, if_true, ih]
    · simp [hd]

/-- Behind the first bracket, only what follows the last one is cut off. -/
theorem cutMarkup_append {lead : Text} (hLead : '<' ∉ lead) (hFirst : text.head? = some '<')
    (hLast : text.getLast? = some '>') (trail : Text) :
    cutMarkup (lead ++ (text ++ trail)) = text ++ trail.rdropWhile fun c => c != '>' := by
  have hHead : (text ++ trail).head? = some '<' := by
    rw [List.head?_append, hFirst]
    rfl
  have hStart : (lead ++ (text ++ trail)).dropWhile (fun c => c != '<') = text ++ trail :=
    Text.dropWhile_append (Text.bne_of_not_mem hLead) (Text.stops_of_head? hHead rfl)
  unfold cutMarkup
  rw [hStart]
  exact rdropWhile_append hLast rfl trail

/-! ## Parts of a repaired text -/

/-- From a place on, repair may write `out` for a text, and it is at the place `last` then. -/
inductive Repaired : (place : Place) → (text out : Text) → (last : Place) → Prop
  | nil (place : Place) : Repaired place [] [] place
  | cons {place last : Place} {c : Char} {text out : Text} (rest : Text)
      (h : Repaired (place.after c) text out last) :
      Repaired place (c :: text) (place.escaped c rest ++ out) last

/-- The part of a text that comes first is repaired first. -/
theorem exists_repaired_append (place : Place) (a b : Text) :
    ∃ out last, Repaired place a out last ∧ place.write (a ++ b) = out ++ last.write b := by
  induction a generalizing place with
  | nil => exact ⟨[], place, .nil place, rfl⟩
  | cons c a ih =>
    obtain ⟨out, last, hRepaired, hWrite⟩ := ih (place.after c)
    refine ⟨_, last, .cons (a ++ b) hRepaired, ?_⟩
    rw [List.cons_append, Place.write, hWrite, List.append_assoc]

theorem repaired_write (place : Place) (text : Text) :
    ∃ last, Repaired place text (place.write text) last := by
  obtain ⟨out, last, hRepaired, hWrite⟩ := exists_repaired_append place text []
  rw [List.append_nil, Place.write, List.append_nil] at hWrite
  exact ⟨last, hWrite ▸ hRepaired⟩

/-- Repair brings no characters but those of the escapes. -/
theorem Repaired.mem_cases (h : Repaired place text out last) (hc : c ∈ out) :
    c ∈ text ∨ c ∈ ("&amp;&lt;&gt;" : Text) := by
  induction h with
  | nil place => exact .inl hc
  | @cons place last d text out rest _ ih =>
    rcases List.mem_append.mp hc with hFirst | hOut
    · rcases place.escaped_cases d rest with hEq | ⟨-, hEq⟩ | ⟨-, ⟨-, hEq⟩ | ⟨-, hEq⟩⟩ <;>
        rw [hEq] at hFirst
      · exact .inl (List.mem_cons.mpr (.inl (List.mem_singleton.mp hFirst)))
      · exact .inr (List.mem_append_left "&lt;&gt;".toList hFirst)
      · exact .inr (List.mem_append_right "&amp;".toList (List.mem_append_left _ hFirst))
      · exact .inr (List.mem_append_right "&amp;&lt;".toList hFirst)
    · exact (ih hOut).imp_left (List.mem_cons_of_mem d)

/-- No escape brings the beginning of a tag. -/
theorem Repaired.less_not_mem (h : Repaired place text out last) (hNot : '<' ∉ text) :
    '<' ∉ out :=
  fun hMem => (h.mem_cases hMem).elim hNot (by decide)

/-- Between tags, nothing but a bracket begins a tag. -/
theorem Repaired.outside (h : Repaired place text out last) (hPlace : place = .outside)
    (hNot : '<' ∉ text) : last = .outside := by
  induction h with
  | nil place => exact hPlace
  | @cons place last d text out rest _ ih =>
    rw [List.mem_cons, not_or] at hNot
    refine ih ?_ hNot.2
    rw [hPlace]
    exact if_neg (Ne.symm hNot.1)

/-- The first character stays what it is, but for those that have an escape. -/
theorem Repaired.head?_eq (h : Repaired .inTag text out last) (hHead : text.head? = some c)
    (hc : c ≠ '&') : out.head? = some c := by
  have hPlace : ∀ quote, Place.inTag ≠ .inValue quote := by
    intro quote hEq
    cases hEq
  obtain ⟨tail, rfl⟩ := List.head?_eq_some_iff.mp hHead
  cases h with
  | cons rest _ => rw [Place.escaped_eq_self hc hPlace rest]; rfl

/-- Every escape ends in a semicolon. -/
theorem Repaired.getLast?_eq_iff (h : Repaired place text out last) (hc : c ≠ ';')
    (hPlain : c ≠ '&' ∧ c ≠ '<' ∧ c ≠ '>') : out.getLast? = some c ↔ text.getLast? = some c := by
  induction h with
  | nil place => exact Iff.rfl
  | @cons place last d text out rest hRest ih =>
    cases hRest with
    | nil =>
      rw [List.append_nil]
      rcases place.escaped_cases d rest with hEq | ⟨rfl, hEq⟩ | ⟨-, ⟨rfl, hEq⟩ | ⟨rfl, hEq⟩⟩ <;>
        rw [hEq]
      · exact ⟨fun h => absurd (Option.some.inj h) (Ne.symm hc),
          fun h => absurd (Option.some.inj h) (Ne.symm hPlain.1)⟩
      · exact ⟨fun h => absurd (Option.some.inj h) (Ne.symm hc),
          fun h => absurd (Option.some.inj h) (Ne.symm hPlain.2.1)⟩
      · exact ⟨fun h => absurd (Option.some.inj h) (Ne.symm hc),
          fun h => absurd (Option.some.inj h) (Ne.symm hPlain.2.2)⟩
    | @cons _ _ e text out rest' _ =>
      have hNonempty : (place.after d).escaped e rest' ++ out ≠ [] := by
        rcases (place.after d).escaped_cases e rest' with
          hEq | ⟨-, hEq⟩ | ⟨-, ⟨-, hEq⟩ | ⟨-, hEq⟩⟩ <;>
          rw [hEq] <;> exact List.cons_ne_nil _ _
      rw [List.getLast?_append_of_ne_nil _ hNonempty, ih, List.getLast?_cons_cons]

/-! ## Texts that stay in a tag -/

/-- A place in a tag; a value is in one of the two quotes. -/
def Place.Inside : Place → Prop
  | .outside => False
  | .inTag => True
  | .inValue quote => quote = '"' ∨ quote = '\''

/-- A place that repair can be at: a value is in one of the two quotes. -/
def Place.Possible : Place → Prop
  | .inValue quote => quote = '"' ∨ quote = '\''
  | _ => True

theorem Place.Inside.possible (h : place.Inside) : place.Possible := by
  cases place with
  | outside => exact h.elim
  | inTag => trivial
  | inValue quote => exact h

theorem Place.Possible.after (h : place.Possible) (c : Char) : (place.after c).Possible := by
  cases place with
  | outside =>
    simp only [Place.after]
    split_ifs <;> trivial
  | inTag =>
    simp only [Place.after]
    split_ifs with _ hQuote
    · trivial
    · exact hQuote
    · trivial
  | inValue quote =>
    simp only [Place.after]
    split_ifs
    · trivial
    · exact h

/-- Only brackets and quotes lead to another place. -/
theorem Place.Possible.after_eq_self (h : place.Possible) (hLess : c ≠ '<') (hMore : c ≠ '>')
    (hDouble : c ≠ '"') (hSingle : c ≠ '\'') : place.after c = place := by
  cases place with
  | outside => exact if_neg hLess
  | inTag => simp [Place.after, hMore, hDouble, hSingle]
  | inValue quote =>
    refine if_neg fun hEq => ?_
    rcases h with rfl | rfl
    · exact hDouble hEq
    · exact hSingle hEq

/-- Nor does a bracket in a value. -/
theorem Place.Possible.after_bracket {quote : Char} (h : (Place.inValue quote).Possible)
    (hc : c = '<' ∨ c = '>') : (Place.inValue quote).after c = .inValue quote := by
  refine if_neg fun hEq => ?_
  rcases hc with rfl | rfl <;> rcases h with rfl | rfl <;> exact absurd hEq (by decide)

/-- The text goes from one place of a tag to another, and stays in the tag all along. -/
inductive Place.Passes : (place : Place) → (text : Text) → (last : Place) → Prop
  | nil {place : Place} (h : place.Inside) : Passes place [] place
  | cons {place last : Place} {c : Char} {text : Text} (h : place.Inside)
      (hRest : Passes (place.after c) text last) : Passes place (c :: text) last

namespace Place.Passes

theorem inside (h : place.Passes text last) : place.Inside := by
  cases h with
  | nil h => exact h
  | cons h _ => exact h

theorem append {middle : Place} (ha : place.Passes a middle) (hb : middle.Passes b last) :
    place.Passes (a ++ b) last := by
  induction ha with
  | nil _ => exact hb
  | cons h _ ih => exact .cons h (ih hb)

/-- The front of such a text is one, too. -/
theorem of_prefix (h : place.Passes text last) (ha : a <+: text) :
    ∃ middle, place.Passes a middle := by
  induction h generalizing a with
  | @nil place h =>
    rw [List.prefix_nil.mp ha]
    exact ⟨place, .nil h⟩
  | @cons place last c text h _ ih =>
    rcases List.prefix_cons_iff.mp ha with rfl | ⟨t, rfl, ht⟩
    · exact ⟨place, .nil h⟩
    · obtain ⟨middle, hMiddle⟩ := ih ht
      exact ⟨middle, .cons h hMiddle⟩

/-- Neither a quote nor the bracket that ends a tag. -/
theorem of_plain (h : '>' ∉ text ∧ '"' ∉ text ∧ '\'' ∉ text) : Place.inTag.Passes text .inTag := by
  induction text with
  | nil => exact .nil trivial
  | cons c text ih =>
    obtain ⟨hMore, hDouble, hSingle⟩ := h
    rw [List.mem_cons, not_or] at hMore hDouble hSingle
    refine .cons trivial ?_
    have hAfter : Place.inTag.after c = .inTag := by
      have hQuote : ¬(c = '"' ∨ c = '\'') := not_or.mpr ⟨Ne.symm hDouble.1, Ne.symm hSingle.1⟩
      rw [Place.after, if_neg (Ne.symm hMore.1), if_neg hQuote]
    rw [hAfter]
    exact ih ⟨hMore.2, hDouble.2, hSingle.2⟩

/-- What stands in a value. -/
theorem of_value {quote : Char} (hQuote : quote = '"' ∨ quote = '\'') (h : quote ∉ text) :
    (Place.inValue quote).Passes text (.inValue quote) := by
  induction text with
  | nil => exact .nil hQuote
  | cons c text ih =>
    rw [List.mem_cons, not_or] at h
    refine .cons hQuote ?_
    have hAfter : (Place.inValue quote).after c = .inValue quote := if_neg (Ne.symm h.1)
    rw [hAfter]
    exact ih h.2

/-- A quoted value. -/
theorem of_quoted {quote : Char} (hQuote : quote = '"' ∨ quote = '\'') (h : quote ∉ text) :
    Place.inTag.Passes (quote :: (text ++ [quote])) .inTag := by
  have hOpen : Place.inTag.after quote = .inValue quote := by
    rcases hQuote with rfl | rfl <;> rfl
  have hClose : (Place.inValue quote).after quote = .inTag := if_pos rfl
  refine .cons trivial ?_
  rw [hOpen]
  refine (of_value hQuote h).append (.cons hQuote ?_)
  rw [hClose]
  exact .nil trivial

end Place.Passes

/-- Repair keeps to the places of a tag. -/
theorem Repaired.passes {last' : Place} (h : Repaired place text out last)
    (hPasses : place.Passes text last') : place.Passes out last' ∧ last = last' := by
  induction h with
  | nil place =>
    cases hPasses with
    | nil h => exact ⟨.nil h, rfl⟩
  | @cons place last c text out rest _ ih =>
    cases hPasses with
    | cons hInside hRest =>
      obtain ⟨hOut, hLast⟩ := ih hRest
      refine ⟨Place.Passes.append ?_ hOut, hLast⟩
      -- an escape holds no quote and no bracket, so it stays where it is
      have hStay : ∀ {escape : Text}, '>' ∉ escape ∧ '"' ∉ escape ∧ '\'' ∉ escape →
          place.after c = place → place.Passes escape (place.after c) := by
        intro escape hEscape hAfter
        rw [hAfter]
        cases place with
        | outside => exact hInside.elim
        | inTag => exact .of_plain hEscape
        | inValue quote =>
          refine .of_value hInside ?_
          rcases hInside with rfl | rfl
          · exact hEscape.2.1
          · exact hEscape.2.2
      have hPossible := hInside.possible
      rcases place.escaped_cases c rest with hEq | ⟨rfl, hEq⟩ | ⟨⟨quote, rfl⟩, hEscape⟩
      · rw [hEq]
        exact .cons hInside (.nil hRest.inside)
      · have hAfter : place.after '&' = place :=
          hPossible.after_eq_self (by decide) (by decide) (by decide) (by decide)
        rw [hEq]
        exact hStay (by decide) hAfter
      · rcases hEscape with ⟨rfl, hEq⟩ | ⟨rfl, hEq⟩ <;> rw [hEq]
        · exact hStay (by decide) (hPossible.after_bracket (.inl rfl))
        · exact hStay (by decide) (hPossible.after_bracket (.inr rfl))

/-- Nothing that stays in a tag keeps the bracket that would end it: in a value it is escaped. -/
theorem Repaired.more_not_mem {last' : Place} (h : Repaired place text out last)
    (hPasses : place.Passes text last') : '>' ∉ out := by
  induction h with
  | nil place => exact List.not_mem_nil
  | @cons place last c text out rest _ ih =>
    cases hPasses with
    | cons hInside hRest =>
      rw [List.mem_append, not_or]
      refine ⟨fun hMem => ?_, ih hRest⟩
      rcases place.escaped_cases c rest with hEq | ⟨-, hEq⟩ | ⟨-, ⟨-, hEq⟩ | ⟨-, hEq⟩⟩ <;>
        rw [hEq] at hMem
      · -- the bracket is written as it is, so it is not in a value, and it ends the tag
        obtain rfl := List.mem_singleton.mp hMem
        cases place with
        | outside => exact hInside.elim
        | inTag => exact hRest.inside.elim
        | inValue quote =>
          have hWritten : (Place.inValue quote).escaped '>' rest = "&gt;" := rfl
          rw [hWritten] at hEq
          exact absurd hEq (by decide)
      all_goals exact absurd hMem (by decide)

/-! ## Repair of what is between tags and of what is in them -/

theorem write_words (h : '<' ∉ text) (rest : Text) :
    ∃ out, '<' ∉ out ∧
      Place.outside.write (text ++ rest) = out ++ Place.outside.write rest := by
  obtain ⟨out, last, hRepaired, hWrite⟩ := exists_repaired_append .outside text rest
  rw [hRepaired.outside rfl h] at hWrite
  exact ⟨out, hRepaired.less_not_mem h, hWrite⟩

/-- A tag that does not end. -/
theorem write_open (h : Place.inTag.Passes text last) :
    ∃ out, Repaired .inTag text out last ∧
      Place.outside.write ('<' :: text) = '<' :: out := by
  obtain ⟨last', hRepaired⟩ := repaired_write .inTag text
  obtain rfl := (hRepaired.passes h).2
  exact ⟨_, hRepaired, rfl⟩

/-- A tag that ends. -/
theorem write_closed (h : Place.inTag.Passes text .inTag) (rest : Text) :
    ∃ out, Repaired .inTag text out .inTag ∧
      Place.outside.write ('<' :: (text ++ '>' :: rest)) =
        '<' :: (out ++ '>' :: Place.outside.write rest) := by
  obtain ⟨out, last', hRepaired, hWrite⟩ := exists_repaired_append .inTag text ('>' :: rest)
  obtain rfl := (hRepaired.passes h).2
  exact ⟨out, hRepaired, congrArg (List.cons '<') hWrite⟩

/-! ## Tags of a well-formed document -/

theorem IsBlanks.passes (h : IsBlanks text) : Place.inTag.Passes text .inTag :=
  .of_plain ⟨h.not_mem rfl, h.not_mem rfl, h.not_mem rfl⟩

theorem IsName.passes (h : IsName text) : Place.inTag.Passes text .inTag :=
  .of_plain ⟨h.not_mem (by decide), h.not_mem (by decide), h.not_mem (by decide)⟩

theorem WrittenAttribute.WellFormed.passes {a : WrittenAttribute} (h : a.WellFormed) :
    Place.inTag.Passes a.text .inTag := by
  have hSign : Place.inTag.Passes ['='] .inTag := .of_plain (by decide)
  have hQuoted := Place.Passes.of_quoted h.quote h.quote_not_mem
  exact h.gap.passes.append (h.name.passes.append (h.beforeSign.passes.append
    (hSign.append (h.afterSign.passes.append hQuoted))))

theorem passes_attributes {attributes : List WrittenAttribute}
    (h : ∀ a ∈ attributes, a.WellFormed) :
    Place.inTag.Passes (attributes.flatMap WrittenAttribute.text) .inTag := by
  induction attributes with
  | nil => exact .nil trivial
  | cons a rest ih =>
    obtain ⟨ha, hRest⟩ := List.forall_mem_cons.mp h
    rw [List.flatMap_cons]
    exact ha.passes.append (ih hRest)

theorem WrittenTag.WellFormed.passes {tag : WrittenTag} (h : tag.WellFormed) :
    Place.inTag.Passes tag.text .inTag :=
  h.name.passes.append ((passes_attributes h.attributes).append h.trail.passes)

/-- What stands in the tag of an empty element. -/
theorem WrittenTag.WellFormed.empty_passes {tag : WrittenTag} (h : tag.WellFormed) :
    Place.inTag.Passes (tag.text ++ ['/']) .inTag :=
  h.passes.append (.of_plain (by decide))

/-- What stands in a closing tag. -/
theorem WrittenTag.WellFormed.closing_passes {tag : WrittenTag} {trail : Text}
    (h : tag.WellFormed) (hTrail : IsBlanks trail) :
    Place.inTag.Passes ('/' :: tag.name ++ trail) .inTag := by
  have hSlash : Place.inTag.Passes ['/'] .inTag := .of_plain (by decide)
  exact (hSlash.append h.name.passes).append hTrail.passes

theorem Declaration.WellFormed.passes {d : Declaration} (h : d.WellFormed) :
    Place.inTag.Passes ('?' :: d.tag.text ++ ['?']) .inTag := by
  have hMark : Place.inTag.Passes ['?'] .inTag := .of_plain (by decide)
  exact (hMark.append h.tag.passes).append hMark

/-! ## Both ends of a tag -/

theorem getLast?_append_ne (ha : a.getLast? ≠ some c) (hb : b.getLast? ≠ some c) :
    (a ++ b).getLast? ≠ some c := by
  rw [List.getLast?_append]
  cases hLast : b.getLast? with
  | none => exact ha
  | some d => rw [← hLast]; simpa [hLast] using hb

theorem getLast?_ne_of_not_mem (h : c ∉ text) : text.getLast? ≠ some c :=
  fun hLast => h (List.mem_of_getLast? hLast)

theorem WrittenAttribute.WellFormed.getLast?_ne_slash {a : WrittenAttribute} (h : a.WellFormed) :
    a.text.getLast? ≠ some '/' := by
  have hLast : a.text.getLast? = some a.quote := List.getLast?_eq_some_iff.mpr
    ⟨a.gap ++ (a.name ++ (a.beforeSign ++ '=' :: (a.afterSign ++ a.quote :: a.value))), by
      simp only [WrittenAttribute.text, List.append_assoc, List.cons_append]⟩
  rw [hLast]
  rcases h.quote with hQuote | hQuote <;> rw [hQuote] <;> decide

theorem WrittenTag.WellFormed.getLast?_ne_slash {tag : WrittenTag} (h : tag.WellFormed) :
    tag.text.getLast? ≠ some '/' := by
  have hName : tag.name.getLast? ≠ some '/' :=
    getLast?_ne_of_not_mem (h.name.not_mem (by decide))
  have hTrail : tag.trail.getLast? ≠ some '/' := getLast?_ne_of_not_mem (h.trail.not_mem rfl)
  have hAttributes : ∀ attributes : List WrittenAttribute, (∀ a ∈ attributes, a.WellFormed) →
      (attributes.flatMap WrittenAttribute.text).getLast? ≠ some '/' := by
    intro attributes hAll
    induction attributes with
    | nil => nofun
    | cons a rest ih =>
      obtain ⟨ha, hRest⟩ := List.forall_mem_cons.mp hAll
      rw [List.flatMap_cons]
      exact getLast?_append_ne ha.getLast?_ne_slash (ih hRest)
  exact getLast?_append_ne hName (getLast?_append_ne (hAttributes _ h.attributes) hTrail)

/-- The name of a tag begins with a character that is no mark. -/
theorem WrittenTag.WellFormed.exists_head {tag : WrittenTag} (h : tag.WellFormed) (after : Text) :
    ∃ c, (tag.text ++ after).head? = some c ∧ isNameChar c = true := by
  obtain ⟨c, name, hName⟩ := List.exists_cons_of_ne_nil h.name.nonempty
  exact ⟨c, by rw [WrittenTag.text, hName]; rfl,
    h.name.chars c (by rw [hName]; exact List.mem_cons_self)⟩

/-- What begins like a name is no closing tag. -/
theorem head?_ne_slash (hHead : text.head? = some c) (hc : isNameChar c = true) :
    text.head? ≠ some '/' := by
  rw [hHead]
  exact fun hEq => ne_of_isNameChar hc (by decide) (Option.some.inj hEq)

end ScreenQuery.Markup
