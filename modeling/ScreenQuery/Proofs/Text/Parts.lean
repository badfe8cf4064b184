import ScreenQuery.Text.Blank
import ScreenQuery.Text.Utf8
import Mathlib.Data.List.Infix
import Mathlib.Data.List.TakeWhile

/-!
# Parts of a text

The searches of `ScreenQuery.Text` decide the relations of lists: a text that starts with another,
or ends with it, or holds it. Trimming leaves a character that is no blank. A run of characters of
one kind ends at the first of another kind, and the length in bytes adds up. What stands before the
first mark and what stands behind it are the only such parts of a list (`append_cons_inj`), and they
are what `splitFirst` finds of a text (`splitFirst_append`).
-/

namespace ScreenQuery.Text

/-- A list is cut in one way only at the first place where a mark stands. -/
theorem append_cons_inj {α : Type} {mark : α} {a a' b b' : List α} (ha : mark ∉ a)
    (ha' : mark ∉ a') : a ++ mark :: b = a' ++ mark :: b' ↔ a = a' ∧ b = b' := by
  induction a generalizing a' with
  | nil =>
    cases a' with
    | nil => simp
    | cons x a' =>
      have hNe : mark ≠ x := fun h => ha' (h ▸ List.mem_cons_self)
      simp [hNe]
  | cons x a ih =>
    cases a' with
    | nil =>
      have hNe : x ≠ mark := fun h => ha (h ▸ List.mem_cons_self)
      simp [hNe]
    | cons x' a' =>
      have hRest := ih (fun h => ha (List.mem_cons_of_mem x h))
        (fun h => ha' (List.mem_cons_of_mem x' h))
      simp [hRest, and_assoc]

theorem dropPrefix?_eq_some_iff {lead text rest : Text} :
    dropPrefix? lead text = some rest ↔ text = lead ++ rest := by
  induction lead generalizing text with
  | nil => simp [dropPrefix?]
  | cons a lead ih =>
    cases text with
    | nil => simp [dropPrefix?]
    | cons b text =>
      by_cases hab : a = b
      · subst hab
        simp [dropPrefix?, ih]
      · simp [dropPrefix?, hab, Ne.symm hab]

theorem startsWith_iff {lead text : Text} : startsWith lead text = true ↔ lead <+: text := by
  unfold startsWith
  rw [Option.isSome_iff_exists]
  constructor
  · rintro ⟨rest, h⟩
    exact ⟨rest, (dropPrefix?_eq_some_iff.mp h).symm⟩
  · rintro ⟨rest, h⟩
    exact ⟨rest, dropPrefix?_eq_some_iff.mpr h.symm⟩

theorem contains_iff {part text : Text} : contains part text = true ↔ part <:+: text := by
  induction text with
  | nil => simp [contains]
  | cons c text ih =>
    unfold contains
    rw [Bool.or_eq_true, startsWith_iff, ih, List.infix_cons_iff]

theorem dropSuffix?_eq_some_iff {tail text rest : Text} :
    dropSuffix? tail text = some rest ↔ text = rest ++ tail := by
  unfold dropSuffix?
  rw [Option.map_eq_some_iff]
  constructor
  · rintro ⟨back, h, rfl⟩
    rw [dropPrefix?_eq_some_iff, List.reverse_eq_iff, List.reverse_append,
      List.reverse_reverse] at h
    exact h
  · rintro rfl
    exact ⟨rest.reverse, dropPrefix?_eq_some_iff.mpr (List.reverse_append ..),
      List.reverse_reverse rest⟩

theorem endsWith_iff {tail text : Text} : endsWith tail text = true ↔ tail <:+ text := by
  unfold endsWith
  rw [Option.isSome_iff_exists]
  constructor
  · rintro ⟨rest, h⟩
    exact ⟨rest, (dropSuffix?_eq_some_iff.mp h).symm⟩
  · rintro ⟨rest, h⟩
    exact ⟨rest, dropSuffix?_eq_some_iff.mpr h.symm⟩

/-! ## The first occurrence of a mark -/

section

variable {mark lead text before after : Text} {m c : Char} {ms : Text}

/-- A mark does not begin in a part that lacks its first character. -/
theorem infix_append_iff (h : m ∉ lead) : m :: ms <:+: lead ++ text ↔ m :: ms <:+: text := by
  induction lead with
  | nil => rfl
  | cons c lead ih =>
    rw [List.mem_cons, not_or] at h
    have hStart : ¬ m :: ms <+: c :: (lead ++ text) := fun hPrefix =>
      h.1 (List.cons_prefix_cons.mp hPrefix).1
    rw [List.cons_append, List.infix_cons_iff, ih h.2]
    exact or_iff_right hStart

/-- A mark does not end in a character that is not its last. -/
theorem infix_concat_iff (h : (m :: ms).getLast? ≠ some c) :
    m :: ms <:+: text ++ [c] ↔ m :: ms <:+: text := by
  have hEnd : ¬ m :: ms <:+ text ++ [c] := by
    intro hSuffix
    have hLast := hSuffix.getLast (List.cons_ne_nil m ms)
    rw [List.getLast_concat] at hLast
    exact h (hLast ▸ List.getLast?_eq_some_getLast (List.cons_ne_nil m ms))
  rw [List.infix_concat_iff]
  exact or_iff_right hEnd

/-- A mark does not reach over a character that it does not hold. -/
theorem infix_append_cons (h : c ∉ mark) (hInfix : mark <:+: lead ++ c :: text) :
    mark <:+: lead ∨ mark <:+: text := by
  obtain ⟨before, after, hSplit⟩ := hInfix
  rcases List.append_eq_append_iff.mp hSplit with ⟨rest, rfl, -⟩ | ⟨rest, hFront, hBack⟩
  · exact .inl (List.infix_append before mark rest)
  · rcases List.append_eq_append_iff.mp hFront with ⟨part, rfl, rfl⟩ | ⟨part, -, rfl⟩
    · -- the mark begins in front of the character
      cases rest with
      | nil => exact .inl ⟨before, [], by simp⟩
      | cons d rest =>
        obtain ⟨rfl, -⟩ := List.cons.inj hBack
        exact absurd (List.mem_append_right part List.mem_cons_self) h
    · cases part with
      | nil =>
        cases mark with
        | nil => exact .inl List.nil_infix
        | cons m ms =>
          obtain ⟨rfl, -⟩ := List.cons.inj hBack
          exact absurd List.mem_cons_self h
      | cons d part =>
        obtain ⟨rfl, rfl⟩ := List.cons.inj hBack
        exact .inr (List.infix_append part mark after)

theorem splitFirstFrom_eq (mark passed text : Text) : splitFirstFrom mark passed text =
    (splitFirst mark text).map fun parts => (passed.reverse ++ parts.1, parts.2) := by
  unfold splitFirst
  induction text generalizing passed with
  | nil =>
    unfold splitFirstFrom
    split <;> simp
  | cons c text ih =>
    unfold splitFirstFrom
    split
    · simp
    · rw [ih (c :: passed), ih [c]]
      simp [Function.comp_def]

theorem splitFirst_cons (mark : Text) (c : Char) (text : Text) : splitFirst mark (c :: text) =
    match dropPrefix? mark (c :: text) with
    | some after => some ([], after)
    | none => (splitFirst mark text).map fun parts => (c :: parts.1, parts.2) := by
  rw [splitFirst, splitFirstFrom]
  cases dropPrefix? mark (c :: text) with
  | some after => rfl
  | none => exact splitFirstFrom_eq mark [c] text

theorem dropPrefix?_eq_none_iff : dropPrefix? mark text = none ↔ ¬ mark <+: text := by
  rw [← startsWith_iff, startsWith, Option.not_isSome_iff_eq_none]

theorem splitFirst_eq_none_iff : splitFirst mark text = none ↔ ¬ mark <:+: text := by
  induction text with
  | nil => cases mark <;> simp [splitFirst, splitFirstFrom]
  | cons c text ih =>
    rw [splitFirst_cons, List.infix_cons_iff, not_or, ← dropPrefix?_eq_none_iff, ← ih]
    cases dropPrefix? mark (c :: text) <;> simp

/-- Before the mark at which a text is split there is no other. -/
theorem splitFirst_eq_some (h : splitFirst (m :: ms) text = some (before, after)) :
    text = before ++ m :: (ms ++ after) ∧ ¬ m :: ms <:+: before := by
  induction text generalizing before with
  | nil => cases h
  | cons c text ih =>
    rw [splitFirst_cons] at h
    cases hStart : dropPrefix? (m :: ms) (c :: text) with
    | some rest =>
      rw [hStart] at h
      cases h
      have hText : c :: text = m :: ms ++ after := dropPrefix?_eq_some_iff.mp hStart
      exact ⟨hText, by simp⟩
    | none =>
      rw [hStart] at h
      obtain ⟨⟨passed, rest⟩, hSplit, hParts⟩ := Option.map_eq_some_iff.mp h
      cases hParts
      obtain ⟨rfl, hNone⟩ := ih hSplit
      refine ⟨rfl, ?_⟩
      rw [List.infix_cons_iff, not_or]
      exact ⟨fun hPrefix => dropPrefix?_eq_none_iff.mp hStart
        (hPrefix.trans (List.prefix_append (c :: passed) _)), hNone⟩

/-- **A text is split where the mark begins first.** -/
theorem splitFirst_append (h : ¬ mark <:+: before ++ mark.dropLast) (after : Text) :
    splitFirst mark (before ++ (mark ++ after)) = some (before, after) := by
  induction before with
  | nil =>
    cases mark with
    | nil => exact absurd List.nil_infix h
    | cons m ms =>
      have hStart : dropPrefix? (m :: ms) (m :: (ms ++ after)) = some after :=
        dropPrefix?_eq_some_iff.mpr rfl
      rw [List.nil_append, List.cons_append, splitFirst_cons, hStart]
  | cons c before ih =>
    rw [List.cons_append, List.infix_cons_iff, not_or] at h
    have hStart : ¬ mark <+: c :: (before ++ (mark ++ after)) := by
      -- a mark that began here would end before the last character of the other one
      intro hPrefix
      have hFront : c :: (before ++ mark.dropLast) <+: c :: (before ++ (mark ++ after)) :=
        List.cons_prefix_cons.mpr ⟨rfl, (List.prefix_append_right_inj before).mpr
          ((List.dropLast_prefix mark).trans (List.prefix_append mark after))⟩
      refine h.1 (List.prefix_of_prefix_length_le hPrefix hFront ?_)
      rw [List.length_cons, List.length_append, List.length_dropLast]
      omega
    rw [List.cons_append, splitFirst_cons, dropPrefix?_eq_none_iff.mpr hStart, ih h.2]
    rfl

/-- A text is split at the first place where a character stands. -/
theorem splitFirst_singleton_iff :
    splitFirst [c] text = some (before, after) ↔ text = before ++ c :: after ∧ c ∉ before := by
  constructor
  · intro h
    obtain ⟨hText, hNone⟩ := splitFirst_eq_some h
    exact ⟨hText, fun hMem => hNone ((List.singleton_infix_iff c before).mpr hMem)⟩
  · rintro ⟨rfl, hNone⟩
    refine splitFirst_append (fun hInfix => hNone ?_) after
    rw [List.dropLast_singleton, List.append_nil] at hInfix
    exact (List.singleton_infix_iff c before).mp hInfix

end

section

variable {part rest : Text} {p : Char → Bool} (hPart : ∀ c ∈ part, p c = true)
  (hStop : ∀ c, rest.head? = some c → p c = false)

include hPart hStop

theorem dropWhile_append : (part ++ rest).dropWhile p = rest := by
  rw [List.dropWhile_append_of_pos hPart]
  cases rest with
  | nil => rfl
  | cons c rest => exact List.dropWhile_cons_of_neg (by rw [hStop c rfl]; exact Bool.false_ne_true)

theorem takeWhile_append : (part ++ rest).takeWhile p = part := by
  rw [List.takeWhile_append_of_pos hPart]
  cases rest with
  | nil => exact List.append_nil part
  | cons c rest =>
    rw [List.takeWhile_cons_of_neg (by rw [hStop c rfl]; exact Bool.false_ne_true), List.append_nil]

end

/-- A run that is told by one character goes on as long as it does not come. -/
theorem bne_of_not_mem {d : Char} {text : Text} (h : d ∉ text) : ∀ c ∈ text, (c != d) = true := by
  intro c hc
  rw [bne_iff_ne]
  rintro rfl
  exact h hc

/-- A run does not go on where a text begins with a character of another kind. -/
theorem stops_of_head? {p : Char → Bool} {c : Char} {text : Text} (hHead : text.head? = some c)
    (hc : p c = false) : ∀ d, text.head? = some d → p d = false := by
  intro d hd
  obtain rfl : c = d := Option.some.inj (hHead.symm.trans hd)
  exact hc

theorem trim_ne_nil {c : Char} {text : Text} (hHead : text.head? = some c)
    (hc : isBlank c = false) : trim text ≠ [] := by
  obtain ⟨rest, rfl⟩ := List.head?_eq_some_iff.mp hHead
  have hStart : trimStart (c :: rest) = c :: rest :=
    List.dropWhile_cons_of_neg (by rw [hc]; exact Bool.false_ne_true)
  rw [trim, hStart, trimEnd, Ne, List.reverse_eq_nil_iff, List.dropWhile_eq_nil_iff]
  intro hAll
  have hBlank := hAll c (List.mem_reverse.mpr List.mem_cons_self)
  rw [hc] at hBlank
  cases hBlank

/-- A text without blanks at its ends is not changed by trimming. -/
theorem trim_eq_self {text : Text} (hHead : ∀ c, text.head? = some c → isBlank c = false)
    (hLast : ∀ c, text.getLast? = some c → isBlank c = false) : trim text = text := by
  have hStart : trimStart text = text := @dropWhile_append [] text isBlank nofun hHead
  have hEnd : text.reverse.dropWhile isBlank = text.reverse :=
    @dropWhile_append [] text.reverse isBlank nofun fun c hc => hLast c (List.head?_reverse ▸ hc)
  rw [trim, hStart, trimEnd, hEnd, List.reverse_reverse]

section

variable {lead text trail : Text}

theorem trimStart_append (hLead : ∀ c ∈ lead, isBlank c = true) (text : Text) :
    trimStart (lead ++ text) = trimStart text :=
  List.dropWhile_append_of_pos hLead

theorem trimEnd_append (hTrail : ∀ c ∈ trail, isBlank c = true) (text : Text) :
    trimEnd (text ++ trail) = trimEnd text := by
  unfold trimEnd
  rw [List.reverse_append,
    List.dropWhile_append_of_pos fun c hc => hTrail c (List.mem_reverse.mp hc)]

theorem trim_lead (hLead : ∀ c ∈ lead, isBlank c = true) (text : Text) :
    trim (lead ++ text) = trim text := by
  rw [trim, trimStart_append hLead, trim]

theorem trim_trail (hTrail : ∀ c ∈ trail, isBlank c = true) (text : Text) :
    trim (text ++ trail) = trim text := by
  unfold trim trimStart
  rw [List.dropWhile_append]
  split
  · rename_i hNil
    rw [List.isEmpty_iff.mp hNil, List.dropWhile_eq_nil_iff.mpr hTrail]
  · exact trimEnd_append hTrail _

/-- Blanks around a text are trimmed with its own. -/
theorem trim_append (hLead : ∀ c ∈ lead, isBlank c = true) (hTrail : ∀ c ∈ trail, isBlank c = true)
    (text : Text) : trim (lead ++ (text ++ trail)) = trim text := by
  rw [trim_lead hLead, trim_trail hTrail]

/-- What trimming leaves does not end in a blank. -/
theorem isBlank_getLast_trim {c : Char} (h : (trim text).getLast? = some c) :
    isBlank c = false := by
  rw [trim, trimEnd, List.getLast?_reverse] at h
  have hNot := List.head?_dropWhile_not isBlank (trimStart text).reverse
  rw [h] at hNot
  exact hNot

/-- What trimming takes away is blank. -/
theorem exists_trim (text : Text) : ∃ lead trail : Text, (∀ c ∈ lead, isBlank c = true) ∧
    (∀ c ∈ trail, isBlank c = true) ∧ text = lead ++ (trim text ++ trail) := by
  have hStart : text = text.takeWhile isBlank ++ trimStart text :=
    List.takeWhile_append_dropWhile.symm
  have hEnd : trimStart text =
      trim text ++ ((trimStart text).reverse.takeWhile isBlank).reverse := by
    rw [trim, trimEnd, ← List.reverse_append, List.takeWhile_append_dropWhile,
      List.reverse_reverse]
  refine ⟨text.takeWhile isBlank, ((trimStart text).reverse.takeWhile isBlank).reverse, ?_, ?_, ?_⟩
  · exact fun c hc => (List.mem_takeWhile_imp hc)
  · exact fun c hc => (List.mem_takeWhile_imp (List.mem_reverse.mp hc))
  · rw [← hEnd, ← hStart]

/-- Trimming leaves a part of the text. -/
theorem trim_isInfix (text : Text) : trim text <:+: text := by
  obtain ⟨lead, trail, -, -, hText⟩ := exists_trim text
  exact ⟨lead, trail, by rw [List.append_assoc]; exact hText.symm⟩

/-- What trimming leaves begins where the blanks at the start end. -/
theorem head?_trim (text : Text) : (trim text).head? = (trimStart text).head? := by
  obtain ⟨lead, trail, hLead, hTrail, hText⟩ := exists_trim text
  have hStart : trimStart text = trimStart (trim text ++ trail) := by
    conv_lhs => rw [hText]
    exact trimStart_append hLead _
  have hFront : trim text <+: trimStart text := by
    rw [trim, trimEnd, ← List.reverse_suffix, List.reverse_reverse]
    exact List.dropWhile_suffix isBlank
  cases hTrim : trim text with
  | nil =>
    rw [hStart, hTrim, List.nil_append, trimStart, List.dropWhile_eq_nil_iff.mpr hTrail]
  | cons c rest =>
    rw [hTrim] at hFront
    obtain ⟨after, hAfter⟩ := hFront
    rw [← hAfter]
    rfl

theorem trim_trim (text : Text) : trim (trim text) = trim text := by
  refine trim_eq_self (fun c hc => ?_) fun _ => isBlank_getLast_trim
  rw [head?_trim] at hc
  have hNot := List.head?_dropWhile_not isBlank text
  rw [show text.dropWhile isBlank = trimStart text from rfl, hc] at hNot
  exact hNot

/-- A character that is no blank is not trimmed away. -/
theorem mem_trim_of_mem {c : Char} (hc : isBlank c = false) (h : c ∈ text) : c ∈ trim text := by
  obtain ⟨lead, trail, hLead, hTrail, hText⟩ := exists_trim text
  rw [hText, List.mem_append, List.mem_append] at h
  rcases h with h | h | h
  · exact absurd (hLead c h) (by rw [hc]; exact Bool.false_ne_true)
  · exact h
  · exact absurd (hTrail c h) (by rw [hc]; exact Bool.false_ne_true)

end

theorem byteLength_cons (c : Char) (text : Text) :
    byteLength (c :: text) = c.utf8Size + byteLength text := by
  have hShift : ∀ (start : Nat) (text : Text),
      text.foldl (fun n c => n + c.utf8Size) start = start + byteLength text := by
    intro start text
    induction text generalizing start with
    | nil => rfl
    | cons d text ih =>
      rw [byteLength, List.foldl_cons, List.foldl_cons, ih, ih (0 + d.utf8Size), Nat.zero_add,
        Nat.add_assoc]
  rw [byteLength, List.foldl_cons, hShift, Nat.zero_add]

theorem byteLength_append (a b : Text) : byteLength (a ++ b) = byteLength a + byteLength b := by
  induction a with
  | nil => exact (Nat.zero_add _).symm
  | cons c a ih => rw [List.cons_append, byteLength_cons, byteLength_cons, ih, Nat.add_assoc]

end ScreenQuery.Text
