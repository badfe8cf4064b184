import ScreenQuery.Proofs.Text.Width

/-!
# How wide a shortened text is

* A cut keeps the longest start of the line that leaves a column for the mark (`takeColumns_kept`).
* It counts the columns character by character, so the shortened text can be wider than the room:
  by a column for each control character, and by what an emoji takes in its emoji form. `Shortened`
  says what shortening makes of any line (`shorten_shortened`).
* Without such characters the shortened text fits and a cut loses something (`shorten_exact`). In a
  line of characters up to U+00A0 every control that is left does make it too wide
  (`Kept.fits_iff_of_latin`).

About `truncate`.
-/

namespace ScreenQuery.Text

variable {room : Nat} {line text : Text}

/-! ## One line -/

/-- Neither of the characters that break a line. -/
def IsUnbroken (text : Text) : Prop := ∀ c ∈ text, c ≠ '\n' ∧ c ≠ '\r'

theorem onOneLine_unbroken (text : Text) : IsUnbroken (onOneLine text) := by
  intro c hc
  obtain ⟨d, -, rfl⟩ := List.mem_map.mp hc
  split
  · decide
  next hOther => exact not_or.mp hOther

theorem onOneLine_eq_self (h : IsUnbroken text) : onOneLine text = text :=
  (List.map_congr_left fun c hc => if_neg (not_or.mpr (h c hc))).trans (List.map_id' text)

/-! ## The cut -/

/-- What a cut keeps of a line and what it leaves: the longest start within a number of columns. -/
structure Kept (budget : Nat) (line kept rest : Text) : Prop where
  parts : line = kept ++ rest
  fits : cutWidth kept ≤ budget
  longest : ∀ c ∈ rest.head?, budget < cutWidth kept + cutColumns c

theorem cutWidth_cons (c : Char) (text : Text) :
    cutWidth (c :: text) = cutColumns c + cutWidth text := List.sum_cons

theorem cutWidth_append (a b : Text) : cutWidth (a ++ b) = cutWidth a + cutWidth b := by
  unfold cutWidth
  rw [List.map_append, List.sum_append]

theorem takeColumns_kept (budget : Nat) (line : Text) :
    ∃ rest, Kept budget line (takeColumns budget line) rest := by
  fun_induction takeColumns budget line with
  | case1 budget => exact ⟨[], rfl, Nat.zero_le _, by simp⟩
  | case2 budget c line hFits ih =>
    obtain ⟨rest, hKept⟩ := ih
    refine ⟨rest, congrArg (c :: ·) hKept.parts, ?_, fun d hd => ?_⟩
    · have hRest := hKept.fits
      rw [cutWidth_cons]
      omega
    · have hNext := hKept.longest d hd
      rw [cutWidth_cons]
      omega
  | case3 budget c line hWide =>
    refine ⟨c :: line, rfl, Nat.zero_le _, fun d hd => ?_⟩
    cases hd
    exact Nat.lt_of_lt_of_eq (Nat.lt_of_not_le hWide) (Nat.zero_add _).symm

/-! ## The mark -/

theorem cutWidth_ellipsis : cutWidth [ellipsis] = 1 := by
  rw [cutWidth_cons, cutColumns_of_beyond (by decide), columns_ellipsis]
  rfl

/-- The mark does not widen what it replaces. -/
theorem widening_marked_le (kept rest : Text) :
    widening (kept ++ [ellipsis]) ≤ widening (kept ++ rest) := by
  induction kept with
  | nil => exact Nat.zero_le _
  | cons c kept ih =>
    refine Nat.add_le_add (widened_mono c _ fun h => ?_) ih
    cases kept with
    | nil => exact absurd (of_decide_eq_true h) (by decide)
    | cons d kept => exact h

/-! ## Texts up to U+00A0 -/

/-- The characters up to U+00A0: ASCII and the controls behind it. -/
def IsLatin (text : Text) : Prop := ∀ c ∈ text, c.toNat ≤ 0xa0

theorem length_latin (h : IsLatin text) :
    text.length = cutWidth text + text.countP isControl := by
  induction text with
  | nil => rfl
  | cons c text ih =>
    obtain ⟨hFirst, hRest⟩ := List.forall_mem_cons.mp h
    have hColumn := cutColumns_latin hFirst
    rw [List.length_cons, List.countP_cons, cutWidth_cons, ih hRest]
    omega

/-- On one line every such character takes one column, whatever follows. -/
theorem measured_latin (h : IsLatin text) (hLine : IsUnbroken text) {tail : Text}
    (hTail : tail.head? ≠ some '\ufe0f') :
    (measured (text ++ tail)).1 = text.length + (measured tail).1 := by
  induction text with
  | nil => exact (Int.zero_add _).symm
  | cons c text ih =>
    obtain ⟨hFirst, hRest⟩ := List.forall_mem_cons.mp h
    obtain ⟨⟨hFeed, hReturn⟩, hUnbroken⟩ := List.forall_mem_cons.mp hLine
    have hPlain : (measured (text ++ tail)).2.selector ≠ .emojiForm := by
      intro hSelected
      have hHead := head?_of_measured_selector hSelected
      cases text with
      | nil => exact hTail hHead
      | cons d text =>
        obtain rfl : d = '\ufe0f' := Option.some.inj hHead
        exact absurd (hRest _ List.mem_cons_self) (by decide)
    have hRestColumns := ih hRest hUnbroken
    rw [List.cons_append, measured, measure_latin hFirst hFeed hReturn hPlain, List.length_cons]
    push_cast
    omega

theorem measured_ellipsis : (measured [ellipsis]).1 = 1 := by
  have hMark : measure ellipsis .clear = measureAlone ellipsis := rfl
  have hAlone : (measureAlone ellipsis).1 = columns ellipsis := by
    unfold measureAlone
    rw [if_neg (by decide), if_neg (by decide)]
  simp only [measured, hMark, hAlone, columns_ellipsis]
  rfl

theorem width_latin (h : IsLatin text) (hLine : IsUnbroken text) : width text = text.length := by
  have hNil : ([] : Text).head? ≠ some '\ufe0f' := nofun
  have hSum := measured_latin h hLine hNil
  rw [List.append_nil] at hSum
  rw [width_eq, hSum]
  exact Int.toNat_natCast _

theorem width_latin_marked (h : IsLatin text) (hLine : IsUnbroken text) :
    width (text ++ [ellipsis]) = text.length + 1 := by
  rw [width_eq, measured_latin h hLine (by decide), measured_ellipsis]
  omega

/-! ## The shortened text -/

/-- A line and what shortening to some room makes of it. -/
structure Shortened (room : Nat) (line cut : Text) : Prop where
  /-- A line that fits stays. -/
  whole : width line ≤ room → cut = line
  /-- Nothing is left of another one when there is no room. -/
  empty : room < width line → room = 0 → cut = []
  /-- Else the longest start with a column to spare stays, with the mark behind it. It is all of the
  line only when some characters take more in the line than in the cut. -/
  marked : room < width line → 0 < room → ∃ kept rest, Kept (room - 1) line kept rest ∧
    cut = kept ++ [ellipsis] ∧ (rest = [] → 1 < widening line)
  /-- It is too wide by no more than what its controls and selected emoji add. -/
  width_le : width cut ≤ room + widening cut
  widening_le : widening cut ≤ widening line
  /-- A cut line of characters up to U+00A0 fits just when no control character is left in it. -/
  latin : room < width line → 0 < room → IsLatin line →
    (width cut ≤ room ↔ ∀ c ∈ cut, isControl c = false)
  /-- When it fits, shortening it again changes nothing. -/
  stable : width cut ≤ room → shorten room cut = cut
  /-- Where no character takes more in the line than in the cut, it fits, and a cut line loses
  something. -/
  sharp : widening line = 0 → width cut ≤ room ∧ shorten room cut = cut ∧
    (cut = line ∨ room = 0 ∧ cut = [] ∨
      ∃ kept rest, rest ≠ [] ∧ line = kept ++ rest ∧ cut = kept ++ [ellipsis])
  /-- So it is in a line without controls and without the selector of the emoji form. -/
  plain : (∀ c ∈ line, isControl c = false ∧ c ≠ '\ufe0f') → widening line = 0

theorem shorten_of_le (h : width (onOneLine text) ≤ room) : shorten room text = onOneLine text :=
  if_pos h

theorem shorten_of_lt (h : room < width (onOneLine text)) (hRoom : 0 < room) :
    shorten room text = takeColumns (room - 1) (onOneLine text) ++ [ellipsis] := by
  unfold shorten
  rw [if_neg (Nat.not_le_of_lt h), if_neg (Nat.ne_of_gt hRoom)]

theorem shorten_zero (h : 0 < width (onOneLine text)) : shorten 0 text = [] := by
  unfold shorten
  rw [if_neg (Nat.not_le_of_lt h), if_pos rfl]

theorem shorten_cases (room : Nat) (text : Text) :
    shorten room text = onOneLine text ∧ width (onOneLine text) ≤ room ∨
      shorten room text = [] ∧ room = 0 ∧ room < width (onOneLine text) ∨
      ∃ kept rest, shorten room text = kept ++ [ellipsis] ∧
        Kept (room - 1) (onOneLine text) kept rest ∧ 0 < room ∧ room < width (onOneLine text) := by
  rcases Nat.lt_or_ge room (width (onOneLine text)) with hLong | hFits
  · rcases Nat.eq_zero_or_pos room with rfl | hRoom
    · exact .inr (.inl ⟨shorten_zero hLong, rfl, hLong⟩)
    · obtain ⟨rest, hKept⟩ := takeColumns_kept (room - 1) (onOneLine text)
      exact .inr (.inr ⟨_, rest, shorten_of_lt hLong hRoom, hKept, hRoom, hLong⟩)
  · exact .inl ⟨shorten_of_le hFits, hFits⟩

theorem shorten_unbroken (room : Nat) (text : Text) : IsUnbroken (shorten room text) := by
  have hLine := onOneLine_unbroken text
  rcases shorten_cases room text with ⟨hCut, -⟩ | ⟨hCut, -⟩ | ⟨kept, rest, hCut, hKept, -⟩
  · rwa [hCut]
  · rw [hCut]
    exact fun c hc => nomatch hc
  · rw [hKept.parts] at hLine
    rw [hCut]
    intro c hc
    rcases List.mem_append.mp hc with hc | hc
    · exact hLine c (List.mem_append_left _ hc)
    · rw [List.mem_singleton.mp hc]
      decide

theorem width_shorten_le (room : Nat) (text : Text) :
    width (shorten room text) ≤ room + widening (shorten room text) := by
  rcases shorten_cases room text with ⟨hCut, hFits⟩ | ⟨hCut, -⟩ |
    ⟨kept, rest, hCut, hKept, hRoom, -⟩
  · rw [hCut]
    exact Nat.le_add_right_of_le hFits
  · rw [hCut]
    exact Nat.zero_le _
  · have hWidth := Text.width_le (kept ++ [ellipsis])
    have hFits := hKept.fits
    rw [cutWidth_append, cutWidth_ellipsis] at hWidth
    rw [hCut]
    omega

theorem widening_shorten_le (room : Nat) (text : Text) :
    widening (shorten room text) ≤ widening (onOneLine text) := by
  rcases shorten_cases room text with ⟨hCut, -⟩ | ⟨hCut, -⟩ | ⟨kept, rest, hCut, hKept, -⟩
  · exact Nat.le_of_eq (by rw [hCut])
  · rw [hCut]
    exact Nat.zero_le _
  · rw [hCut, hKept.parts]
    exact widening_marked_le kept rest

theorem shorten_shorten_of_le (h : width (shorten room text) ≤ room) :
    shorten room (shorten room text) = shorten room text := by
  have hLine := onOneLine_eq_self (shorten_unbroken room text)
  rw [shorten_of_le (by rwa [hLine]), hLine]

/-- A cut that loses nothing has to do with a line whose characters take more than in the cut. -/
theorem Kept.one_lt_widening {kept : Text} (h : Kept (room - 1) line kept [])
    (hRoom : 0 < room) (hLong : room < width line) : 1 < widening line := by
  have hParts := h.parts
  have hFits := h.fits
  have hWidth := Text.width_le line
  rw [List.append_nil] at hParts
  rw [← hParts] at hFits
  omega

/-- A cut line of characters up to U+00A0 has used up its room, so each control left in it is too
much. -/
theorem Kept.fits_iff_of_latin {kept rest : Text} (h : Kept (room - 1) line kept rest)
    (hLine : IsUnbroken line) (hLong : room < width line) (hRoom : 0 < room)
    (hLatin : IsLatin line) :
    width (kept ++ [ellipsis]) ≤ room ↔ ∀ c ∈ kept ++ [ellipsis], isControl c = false := by
  have hFits := h.fits
  have hLongest := h.longest
  rw [width_latin hLatin hLine] at hLong
  obtain rfl := h.parts
  have hKept : IsLatin kept := fun c hc => hLatin c (List.mem_append_left _ hc)
  have hCount := length_latin hKept
  rw [width_latin_marked hKept fun c hc => hLine c (List.mem_append_left _ hc)]
  have hControls : (∀ c ∈ kept ++ [ellipsis], isControl c = false) ↔ kept.countP isControl = 0 := by
    rw [List.countP_eq_zero, List.forall_mem_append]
    simp [show isControl ellipsis = false from rfl]
  rw [hControls]
  refine ⟨fun hWidth => ?_, fun hNone => by omega⟩
  -- what is left out begins with a character for which there was no room
  cases rest with
  | nil =>
    rw [List.append_nil] at hLong
    omega
  | cons c rest =>
    have hNext := hLongest c rfl
    have hColumn := cutColumns_latin (hLatin c (List.mem_append_right _ List.mem_cons_self))
    omega

/-- Control characters and selected emoji are all that takes more in a text than in a cut. -/
theorem widening_eq_zero (h : ∀ c ∈ text, isControl c = false ∧ c ≠ '\ufe0f') :
    widening text = 0 := by
  induction text with
  | nil => rfl
  | cons c text ih =>
    obtain ⟨⟨hPrinted, -⟩, hRest⟩ := List.forall_mem_cons.mp h
    have hUnselected : text.head? ≠ some '\ufe0f' := fun hHead =>
      (hRest _ (List.mem_of_head? hHead)).2 rfl
    rw [widening, ih hRest, widened, hPrinted, decide_eq_false hUnselected]
    rfl

/-- Where no character takes more in the line than in the cut, the shortened text fits, shortening
it again changes nothing, and a cut line loses something. -/
theorem shorten_exact (h : widening (onOneLine text) = 0) :
    width (shorten room text) ≤ room ∧ shorten room (shorten room text) = shorten room text ∧
      (shorten room text = onOneLine text ∨ room = 0 ∧ shorten room text = [] ∨
        ∃ kept rest, rest ≠ [] ∧ onOneLine text = kept ++ rest ∧
          shorten room text = kept ++ [ellipsis]) := by
  have hWidening := widening_shorten_le room text
  have hWidth : width (shorten room text) ≤ room := by
    have hBound := width_shorten_le room text
    omega
  refine ⟨hWidth, shorten_shorten_of_le hWidth, ?_⟩
  rcases shorten_cases room text with ⟨hCut, -⟩ | ⟨hCut, hRoom, -⟩ |
    ⟨kept, rest, hCut, hKept, hRoom, hLong⟩
  · exact .inl hCut
  · exact .inr (.inl ⟨hRoom, hCut⟩)
  · refine .inr (.inr ⟨kept, rest, ?_, hKept.parts, hCut⟩)
    rintro rfl
    have hWider := hKept.one_lt_widening hRoom hLong
    omega

/-- **Shortening, for every text and every room.** -/
theorem shorten_shortened (room : Nat) (text : Text) :
    Shortened room (onOneLine text) (shorten room text) where
  whole := shorten_of_le
  empty := by
    rintro hLong rfl
    exact shorten_zero hLong
  marked hLong hRoom := by
    obtain ⟨rest, hKept⟩ := takeColumns_kept (room - 1) (onOneLine text)
    refine ⟨_, rest, hKept, shorten_of_lt hLong hRoom, ?_⟩
    rintro rfl
    exact hKept.one_lt_widening hRoom hLong
  width_le := width_shorten_le room text
  widening_le := widening_shorten_le room text
  latin hLong hRoom hLatin := by
    obtain ⟨rest, hKept⟩ := takeColumns_kept (room - 1) (onOneLine text)
    rw [shorten_of_lt hLong hRoom]
    exact hKept.fits_iff_of_latin (onOneLine_unbroken text) hLong hRoom hLatin
  stable := shorten_shorten_of_le
  sharp := shorten_exact
  plain := widening_eq_zero

/-- Two tabs are cut to one column, and the mark comes out behind both. -/
theorem shorten_tabs :
    shorten 1 "\t\t" = ("\t\t…" : Text) ∧ 1 < width (shorten 1 "\t\t") := by
  have hCut : shorten 1 "\t\t" = ("\t\t" : Text) ++ [ellipsis] := by decide
  have hTabs : ∀ c ∈ ("\t\t" : Text), c = '\t' := by
    intro c hc
    have hTwo : c ∈ List.replicate 2 '\t' := hc
    exact List.eq_of_mem_replicate hTwo
  have hLatin : IsLatin ("\t\t" : Text) := by
    intro c hc
    rw [hTabs c hc]
    decide
  have hLine : IsUnbroken ("\t\t" : Text) := by
    intro c hc
    rw [hTabs c hc]
    decide
  refine ⟨hCut, ?_⟩
  rw [hCut, width_latin_marked hLatin hLine]
  decide

end ScreenQuery.Text
