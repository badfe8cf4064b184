import ScreenQuery.Proofs.Text.Runs
import ScreenQuery.Text.Shortened
import Mathlib.Algebra.GroupWithZero.Nat
import Mathlib.Tactic.SplitIfs

/-!
# The width of a text and the widths of its characters

* The characters that a text measures by rules of their own (flags, joined signs, emoji) take at
  least one column each by themselves: `one_le_columns`. This is read off the tables, run by run.
* One step of the measuring adds at most the columns of the character, one more for a control, and
  what is missing to two columns for an emoji in its emoji form (`measure_add_owed_le`). The step
  that closes a joined flag takes back a column that the next flag then gets; `owed` keeps account.
* So a text is at most as wide as its characters together, the controls and the selected emoji
  aside: `width_le`. On one line, characters up to U+00A0 take one column each: `measure_latin`.
-/

namespace ScreenQuery.Text

/-! ## Columns, from the table -/

/-- Whether no run of some classes touches any of some spans. This is checked by evaluation, so the
comparisons are those that the kernel has arithmetic for. -/
def apart (runs : List (Nat × Nat × Text)) (codes : List Text) (ranges : List (Nat × Nat)) : Bool :=
  (runs.filter fun run => codes.contains run.2.2).all fun run =>
    ranges.all fun range => Nat.ble range.2 run.1 || Nat.ble run.2.1 range.1

/-- A character of a span has the class of no run that the span is apart from. -/
theorem classOf_ne_of_apart {runs : String} {codes : List Text} {ranges : List (Nat × Nat)}
    {c : Char} {code : Text} (hApart : apart (placed runs) codes ranges = true) (hNone : code ≠ [])
    (hCode : code ∈ codes) (hIn : LiesIn c ranges) :
    (CharClasses.ofRuns runs).classOf c ≠ String.ofList code := by
  intro hClass
  obtain ⟨run, hRun, hLow, hHigh, rfl⟩ := exists_placed_of_classOf hNone hClass
  obtain ⟨range, hRange, hFrom, hTo⟩ := hIn
  have hRuns := List.all_eq_true.mp hApart run (List.mem_filter.mpr ⟨hRun, by simpa using hCode⟩)
  have hSides := List.all_eq_true.mp hRuns range hRange
  simp only [Bool.or_eq_true, Nat.ble_eq] at hSides
  omega

/-- The blank that does not break, and the ellipsis. -/
def narrowRanges : List (Nat × Nat) := [(0xa0, 0xa1), (0x2026, 0x2027)]

/-- These, and characters that the measuring has rules for: the joiner of Tifinagh and the regional
indicators. -/
def ruledRanges : List (Nat × Nat) := narrowRanges ++ [(0x2d7f, 0x2d80), (0x1f1e6, 0x1f200)]

set_option maxRecDepth 100000 in
theorem ruledRanges_apart : apart (placed widthRuns) [['0']] ruledRanges = true := by
  unfold placed tableWords widthRuns
  rw [String.toList_ofList]
  decide +kernel

set_option maxRecDepth 100000 in
theorem emojiPresentation_apart :
    apart (placed widthRuns) [['0']] (spans emojiPresentationRuns) = true := by
  unfold placed spans tableWords widthRuns emojiPresentationRuns
  rw [String.toList_ofList, String.toList_ofList]
  decide +kernel

set_option maxRecDepth 100000 in
theorem narrowRanges_apart : apart (placed widthRuns) [['2'], ['3']] narrowRanges = true := by
  unfold placed tableWords widthRuns
  rw [String.toList_ofList]
  decide +kernel

theorem one_le_columns_of_class {c : Char} (h : widthClasses.classOf c ≠ "0") : 1 ≤ columns c := by
  unfold columns
  generalize widthClasses.classOf c = code at h ⊢
  split
  · exact Nat.le_refl 1
  · split <;> first | contradiction | decide

theorem columns_le_one_of_class {c : Char} (hTwo : widthClasses.classOf c ≠ "2")
    (hThree : widthClasses.classOf c ≠ "3") : columns c ≤ 1 := by
  unfold columns
  generalize widthClasses.classOf c = code at hTwo hThree ⊢
  split
  · exact Nat.le_refl 1
  · split <;> first | contradiction | decide

theorem one_le_columns_of_apart {c : Char} {ranges : List (Nat × Nat)}
    (hApart : apart (placed widthRuns) [['0']] ranges = true)
    (hIn : LiesIn c ranges) : 1 ≤ columns c :=
  one_le_columns_of_class
    (classOf_ne_of_apart hApart (List.cons_ne_nil _ _) List.mem_cons_self hIn)

/-- A character with a rule of its own takes a column. -/
theorem one_le_columns {c : Char} (hIn : LiesIn c ruledRanges) : 1 ≤ columns c :=
  one_le_columns_of_apart ruledRanges_apart hIn

theorem columns_of_narrow {c : Char} (hIn : LiesIn c narrowRanges) : columns c = 1 := by
  obtain ⟨range, hRange, hInside⟩ := id hIn
  refine Nat.le_antisymm (columns_le_one_of_class ?_ ?_)
    (one_le_columns ⟨range, List.mem_append_left _ hRange, hInside⟩)
  · exact classOf_ne_of_apart narrowRanges_apart (List.cons_ne_nil _ _) (by decide) hIn
  · exact classOf_ne_of_apart narrowRanges_apart (List.cons_ne_nil _ _) (by decide) hIn

theorem columns_ellipsis : columns ellipsis = 1 :=
  columns_of_narrow ⟨(0x2026, 0x2027), by decide, by decide⟩

/-- A printed character up to U+00A0 takes one column. -/
theorem columns_latin {c : Char} (h : c.toNat ≤ 0xa0) (hPrinted : isControl c = false) :
    columns c = 1 := by
  by_cases hAscii : c.toNat < 0x7f
  · exact if_pos hAscii
  · refine columns_of_narrow ⟨(0xa0, 0xa1), by decide, ?_⟩
    simp only [isControl, Bool.or_eq_false_iff, Bool.and_eq_false_imp, decide_eq_true_eq,
      decide_eq_false_iff_not] at hPrinted
    omega

theorem one_le_columns_of_isIndicator {c : Char} (h : isIndicator c = true) : 1 ≤ columns c := by
  simp only [isIndicator, inRanges, List.any_cons, List.any_nil, Bool.or_false, Bool.and_eq_true,
    decide_eq_true_eq] at h
  exact one_le_columns ⟨(0x1f1e6, 0x1f200), by decide, h.1, Nat.lt_succ_of_le h.2⟩

/-- Characters that show as emoji by default take a column. -/
theorem one_le_columns_of_hasTextForm {c : Char} (h : hasTextForm c = true) : 1 ≤ columns c := by
  have hSet : emojiByDefault = CharSet.ofRuns emojiPresentationRuns := rfl
  have hDefault := (Bool.and_eq_true_iff.mp h).1
  rw [hSet] at hDefault
  exact one_le_columns_of_apart emojiPresentation_apart (liesIn_of_contains hDefault)

/-! ## One step of the measuring -/

/-- The columns that a follower still owes to the character before it. -/
def Follower.owed : Follower → Int
  | joinedIndicators false => 2
  | _ => 0

theorem Follower.owed_nonneg (follower : Follower) : 0 ≤ follower.owed := by
  unfold Follower.owed
  split <;> decide

theorem owed_clear : Lookahead.clear.follower.owed = 0 := rfl

theorem owed_of_emoji : (Lookahead.of .emoji).follower.owed = 0 := rfl

theorem owed_of_lineFeed : (Lookahead.of .lineFeed).follower.owed = 0 := rfl

/-- What a character takes in a text beyond its columns in a cut: a control character takes one
after all, and an emoji with the selector of the emoji form behind it takes two. -/
def widened (c : Char) (selected : Bool) : Nat :=
  (if isControl c then 1 else 0) + if selected && emojis.contains c then 2 - cutColumns c else 0

theorem cutColumns_of_beyond {c : Char} (h : 0xa0 < c.toNat) : cutColumns c = columns c := by
  have hPrinted : isControl c = false := by
    simp only [isControl, Bool.or_eq_false_iff, Bool.and_eq_false_imp, decide_eq_true_eq,
      decide_eq_false_iff_not]
    omega
  simp [cutColumns, charWidth?, hPrinted]

theorem widened_mono (c : Char) {selected : Bool} (selected' : Bool)
    (h : selected = true → selected' = true) : widened c selected ≤ widened c selected' := by
  cases selected with
  | false => exact Nat.add_le_add_left (by simp) _
  | true => exact Nat.le_of_eq (by rw [h rfl])

/-- A character up to U+00A0 takes one column in a text. In a cut it takes it unless it is a control
character. -/
theorem cutColumns_latin {c : Char} (h : c.toNat ≤ 0xa0) :
    cutColumns c + (if isControl c then 1 else 0) = 1 := by
  cases hControl : isControl c with
  | true => simp [cutColumns, charWidth?, hControl]
  | false => simp [cutColumns, charWidth?, hControl, columns_latin h hControl]

theorem measureAlone_le (c : Char) :
    (measureAlone c).1 + (measureAlone c).2.follower.owed ≤ columns c := by
  have hOwed : (followerOf c).owed = 0 := by
    unfold followerOf
    repeat' split
    all_goals rfl
  unfold measureAlone
  split_ifs
  · exact Int.natCast_nonneg _
  · exact Int.natCast_nonneg _
  · simp [Lookahead.of, hOwed]

/-- A character that joins what follows it adds no more than its columns and what is owed. -/
theorem join?_le {follower : Follower} {c : Char} {sum : Int} {state : Lookahead}
    (h : join? follower c = some (sum, state)) :
    sum + state.follower.owed ≤ columns c + follower.owed := by
  have hFollower := follower.owed_nonneg
  have hIndicator : isIndicator c = true → 1 ≤ columns c := one_le_columns_of_isIndicator
  have hJoiner : c = '\u2d7f' → 1 ≤ columns c := fun hc =>
    one_le_columns ⟨(0x2d7f, 0x2d80), by decide, by rw [hc]; decide⟩
  unfold join? at h
  split at h
  case h_19 => cases h
  all_goals
    split_ifs at h
    all_goals
      cases h
      grind [Lookahead.of, Lookahead.clear, Follower.owed]

theorem Lookahead.owed_selectEmoji (state : Lookahead) :
    state.selectEmoji.follower.owed ≤ state.follower.owed := by
  unfold Lookahead.selectEmoji
  split
  · exact Int.le_refl _
  · exact state.follower.owed_nonneg

theorem Lookahead.owed_selectText (state : Lookahead) :
    state.selectText.follower.owed ≤ state.follower.owed := by
  unfold Lookahead.selectText
  split
  · exact Int.le_refl _
  · exact state.follower.owed_nonneg

theorem measureJoining_le (c : Char) (state : Lookahead) :
    (measureJoining c state).1 + (measureJoining c state).2.follower.owed ≤
      columns c + state.follower.owed := by
  have hAlone := measureAlone_le c
  have hOwed := state.follower.owed_nonneg
  have hColumns : (0 : Int) ≤ columns c := Int.natCast_nonneg _
  unfold measureJoining
  split_ifs with hClear hEmoji hText hForm hThrough
  · omega
  · have hSelect := state.owed_selectEmoji
    simp only
    omega
  · have hSelect := state.owed_selectText
    simp only
    omega
  · have hOne := one_le_columns_of_hasTextForm (Bool.and_eq_true_iff.mp hForm).2
    simp only [owed_clear]
    omega
  · -- what is seen through owes nothing
    cases hFollower : state.follower with
    | ligature => simp only [Lookahead.of, Follower.owed]; omega
    | _ => simp [Follower.seesThrough, hFollower] at hThrough <;>
        simp only [Lookahead.of, Follower.owed] <;> omega
  · cases hJoin : join? state.follower c with
    | none => exact Int.le_trans hAlone (by omega)
    | some joined => exact join?_le hJoin

/-- **One step of the measuring** adds, with what it owes from then on, at most the columns of the
character, what the text widens it by, and what was owed before. -/
theorem measure_add_owed_le (c : Char) (state : Lookahead) :
    (measure c state).1 + (measure c state).2.follower.owed ≤
      cutColumns c + widened c (state.selector = .emojiForm) + state.follower.owed := by
  have hOwed := state.follower.owed_nonneg
  unfold measure
  split
  next hEmoji =>
    unfold widened
    rw [if_pos hEmoji]
    split <;> simp only [owed_of_emoji] <;> omega
  next hPlain =>
    split
    next hLatin =>
      have hOne : 1 ≤ cutColumns c + widened c (state.selector = .emojiForm) :=
        Nat.le_trans (Nat.le_of_eq (cutColumns_latin hLatin).symm)
          (Nat.add_le_add_left (Nat.le_add_right _ _) _)
      split_ifs <;> simp only [owed_clear, owed_of_lineFeed] <;> omega
    next hBeyond =>
      rw [cutColumns_of_beyond (Nat.lt_of_not_le hBeyond)]
      split
      next hSelected =>
        split
        · have hJoining := measureJoining_le c (.of state.follower)
          simp only [Lookahead.of] at hJoining ⊢
          omega
        · have hJoining := measureJoining_le c .clear
          rw [owed_clear] at hJoining
          omega
      next hSelected =>
        have hJoining := measureJoining_le c state
        omega

/-! ## The whole text -/

/-- The columns of a text with the state before it, from right to left. -/
def measured : Text → Int × Lookahead
  | [] => (0, .clear)
  | c :: text =>
    ((measured text).1 + (measure c (measured text).2).1, (measure c (measured text).2).2)

theorem width_eq (text : Text) : width text = (measured text).1.toNat := by
  unfold width
  rw [List.foldl_reverse]
  congr 2
  induction text with
  | nil => rfl
  | cons c text ih => rw [List.foldr_cons, ih, measured]

theorem eq_of_measureAlone_selector {c : Char}
    (h : (measureAlone c).2.selector = .emojiForm) : c = '\ufe0f' := by
  unfold measureAlone at h
  split_ifs at h with hEmoji
  · exact hEmoji
  · cases h

theorem join?_selector {follower : Follower} {c : Char} {joined : Int × Lookahead}
    (h : join? follower c = some joined) : joined.2.selector = .unset := by
  unfold join? at h
  split at h
  case h_19 => cases h
  all_goals
    split_ifs at h
    all_goals
      cases h
      rfl

theorem eq_of_measureJoining_selector {c : Char} {state : Lookahead}
    (h : (measureJoining c state).2.selector = .emojiForm) : c = '\ufe0f' := by
  unfold measureJoining at h
  split_ifs at h with hClear hEmoji hText hForm hThrough
  · exact eq_of_measureAlone_selector h
  · exact hEmoji
  · unfold Lookahead.selectText at h
    split at h <;> cases h
  · cases h
  · split at h <;> cases h
  · cases hJoin : join? state.follower c with
    | none =>
      rw [hJoin] at h
      exact eq_of_measureAlone_selector h
    | some joined =>
      rw [hJoin, Option.getD_some, join?_selector hJoin] at h
      cases h

/-- Only the selector itself leaves the selector of the emoji form behind. -/
theorem eq_of_measure_selector {c : Char} {state : Lookahead}
    (h : (measure c state).2.selector = .emojiForm) : c = '\ufe0f' := by
  unfold measure at h
  split_ifs at h
  all_goals first | exact eq_of_measureJoining_selector h | cases h

theorem head?_of_measured_selector {text : Text}
    (h : (measured text).2.selector = .emojiForm) : text.head? = some '\ufe0f' := by
  cases text with
  | nil => cases h
  | cons c text => exact congrArg some (eq_of_measure_selector h)

/-- A character up to U+00A0 that breaks no line takes one column, whatever follows. -/
theorem measure_latin {c : Char} {state : Lookahead} (hLatin : c.toNat ≤ 0xa0) (hFeed : c ≠ '\n')
    (hReturn : c ≠ '\r') (hPlain : state.selector ≠ .emojiForm) :
    measure c state = (1, .clear) := by
  simp [measure, hLatin, hFeed, hReturn, hPlain]

/-- What a text takes beyond the columns of its characters in a cut. -/
def widening : Text → Nat
  | [] => 0
  | c :: text => widened c (text.head? = some '\ufe0f') + widening text

/-- The columns of the characters of a text in a cut. -/
def cutWidth (text : Text) : Nat := (text.map cutColumns).sum

theorem measured_add_owed_le (text : Text) :
    (measured text).1 + (measured text).2.follower.owed ≤ cutWidth text + widening text := by
  induction text with
  | nil => decide
  | cons c text ih =>
    have hStep := measure_add_owed_le c (measured text).2
    have hMono := widened_mono c (text.head? = some '\ufe0f') fun h =>
      decide_eq_true (head?_of_measured_selector (of_decide_eq_true h))
    simp only [measured, cutWidth, List.map_cons, List.sum_cons, widening] at ih ⊢
    omega

/-- **A text is at most as wide as its characters in a cut, and what it widens them by.** -/
theorem width_le (text : Text) : width text ≤ cutWidth text + widening text := by
  have hSum := measured_add_owed_le text
  have hOwed := (measured text).2.follower.owed_nonneg
  rw [width_eq]
  omega

end ScreenQuery.Text
