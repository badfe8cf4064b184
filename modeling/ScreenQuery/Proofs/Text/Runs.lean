import ScreenQuery.Text.Runs

/-!
# Looking a character up in a table of runs

* On an increasing list the search by halving counts the entries up to a number: `countUpTo_eq`.
  The starts and the ends of runs that follow each other are such lists.
* So a character of a set lies in one of the runs inside the set (`liesIn_of_contains`), and the
  class of a character is that of a run that the character lies in (`exists_placed_of_classOf`).
  What holds of all characters of a set or of a class can then be checked run by run.
-/

namespace ScreenQuery.Text

/-- How many entries are at most `n`. -/
def upTo (n : Nat) (l : List Nat) : Nat := l.countP fun a => decide (a ≤ n)

variable {l : List Nat} {n start : Nat}

theorem upTo_nil : upTo n [] = 0 := rfl

theorem upTo_cons (n a : Nat) (l : List Nat) :
    upTo n (a :: l) = upTo n l + if a ≤ n then 1 else 0 := by
  simp [upTo, List.countP_cons]

theorem upTo_eq_zero (h : ∀ a ∈ l, n < a) : upTo n l = 0 :=
  List.countP_eq_zero.mpr fun a ha => by simpa using h a ha

/-! ## Halving -/

/-- In an increasing list the entries up to a number come first. -/
theorem lt_upTo_iff (hSorted : l.Pairwise (· ≤ ·)) {j x : Nat} (hx : l[j]? = some x) :
    j < upTo n l ↔ x ≤ n := by
  induction l generalizing j with
  | nil => cases hx
  | cons a l ih =>
    obtain ⟨hLeast, hRest⟩ := List.pairwise_cons.mp hSorted
    rw [upTo_cons]
    by_cases ha : a ≤ n
    · rw [if_pos ha]
      cases j with
      | zero =>
        cases hx
        exact ⟨fun _ => ha, fun _ => Nat.succ_pos _⟩
      | succ j => rw [Nat.add_lt_add_iff_right, ih hRest hx]
    · have hax : a ≤ x := by
        cases j with
        | zero => exact Nat.le_of_eq (Option.some.inj hx)
        | succ j => exact hLeast x (List.mem_of_getElem? hx)
      have hNone : upTo n l = 0 := upTo_eq_zero fun b hb =>
        Nat.lt_of_lt_of_le (Nat.lt_of_not_le ha) (hLeast b hb)
      rw [if_neg ha, hNone]
      omega

/-- **Halving counts the entries up to a number**, when they are in increasing order and their count
lies between the limits of the search. -/
theorem countUpTo_eq (hSorted : l.Pairwise (· ≤ ·)) {low high : Nat} (hLow : low ≤ upTo n l)
    (hHigh : upTo n l ≤ high) : countUpTo l.toArray n low high = upTo n l := by
  fun_induction countUpTo l.toArray n low high with
  | case1 low high hlt middle hAny ih =>
    obtain ⟨x, hx, hle⟩ := (Option.any_eq_true _ _).mp hAny
    rw [List.getElem?_toArray] at hx
    exact ih ((lt_upTo_iff hSorted hx).mpr (of_decide_eq_true hle)) hHigh
  | case2 low high hlt middle hAny ih =>
    refine ih hLow (Nat.le_of_not_lt fun hMiddle => hAny ?_)
    have hx : l[middle]? = some _ :=
      List.getElem?_eq_getElem (Nat.lt_of_lt_of_le hMiddle List.countP_le_length)
    rw [List.getElem?_toArray, hx, Option.any_some]
    exact decide_eq_true ((lt_upTo_iff hSorted hx).mp hMiddle)
  | case3 low high hge => omega

theorem countUpTo_all (hSorted : l.Pairwise (· ≤ ·)) :
    countUpTo l.toArray n 0 l.toArray.size = upTo n l :=
  countUpTo_eq hSorted (Nat.zero_le _) List.countP_le_length

/-! ## Runs that follow each other -/

theorem le_of_mem_runEnds {lengths : List Nat} {e : Nat} (h : e ∈ runEnds start lengths) :
    start ≤ e := by
  induction lengths generalizing start with
  | nil => cases h
  | cons length rest ih =>
    rcases List.mem_cons.mp h with rfl | h
    · exact Nat.le_add_right _ _
    · exact Nat.le_trans (Nat.le_add_right _ _) (ih h)

theorem le_of_mem_runStarts {lengths : List Nat} {e : Nat} (h : e ∈ runStarts start lengths) :
    start ≤ e := by
  induction lengths generalizing start with
  | nil => cases h
  | cons length rest ih =>
    rcases List.mem_cons.mp h with rfl | h
    · exact Nat.le_refl _
    · exact Nat.le_trans (Nat.le_add_right _ _) (ih h)

theorem runEnds_sorted (start : Nat) (lengths : List Nat) :
    (runEnds start lengths).Pairwise (· ≤ ·) := by
  induction lengths generalizing start with
  | nil => exact .nil
  | cons length rest ih => exact .cons (fun _ he => le_of_mem_runEnds he) (ih _)

theorem runStarts_sorted (start : Nat) (lengths : List Nat) :
    (runStarts start lengths).Pairwise (· ≤ ·) := by
  induction lengths generalizing start with
  | nil => exact .nil
  | cons length rest ih =>
    exact .cons (fun _ he => Nat.le_trans (Nat.le_add_right _ _) (le_of_mem_runStarts he)) (ih _)

theorem upTo_runEnds_eq_zero {lengths : List Nat} (hn : n < start) :
    upTo n (runEnds start lengths) = 0 :=
  upTo_eq_zero fun _ he => Nat.lt_of_lt_of_le hn (le_of_mem_runEnds he)

theorem upTo_runStarts_eq_zero {lengths : List Nat} (hn : n < start) :
    upTo n (runStarts start lengths) = 0 :=
  upTo_eq_zero fun _ he => Nat.lt_of_lt_of_le hn (le_of_mem_runStarts he)

/-- One more than the last code point. -/
def codeSpace : Nat := 0x110000

theorem toNat_lt_codeSpace (c : Char) : c.toNat < codeSpace := by
  rcases c.valid with h | h
  · exact Nat.lt_trans h (by decide)
  · exact h.2

/-- The character lies in one of some spans of code points, each given by its start and its end. -/
def LiesIn (c : Char) (spans : List (Nat × Nat)) : Prop :=
  ∃ span ∈ spans, span.1 ≤ c.toNat ∧ c.toNat < span.2

/-! ## Sets -/

/-- The runs inside a set, each by its start and its end. The last one may be open. -/
def spansFrom (start : Nat) : List Nat → List (Nat × Nat)
  | outside :: inside :: rest =>
    (start + outside, start + outside + inside) :: spansFrom (start + outside + inside) rest
  | [outside] => [(start + outside, codeSpace)]
  | [] => []

/-- The runs inside the set of a table. -/
def spans (runs : String) : List (Nat × Nat) := spansFrom 0 ((tableWords runs).map hexValue)

theorem exists_span_of_odd {lengths : List Nat} (hn : n < codeSpace)
    (h : upTo n (runEnds start lengths) % 2 = 1) :
    ∃ span ∈ spansFrom start lengths, span.1 ≤ n ∧ n < span.2 := by
  fun_induction spansFrom start lengths with
  | case1 start outside inside rest ih =>
    rw [runEnds, runEnds, upTo_cons, upTo_cons] at h
    by_cases hOut : start + outside ≤ n
    · by_cases hIn : start + outside + inside ≤ n
      · rw [if_pos hOut, if_pos hIn] at h
        obtain ⟨span, hSpan, hInside⟩ := ih (by omega)
        exact ⟨span, List.mem_cons_of_mem _ hSpan, hInside⟩
      · exact ⟨_, List.mem_cons_self, hOut, Nat.lt_of_not_le hIn⟩
    · rw [if_neg hOut, if_neg (by omega), upTo_runEnds_eq_zero (by omega)] at h
      cases h
  | case2 start outside =>
    refine ⟨_, List.mem_cons_self, Nat.le_of_not_lt fun hOut => ?_, hn⟩
    rw [runEnds, runEnds, upTo_cons, upTo_nil, if_neg (Nat.not_le_of_lt hOut)] at h
    cases h
  | case3 start => cases h

/-- **A character of a set lies in one of the runs inside it.** -/
theorem liesIn_of_contains {runs : String} {c : Char}
    (h : (CharSet.ofRuns runs).contains c = true) : LiesIn c (spans runs) := by
  unfold CharSet.contains CharSet.ofRuns at h
  rw [countUpTo_all (runEnds_sorted _ _)] at h
  exact exists_span_of_odd (toNat_lt_codeSpace c) (eq_of_beq h)

/-! ## Classes -/

/-- The runs of a classification: start, end and class. The last one goes on to the end. -/
def placedFrom (start : Nat) : List (Text × Text) → List (Nat × Nat × Text)
  | [] => []
  | [run] => [(start, codeSpace, run.2)]
  | run :: next :: rest =>
    (start, start + hexValue run.1, run.2) :: placedFrom (start + hexValue run.1) (next :: rest)

/-- The runs of the classification of a table. -/
def placed (runs : String) : List (Nat × Nat × Text) := placedFrom 0 (pairUp (tableWords runs))

/-- The lengths of some runs. -/
def lengthsOf (runs : List (Text × Text)) : List Nat := runs.map fun run => hexValue run.1

theorem exists_placed_of_getElem? {runs : List (Text × Text)} {run : Text × Text}
    (hn : n < codeSpace) (hStart : start ≤ n)
    (h : runs[upTo n (runStarts start (lengthsOf runs)) - 1]? = some run) :
    ∃ found ∈ placedFrom start runs, found.1 ≤ n ∧ n < found.2.1 ∧ found.2.2 = run.2 := by
  fun_induction placedFrom start runs with
  | case1 start => cases h
  | case2 start only =>
    have hOne : upTo n (runStarts start (lengthsOf [only])) = 1 := by
      simp [lengthsOf, runStarts, upTo_cons, upTo_nil, hStart]
    rw [hOne] at h
    exact ⟨_, List.mem_cons_self, hStart, hn, congrArg Prod.snd (Option.some.inj h)⟩
  | case3 start first next rest ih =>
    have hCount : upTo n (runStarts start (lengthsOf (first :: next :: rest))) =
        upTo n (runStarts (start + hexValue first.1) (lengthsOf (next :: rest))) + 1 := by
      simp [lengthsOf, runStarts, upTo_cons, hStart]
    rw [hCount, Nat.add_sub_cancel] at h
    by_cases hNext : start + hexValue first.1 ≤ n
    · obtain ⟨count, hPos⟩ : ∃ count,
          upTo n (runStarts (start + hexValue first.1) (lengthsOf (next :: rest))) = count + 1 :=
        ⟨_, by rw [lengthsOf, List.map_cons, runStarts, upTo_cons, if_pos hNext]⟩
      rw [hPos, List.getElem?_cons_succ] at h
      obtain ⟨found, hFound, hIn⟩ := ih hNext (by rw [hPos, Nat.add_sub_cancel]; exact h)
      exact ⟨found, List.mem_cons_of_mem _ hFound, hIn⟩
    · rw [upTo_runStarts_eq_zero (Nat.lt_of_not_le hNext)] at h
      exact ⟨_, List.mem_cons_self, hStart, Nat.lt_of_not_le hNext,
        congrArg Prod.snd (Option.some.inj h)⟩

/-- **The class of a character is that of a run that it lies in.** -/
theorem exists_placed_of_classOf {runs : String} {c : Char} {code : Text} (hCode : code ≠ [])
    (h : (CharClasses.ofRuns runs).classOf c = String.ofList code) :
    ∃ run ∈ placed runs, run.1 ≤ c.toNat ∧ c.toNat < run.2.1 ∧ run.2.2 = code := by
  unfold CharClasses.classOf CharClasses.ofRuns at h
  rw [countUpTo_all (runStarts_sorted _ _), List.getElem?_toArray, List.getElem?_map] at h
  cases hRun : (pairUp (tableWords runs))[upTo c.toNat
      (runStarts 0 (lengthsOf (pairUp (tableWords runs)))) - 1]? with
  | none =>
    rw [lengthsOf] at hRun
    rw [hRun] at h
    exact absurd (String.ofList_injective h.symm) hCode
  | some run =>
    obtain ⟨found, hFound, hLow, hHigh, hSame⟩ :=
      exists_placed_of_getElem? (toNat_lt_codeSpace c) (Nat.zero_le _) hRun
    rw [lengthsOf] at hRun
    rw [hRun] at h
    exact ⟨found, hFound, hLow, hHigh, hSame.trans (String.ofList_injective h)⟩

end ScreenQuery.Text
