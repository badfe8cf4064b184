import ScreenQuery.Proofs.Geometry

/-!
# The encoding of rectangles

A rectangle is written `[x1,y1][x2,y2]`. The reader looks for the first `][`, and for the first
comma on either side of it, which is not how one would say what it takes.

* `Bounds.WrittenAs` says that without a search: four numerals between the marks, each with blanks
  around it if one likes, and blanks around the whole. The far edges are no nearer than the near
  ones, whatever is written.
* A numeral holds none of the marks, so in a written rectangle the first places where they stand are
  the right ones. Hence the reader takes what is written and nothing else
  (`Bounds.parse?_eq_some_iff`).
* The text of a rectangle whose edges are in order is one of its written forms
  (`Bounds.writtenAs_toText`).

About `parse` of `Bounds` with `parse_pair`, and its text.
-/

namespace ScreenQuery.Bounds

/-- A numeral of a 32-bit integer, perhaps with blanks around it. -/
def Denotes (part : Text) (i : Int) : Prop :=
  Text.IsNumeral (Text.trim part) i ∧ Int32.minValue.toInt ≤ i ∧ i ≤ Int32.maxValue.toInt

/-- Two numerals with a comma between them. -/
def PairWrittenAs (x y : Int) (text : Text) : Prop :=
  ∃ first second : Text, text = first ++ "," ++ second ∧ Denotes first x ∧ Denotes second y

/-- Two pairs in brackets, and the edges that they give. -/
def WrittenAs (b : Bounds) (raw : Text) : Prop :=
  ∃ (near far : Text) (x1 y1 x2 y2 : Int),
    Text.trim raw = "[" ++ near ++ "][" ++ far ++ "]" ∧
      PairWrittenAs x1 y1 near ∧ PairWrittenAs x2 y2 far ∧
      b.x1.toInt = x1 ∧ b.y1.toInt = y1 ∧ b.x2.toInt = max x1 x2 ∧ b.y2.toInt = max y1 y2

/-! ## Numerals -/

section Numerals

variable {part : Text} {i : Int}

theorem int32?_trim_iff {n : Int32} :
    Text.int32? (Text.trim part) = some n ↔ Denotes part n.toInt := by
  rw [Text.int32?_eq_some_iff]
  refine ⟨fun h => ⟨h, ?_, ?_⟩, And.left⟩
  · exact Int32.le_iff_toInt_le.mp n.minValue_le
  · exact Int32.le_iff_toInt_le.mp n.le_maxValue

theorem Denotes.exists_toInt (h : Denotes part i) : ∃ n : Int32, n.toInt = i := by
  obtain ⟨-, hLow, hHigh⟩ := h
  rw [Int32.toInt_minValue] at hLow
  rw [Int32.toInt_maxValue] at hHigh
  exact ⟨Int32.ofInt i, Int32.toInt_ofInt_of_le hLow (by omega)⟩

/-- What is no blank, no sign and no digit stands neither in a numeral nor around it. -/
theorem Denotes.not_mem (h : Denotes part i) {mark : Char} (hBlank : Text.isBlank mark = false)
    (hSign : mark ≠ '+' ∧ mark ≠ '-') (hDigit : mark.isDigit = false) : mark ∉ part := by
  intro hMem
  rcases h.1.mem_cases (Text.mem_trim_of_mem hBlank hMem) with rfl | rfl | hMark
  · exact hSign.1 rfl
  · exact hSign.2 rfl
  · rw [hDigit] at hMark
    cases hMark

/-- The numeral of an integer has no blanks around it. -/
theorem denotes_ofInt (n : Int32) : Denotes (Text.ofInt n.toInt) n.toInt := by
  have hPlain : ∀ c ∈ Text.ofInt n.toInt, Text.isBlank c = false := by
    intro c hc
    rcases Text.mem_ofInt hc with rfl | hDigit
    · decide
    · exact Text.isBlank_of_isDigit hDigit
  rw [← int32?_trim_iff, Text.trim_eq_self (fun c hc => hPlain c (List.mem_of_head? hc))
    (fun c hc => hPlain c (List.mem_of_getLast? hc)), Text.int32?_eq_some_iff]
  exact Text.isNumeral_ofInt n.toInt

end Numerals

/-! ## Pairs -/

section Pairs

variable {text : Text}

theorem pair?_eq_some_iff {x y : Int32} :
    pair? text = some (x, y) ↔ PairWrittenAs x.toInt y.toInt text := by
  unfold pair? PairWrittenAs
  simp only [Option.bind_eq_bind, Option.bind_eq_some_iff, Option.pure_def, Option.some.injEq,
    Prod.exists, Prod.mk.injEq, List.append_assoc]
  constructor
  · rintro ⟨first, second, hSplit, x, hx, y, hy, rfl, rfl⟩
    exact ⟨first, second, (Text.splitFirst_singleton_iff.mp hSplit).1, int32?_trim_iff.mp hx,
      int32?_trim_iff.mp hy⟩
  · rintro ⟨first, second, rfl, hx, hy⟩
    have hComma : ',' ∉ first := hx.not_mem (by decide) (by decide) (by decide)
    exact ⟨first, second, Text.splitFirst_singleton_iff.mpr ⟨rfl, hComma⟩, x,
      int32?_trim_iff.mpr hx, y, int32?_trim_iff.mpr hy, rfl, rfl⟩

theorem PairWrittenAs.exists_toInt {x y : Int} (h : PairWrittenAs x y text) :
    ∃ m n : Int32, m.toInt = x ∧ n.toInt = y := by
  obtain ⟨first, second, -, hx, hy⟩ := h
  obtain ⟨m, hm⟩ := hx.exists_toInt
  obtain ⟨n, hn⟩ := hy.exists_toInt
  exact ⟨m, n, hm, hn⟩

/-- A pair does not hold the end of its brackets. -/
theorem PairWrittenAs.close_not_mem {x y : Int} (h : PairWrittenAs x y text) : ']' ∉ text := by
  obtain ⟨first, second, rfl, hx, hy⟩ := h
  rw [List.mem_append, List.mem_append, not_or, not_or]
  exact ⟨⟨hx.not_mem (by decide) (by decide) (by decide), by decide⟩,
    hy.not_mem (by decide) (by decide) (by decide)⟩

end Pairs

/-! ## Rectangles -/

/-- The first `][` stands behind the near pair. -/
theorem splitFirst_middle {near : Text} (h : ']' ∉ near) (rest : Text) :
    Text.splitFirst "][" (near ++ ("][" ++ rest)) = some (near, rest) := by
  refine Text.splitFirst_append (fun hInfix => ?_) rest
  have hLate : ("][" : Text) <:+: [']'] := (Text.infix_append_iff h).mp hInfix
  exact absurd hLate.length_le (by decide)

theorem toInt_max (m n : Int32) : (max m n).toInt = max n.toInt m.toInt := by
  show (if m ≤ n then n else m).toInt = _
  split
  · rename_i h
    have hOrder := Int32.le_iff_toInt_le.mp h
    omega
  · rename_i h
    have hOrder := Int32.lt_iff_toInt_lt.mp (Int32.not_le.mp h)
    omega

/-- **The reader takes the written rectangles and nothing else.** -/
theorem parse?_eq_some_iff {raw : Text} {b : Bounds} : parse? raw = some b ↔ b.WrittenAs raw := by
  unfold parse? WrittenAs
  simp only [Option.bind_eq_bind, Option.bind_eq_some_iff, Option.pure_def, Option.some.injEq,
    Prod.exists, List.append_assoc]
  constructor
  · rintro ⟨inside, hOpen, near, rest, hMiddle, far, hClose, x1, y1, hNear, x2, y2, hFar, rfl⟩
    obtain ⟨rfl, -⟩ := Text.splitFirst_eq_some hMiddle
    obtain rfl := Text.dropSuffix?_eq_some_iff.mp hClose
    exact ⟨near, far, x1.toInt, y1.toInt, x2.toInt, y2.toInt,
      Text.dropPrefix?_eq_some_iff.mp hOpen, pair?_eq_some_iff.mp hNear,
      pair?_eq_some_iff.mp hFar, rfl, rfl, toInt_max x2 x1, toInt_max y2 y1⟩
  · rintro ⟨near, far, _, _, _, _, hText, hNear, hFar, hx1, hy1, hx2, hy2⟩
    obtain ⟨x1, y1, rfl, rfl⟩ := hNear.exists_toInt
    obtain ⟨x2, y2, rfl, rfl⟩ := hFar.exists_toInt
    refine ⟨_, Text.dropPrefix?_eq_some_iff.mpr hText, near, _,
      splitFirst_middle hNear.close_not_mem _, far, Text.dropSuffix?_eq_some_iff.mpr rfl,
      x1, y1, pair?_eq_some_iff.mpr hNear, x2, y2, pair?_eq_some_iff.mpr hFar, ?_⟩
    cases b
    rw [of, mk.injEq, ← Int32.toInt_inj, ← Int32.toInt_inj, ← Int32.toInt_inj, ← Int32.toInt_inj,
      toInt_max, toInt_max]
    exact ⟨hx1.symm, hy1.symm, hx2.symm, hy2.symm⟩

theorem pairWrittenAs_ofInt (x y : Int32) :
    PairWrittenAs x.toInt y.toInt (Text.ofInt x.toInt ++ "," ++ Text.ofInt y.toInt) :=
  ⟨_, _, rfl, denotes_ofInt x, denotes_ofInt y⟩

/-- The text of a rectangle is one of its written forms. -/
theorem writtenAs_toText {b : Bounds} (h : b.Proper) : b.WrittenAs b.toText := by
  have hTrim : Text.trim b.toText = b.toText := by
    refine Text.trim_eq_self (Text.stops_of_head? rfl (by decide)) fun c hc => ?_
    unfold toText at hc
    rw [List.getLast?_append] at hc
    obtain rfl : ']' = c := Option.some.inj hc
    decide
  have hx := Int32.le_iff_toInt_le.mp h.x_le
  have hy := Int32.le_iff_toInt_le.mp h.y_le
  refine ⟨_, _, _, _, _, _, ?_, pairWrittenAs_ofInt b.x1 b.y1, pairWrittenAs_ofInt b.x2 b.y2,
    rfl, rfl, by omega, by omega⟩
  rw [hTrim]
  unfold toText
  simp only [List.append_assoc]

/-- **The encoding of rectangles is exact.** A rectangle whose edges are in order is read back from
its text, and no two have the same. What is read at all is, but for blanks around it, two pairs of
32-bit numerals in brackets; the first pair gives the near edges, and the far edges are those of the
second pair, or the near ones where these are farther. -/
theorem encoding_exact :
    (∀ b : Bounds, b.x1 ≤ b.x2 → b.y1 ≤ b.y2 → parse? b.toText = some b) ∧
      (∀ a b : Bounds, a.toText = b.toText ↔ a = b) ∧
      ∀ (raw : Text) (b : Bounds), parse? raw = some b ↔ b.WrittenAs raw := by
  refine ⟨fun b hx hy => ?_, fun a b => toText_inj, fun raw b => parse?_eq_some_iff⟩
  exact parse?_eq_some_iff.mpr (writtenAs_toText ⟨hx, hy⟩)

/-- A rectangle that begins left of the screen is read back. Blanks, signs and leading zeros are
free, and reversed edges collapse onto the near one. -/
theorem encoding_exact_loose :
    (-3 : Int32) ≤ 5 ∧ (0 : Int32) ≤ 0 ∧ parse? (toText ⟨-3, 0, 5, 0⟩) = some ⟨-3, 0, 5, 0⟩ ∧
      WrittenAs ⟨7, 0, 7, 42⟩ " [ +7,-0 ][3,\t0042]\n" := by
  have hAcross : (-3 : Int32) ≤ 5 := by decide
  have hDown : (0 : Int32) ≤ 0 := by decide
  have hRead : parse? " [ +7,-0 ][3,\t0042]\n" = some ⟨7, 0, 7, 42⟩ := by decide
  exact ⟨hAcross, hDown, encoding_exact.1 ⟨-3, 0, 5, 0⟩ hAcross hDown,
    (encoding_exact.2.2 _ _).mp hRead⟩

end ScreenQuery.Bounds
