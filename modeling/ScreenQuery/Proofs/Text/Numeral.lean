import ScreenQuery.Text.Blank
import ScreenQuery.Text.Numeral

/-!
# Numerals and digits

* A numeral is made of digits, with a minus sign in front of a negative number, and no two numbers
  have the same numeral.
* The numeral of a natural number is read back, within the limit of the reader (`natUpTo?_ofNat`).
* `IsNumeral` says what a decimal numeral with an optional sign is, and which integer it denotes.
  The readers take these and nothing else (`int32?_eq_some_iff`).
* Decimal digits are hexadecimal digits, and these make three ranges of characters
  (`toNat_of_isHexDigit`).
-/

namespace ScreenQuery.Text

theorem isDigit_of_mem_ofNat {n : Nat} {c : Char} (h : c ∈ ofNat n) : c.isDigit = true :=
  Nat.isDigit_of_mem_toDigits (by decide) (by decide) h

theorem not_mem_ofNat {d : Char} (hd : d.isDigit = false) (n : Nat) : d ∉ ofNat n := by
  intro hMem
  rw [isDigit_of_mem_ofNat hMem] at hd
  cases hd

theorem isBlank_of_isDigit {c : Char} (h : c.isDigit = true) : isBlank c = false := by
  have hRange : 48 ≤ c.toNat ∧ c.toNat ≤ 57 := by
    unfold Char.isDigit at h
    simp only [Bool.and_eq_true, decide_eq_true_eq] at h
    exact h
  unfold isBlank blankRanges
  simp only [List.any_cons, List.any_nil, Bool.or_false, Bool.or_eq_false_iff,
    Bool.and_eq_false_imp, decide_eq_true_eq, decide_eq_false_iff_not]
  omega

theorem isBlank_of_mem_ofNat {n : Nat} {c : Char} (h : c ∈ ofNat n) : isBlank c = false :=
  isBlank_of_isDigit (isDigit_of_mem_ofNat h)

theorem ofNat_inj {m n : Nat} : ofNat m = ofNat n ↔ m = n := by
  refine ⟨fun h => ?_, congrArg ofNat⟩
  have hValue : Nat.ofDigitChars 10 (ofNat m) 0 = Nat.ofDigitChars 10 (ofNat n) 0 := by rw [h]
  unfold ofNat at hValue
  rwa [Nat.ofDigitChars_ten_toDigits, Nat.ofDigitChars_ten_toDigits] at hValue

theorem mem_ofInt {i : Int} {c : Char} (h : c ∈ ofInt i) : c = '-' ∨ c.isDigit = true := by
  unfold ofInt at h
  split at h
  · exact (List.mem_cons.mp h).imp_right isDigit_of_mem_ofNat
  · exact Or.inr (isDigit_of_mem_ofNat h)

theorem ofInt_ne_nil (i : Int) : ofInt i ≠ [] := by
  unfold ofInt
  split
  · exact List.cons_ne_nil _ _
  · exact Nat.toDigits_ne_nil

/-- A numeral without a sign is none with one. -/
theorem ofNat_ne_minus_cons {n : Nat} {text : Text} : ofNat n ≠ '-' :: text := by
  intro h
  have hMinus : '-' ∈ ofNat n := by
    rw [h]
    exact List.mem_cons_self
  exact not_mem_ofNat (by decide) n hMinus

theorem ofInt_inj {i j : Int} : ofInt i = ofInt j ↔ i = j := by
  refine ⟨fun h => ?_, congrArg ofInt⟩
  unfold ofInt at h
  split at h <;> split at h
  · have hAbs := ofNat_inj.mp (List.cons.inj h).2
    omega
  · exact absurd h.symm ofNat_ne_minus_cons
  · exact absurd h ofNat_ne_minus_cons
  · have hAbs := ofNat_inj.mp h
    omega

/-! ## Numerals are read back -/

theorem isDigit_eq (c : Char) : isDigit c = c.isDigit := by
  unfold isDigit digit? Char.isDigit
  rw [apply_ite Option.isSome, Bool.eq_iff_iff]
  simp only [Option.isSome_some, Option.isSome_none, ite_eq_left_iff, Bool.false_eq_true, imp_false,
    Decidable.not_not, Bool.and_eq_true, decide_eq_true_eq]
  exact Iff.rfl

theorem digitsValue_eq (digits : Text) : digitsValue digits = Nat.ofDigitChars 10 digits 0 := by
  unfold digitsValue Nat.ofDigitChars
  simp only [Nat.mul_comm]

theorem digitsValue_ofNat (n : Nat) : digitsValue (ofNat n) = n := by
  rw [digitsValue_eq, ofNat, Nat.ofDigitChars_ten_toDigits]

theorem all_isDigit_ofNat (n : Nat) : (ofNat n).all isDigit = true :=
  List.all_eq_true.mpr fun c hc => (isDigit_eq c).trans (isDigit_of_mem_ofNat hc)

theorem isEmpty_ofNat (n : Nat) : (ofNat n).isEmpty = false :=
  List.isEmpty_eq_false_iff.mpr Nat.toDigits_ne_nil

theorem digits?_ofNat (n : Nat) : digits? (ofNat n) = some n := by
  rw [digits?, isEmpty_ofNat, all_isDigit_ofNat, digitsValue_ofNat]
  rfl

/-- A numeral has no sign that could be taken off. -/
theorem natUpTo?_ofNat {limit n : Nat} (h : n ≤ limit) : natUpTo? limit (ofNat n) = some n := by
  unfold natUpTo?
  split
  · rename_i rest hEq
    have hPlus : '+' ∈ ofNat n := by
      rw [hEq]
      exact List.mem_cons_self
    exact absurd (isDigit_of_mem_ofNat hPlus) (by decide)
  · show (digits? (ofNat n)).filter (fun m => decide (m ≤ limit)) = some n
    rw [digits?_ofNat, Option.filter_some, if_pos (decide_eq_true h)]

theorem uint32?_ofNat (n : UInt32) : uint32? (ofNat n.toNat) = some n := by
  rw [uint32?, natUpTo?_ofNat (Nat.le_sub_one_of_lt n.toNat_lt_size), Option.map_some,
    UInt32.ofNat_toNat]

/-! ## Signed numerals -/

/-- One or more decimal digits, most significant first, and the number that they denote. -/
structure IsDigits (digits : Text) (n : Nat) : Prop where
  ne_nil : digits ≠ []
  isDigit : ∀ c ∈ digits, c.isDigit = true
  value_eq : Nat.ofDigitChars 10 digits 0 = n

/-- A decimal numeral with an optional sign, and the integer that it denotes. -/
inductive IsNumeral : Text → Int → Prop
  | unsigned {digits : Text} {n : Nat} (h : IsDigits digits n) : IsNumeral digits n
  | plus {digits : Text} {n : Nat} (h : IsDigits digits n) : IsNumeral ('+' :: digits) n
  | minus {digits : Text} {n : Nat} (h : IsDigits digits n) : IsNumeral ('-' :: digits) (-n)

theorem digits?_eq_some_iff {text : Text} {n : Nat} : digits? text = some n ↔ IsDigits text n := by
  unfold digits?
  constructor
  · intro h
    split at h
    · cases h
    · rename_i hDigits
      rw [Bool.or_eq_true, not_or, List.isEmpty_iff, Bool.not_eq_true', Bool.not_eq_false,
        List.all_eq_true] at hDigits
      rw [← Option.some.inj h]
      exact ⟨hDigits.1, fun c hc => isDigit_eq c ▸ hDigits.2 c hc, (digitsValue_eq text).symm⟩
  · rintro ⟨hSome, hDigits, rfl⟩
    have hAll : text.all isDigit = true :=
      List.all_eq_true.mpr fun c hc => (isDigit_eq c).trans (hDigits c hc)
    rw [List.isEmpty_eq_false_iff.mpr hSome, hAll, digitsValue_eq]
    rfl

/-- A character of a numeral is a sign or a digit. -/
theorem IsNumeral.mem_cases {text : Text} {i : Int} (h : IsNumeral text i) {c : Char}
    (hc : c ∈ text) : c = '+' ∨ c = '-' ∨ c.isDigit = true := by
  cases h with
  | unsigned h => exact .inr (.inr (h.isDigit c hc))
  | plus h => exact (List.mem_cons.mp hc).imp_right fun hc => .inr (h.isDigit c hc)
  | minus h => exact .inr ((List.mem_cons.mp hc).imp_right fun hc => h.isDigit c hc)

/-- Digits do not begin with a sign. -/
theorem IsDigits.ne_cons {digits : Text} {n : Nat} (h : IsDigits digits n) {sign : Char}
    (hSign : sign.isDigit = false) (rest : Text) : digits ≠ sign :: rest := by
  rintro rfl
  have hDigit := h.isDigit sign List.mem_cons_self
  rw [hSign] at hDigit
  cases hDigit

theorem intWithin?_eq_some_iff {low high i : Int} {text : Text} :
    intWithin? low high text = some i ↔ IsNumeral text i ∧ low ≤ i ∧ i ≤ high := by
  unfold intWithin?
  rw [Option.filter_eq_some_iff, Bool.and_eq_true, decide_eq_true_eq, decide_eq_true_eq]
  refine and_congr_left' ⟨fun h => ?_, fun h => ?_⟩
  · split at h
    all_goals
      obtain ⟨n, hDigits, rfl⟩ := Option.map_eq_some_iff.mp h
      have hDigits := digits?_eq_some_iff.mp hDigits
    · exact .plus hDigits
    · exact .minus hDigits
    · exact .unsigned hDigits
  · cases h with
    | unsigned h =>
      -- no sign is taken off
      split
      · exact absurd rfl (h.ne_cons (by decide) _)
      · exact absurd rfl (h.ne_cons (by decide) _)
      · rw [digits?_eq_some_iff.mpr h]
        rfl
    | plus h | minus h =>
      simp only [digits?_eq_some_iff.mpr h]
      rfl

/-- **A 32-bit integer is read from its numerals and from nothing else.** -/
theorem int32?_eq_some_iff {text : Text} {n : Int32} :
    int32? text = some n ↔ IsNumeral text n.toInt := by
  unfold int32?
  rw [Option.map_eq_some_iff]
  constructor
  · rintro ⟨i, hRead, rfl⟩
    obtain ⟨hNumeral, hLow, hHigh⟩ := intWithin?_eq_some_iff.mp hRead
    rw [Int32.toInt_minValue] at hLow
    rw [Int32.toInt_maxValue] at hHigh
    rw [Int32.toInt_ofInt_of_le hLow (by omega)]
    exact hNumeral
  · intro hNumeral
    refine ⟨n.toInt, intWithin?_eq_some_iff.mpr ⟨hNumeral, ?_, ?_⟩, Int32.ofInt_toInt n⟩
    · exact Int32.toInt_minValue ▸ n.le_toInt
    · have hLt := n.toInt_lt
      rw [Int32.toInt_maxValue]
      omega

theorem isDigits_ofNat (n : Nat) : IsDigits (ofNat n) n :=
  digits?_eq_some_iff.mp (digits?_ofNat n)

theorem isNumeral_ofInt (i : Int) : IsNumeral (ofInt i) i := by
  unfold ofInt
  split
  · have hNumeral := IsNumeral.minus (isDigits_ofNat i.natAbs)
    rwa [show -(i.natAbs : Int) = i by omega] at hNumeral
  · have hNumeral := IsNumeral.unsigned (isDigits_ofNat i.natAbs)
    rwa [show (i.natAbs : Int) = i by omega] at hNumeral

/-! ## Digits -/

variable {c : Char}

theorem isHexDigit_of_isDigit (h : isDigit c = true) : isHexDigit c = true := by
  unfold isDigit digit? at h
  unfold isHexDigit hexDigit?
  split at h
  · rename_i hRange
    rw [if_pos hRange]
    rfl
  · cases h

theorem toNat_of_isHexDigit (h : isHexDigit c = true) :
    (48 ≤ c.toNat ∧ c.toNat ≤ 57) ∨ (97 ≤ c.toNat ∧ c.toNat ≤ 102) ∨
      (65 ≤ c.toNat ∧ c.toNat ≤ 70) := by
  unfold isHexDigit hexDigit? at h
  split at h
  · rename_i hRange
    exact .inl hRange
  · split at h
    · rename_i hRange
      exact .inr (.inl hRange)
    · split at h
      · rename_i hRange
        exact .inr (.inr hRange)
      · cases h

end ScreenQuery.Text
