import ScreenQuery.Json.Token
import ScreenQuery.Proofs.Text.Numeral
import ScreenQuery.Proofs.Text.Parts

/-!
# Written integers are read back

The reader of numbers gathers digits only while they fit into 64 bits, stops at a leading zero, and
looks for a fraction and an exponent behind the digits. None of that takes anything from an integer
that was written.

* `gather_digits`: digits are gathered to the last one when their value fits; it only grows.
* `wholePart?_ofNat`: the numeral of a natural number has no leading zero, so that all of it is the
  whole part.
* `Ends` says which characters may stand behind a value; no number and no word goes on with one.
* `numberToken?_ofInt`: an integer within 64 bits, signed when it is negative and unsigned
  otherwise, is read back from its numeral. Beyond them it would come back as a float.
-/

namespace ScreenQuery.Json

/-- The integers that stay integers: those of 64 bits, signed or unsigned. -/
def Fits (i : Int) : Prop := -(Number.maxNegative : Int) ≤ i ∧ i ≤ Text.uint64Limit

theorem fits_natCast {n : Nat} (h : n ≤ Text.uint64Limit) : Fits n := by
  constructor <;> omega

theorem fits_toInt (i : Int32) : Fits i.toInt := by
  have hLow := i.le_toInt
  have hHigh := i.toInt_lt
  have hLimit : Text.uint64Limit = 18446744073709551615 := by decide
  constructor
  · rw [Number.maxNegative]
    omega
  · omega

/-- The marks that may stand behind a value: a comma and the ends of containers. -/
def endMarks : List Char := [',', ']', '\x7d']

/-- Nothing stands behind a value, or one of these marks. -/
def Ends (rest : Text) : Prop := ∀ c, rest.head? = some c → c ∈ endMarks

namespace Ends

variable {rest : Text}

theorem nil : Ends [] := by
  intro c h
  cases h

theorem cons {c : Char} (h : c ∈ endMarks) (text : Text) : Ends (c :: text) := by
  rintro d ⟨⟩
  exact h

/-- A class of characters that holds none of the marks does not go on there. -/
theorem stops (h : Ends rest) {p : Char → Bool} (hp : endMarks.any p = false) :
    ∀ c, rest.head? = some c → p c = false :=
  fun c hc => Bool.eq_false_iff.mpr (List.any_eq_false.mp hp c (h c hc))

theorem ne_cons (h : Ends rest) {c : Char} (hc : c ∉ endMarks) (text : Text) :
    rest ≠ c :: text := by
  rintro rfl
  exact hc (h c rfl)

end Ends

/-! ## Gathering digits -/

/-- Digits behind a number. -/
def appended (significand : Nat) (digits : Text) : Nat :=
  digits.foldl (fun value c => value * 10 + Number.digitValue c) significand

theorem le_appended (significand : Nat) (digits : Text) :
    significand ≤ appended significand digits := by
  induction digits generalizing significand with
  | nil => exact Nat.le_refl significand
  | cons c digits ih =>
    calc significand ≤ significand * 10 + Number.digitValue c := by omega
      _ ≤ appended (significand * 10 + Number.digitValue c) digits := ih _

theorem gather_digits {significand : Nat} {digits : Text}
    (h : appended significand digits ≤ Text.uint64Limit) :
    Number.gather significand digits = (appended significand digits, []) := by
  induction digits generalizing significand with
  | nil => rfl
  | cons c digits ih =>
    have hStep : significand * 10 + Number.digitValue c ≤ Text.uint64Limit :=
      (le_appended _ digits).trans h
    rw [Number.gather, if_pos hStep]
    exact ih h

theorem digitValue_of_isDigit {c : Char} (h : Text.isDigit c = true) :
    Number.digitValue c = c.toNat - '0'.toNat := by
  unfold Text.isDigit Text.digit? at h
  unfold Number.digitValue Text.digit?
  split at h
  · rename_i hRange
    rw [if_pos hRange]
    rfl
  · cases h

theorem appended_ofNat (n : Nat) : appended 0 (Text.ofNat n) = n := by
  have hDigits : appended 0 (Text.ofNat n) = Text.digitsValue (Text.ofNat n) := by
    refine List.foldl_ext _ _ 0 fun value c hc => ?_
    rw [digitValue_of_isDigit (List.all_eq_true.mp (Text.all_isDigit_ofNat n) c hc)]
  rw [hDigits, Text.digitsValue_ofNat]

theorem gather_ofNat {n : Nat} (h : n ≤ Text.uint64Limit) :
    Number.gather 0 (Text.ofNat n) = (n, []) := by
  rw [gather_digits (by rwa [appended_ofNat]), appended_ofNat]

/-! ## The whole part -/

theorem digitChar_ne_zero : ∀ n < 10, 0 < n → Nat.digitChar n ≠ '0' := by decide

theorem head?_ofNat {n : Nat} (h : 0 < n) : (Text.ofNat n).head? ≠ some '0' := by
  unfold Text.ofNat
  induction n using Nat.strongRecOn with
  | ind n ih =>
    by_cases hSmall : n < 10
    · rw [Nat.toDigits_of_lt_base hSmall, List.head?_cons, Ne, Option.some.injEq]
      exact digitChar_ne_zero n hSmall h
    · rw [Nat.toDigits_of_base_le (by decide) (by omega),
        List.head?_append_of_ne_nil _ Nat.toDigits_ne_nil]
      exact ih (n / 10) (by omega) (by omega)

/-- No digit follows a leading zero. -/
theorem ofNat_ne_zero_cons {n : Nat} {c : Char} {text : Text} :
    Text.ofNat n ≠ '0' :: c :: text := by
  intro h
  rcases Nat.eq_zero_or_pos n with rfl | hPos
  · cases h
  · exact head?_ofNat hPos (by rw [h]; rfl)

variable {rest : Text}

theorem spanDigits_ofNat (n : Nat) (h : Ends rest) :
    spanDigits (Text.ofNat n ++ rest) = (Text.ofNat n, rest) := by
  have hDigits := List.all_eq_true.mp (Text.all_isDigit_ofNat n)
  have hStop := h.stops (p := Text.isDigit) (by decide)
  rw [spanDigits, Text.takeWhile_append hDigits hStop, Text.dropWhile_append hDigits hStop]

theorem wholePart?_ofNat (n : Nat) (h : Ends rest) :
    wholePart? (Text.ofNat n ++ rest) = some (Text.ofNat n, rest) := by
  unfold wholePart?
  rw [spanDigits_ofNat n h]
  split
  · rename_i hEq
    exact absurd (Prod.mk.inj hEq).1 Nat.toDigits_ne_nil
  · rename_i hEq
    exact absurd (Prod.mk.inj hEq).1 ofNat_ne_zero_cons
  · rfl

/-! ## Numbers -/

section

variable (h : Ends rest)

include h

theorem fractionPart?_of_ends : fractionPart? rest = some (none, rest) := by
  unfold fractionPart?
  split
  · exact absurd rfl (h.ne_cons (by decide) _)
  · rfl

theorem exponentPart?_of_ends : exponentPart? rest = some (none, rest) := by
  unfold exponentPart?
  split
  · rename_i letter text
    rw [if_neg]
    rintro (rfl | rfl)
    · exact h.ne_cons (by decide) text rfl
    · exact h.ne_cons (by decide) text rfl
  · rfl

theorem numberToken?_minus (n : Nat) : numberToken? ('-' :: (Text.ofNat n ++ rest)) =
    some (.number (Number.ofSpelling? ⟨true, Text.ofNat n, none, none⟩), rest) := by
  simp only [numberToken?, wholePart?_ofNat n h, fractionPart?_of_ends h, exponentPart?_of_ends h,
    Option.bind_eq_bind, Option.bind_some, Option.pure_def]

/-- Nothing is taken off as a sign. -/
theorem numberToken?_natural (n : Nat) : numberToken? (Text.ofNat n ++ rest) =
    some (.number (Number.ofSpelling? ⟨false, Text.ofNat n, none, none⟩), rest) := by
  unfold numberToken?
  split
  rename_i hSign
  split at hSign
  · rename_i hText
    rcases List.append_eq_cons_iff.mp hText with ⟨hNil, -⟩ | ⟨digits, hDigits, -⟩
    · exact absurd hNil Nat.toDigits_ne_nil
    · exact absurd hDigits Text.ofNat_ne_minus_cons
  · cases hSign
    simp only [wholePart?_ofNat n h, fractionPart?_of_ends h, exponentPart?_of_ends h,
      Option.bind_eq_bind, Option.bind_some, Option.pure_def]

end

theorem ofSpelling?_natural {n : Nat} (h : n ≤ Text.uint64Limit) :
    Number.ofSpelling? ⟨false, Text.ofNat n, none, none⟩ = some (.integer n) := by
  simp only [Number.ofSpelling?, gather_ofNat h]
  rfl

theorem ofSpelling?_minus {n : Nat} (hPos : 0 < n) (h : n ≤ Number.maxNegative) :
    Number.ofSpelling? ⟨true, Text.ofNat n, none, none⟩ = some (.integer (-n)) := by
  have hLimit : n ≤ Text.uint64Limit := h.trans (by decide)
  have hStays : ¬ (n = 0 ∨ Number.maxNegative < n) := by omega
  simp only [Number.ofSpelling?, gather_ofNat hLimit]
  rw [if_neg (by decide), if_neg hStays]

/-- **An integer of 64 bits is read back from its numeral.** -/
theorem numberToken?_ofInt {i : Int} (hFits : Fits i) (h : Ends rest) :
    numberToken? (Text.ofInt i ++ rest) = some (.number (some (.integer i)), rest) := by
  obtain ⟨hLow, hHigh⟩ := hFits
  unfold Text.ofInt
  split
  · rw [List.cons_append, numberToken?_minus h, ofSpelling?_minus (by omega) (by omega),
      show -(i.natAbs : Int) = i by omega]
  · rw [numberToken?_natural h, ofSpelling?_natural (by omega),
      show (i.natAbs : Int) = i by omega]

end ScreenQuery.Json
