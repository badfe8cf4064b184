import ScreenQuery.Proofs.Path
import ScreenQuery.Proofs.Shorthand
import ScreenQuery.Proofs.Text.Numeral

/-!
# Path queries as they are written

* A `WrittenStep` is a step with everything that its text leaves open: the blanks around its name
  and between its brackets, and the quote around a value. `Step.toText` writes a step without any
  blanks.
* A reader that looks for the closing bracket goes over what stands in quotes. `Crosses` is a part
  that it goes over, and the predicate of a step is one (`WrittenStep.crosses_predicate`), whatever
  brackets, slashes and signs its value holds.
* So a step is read back before any rest that a step may stand in front of
  (`stepsFrom_written`), and by induction a query is. Trimming only takes blanks behind the name of
  the last step, so what is left is written as well (`exists_trimmed`).

About `parse` of `PathQuery`, with `find_closing_bracket` and `parse_predicate`.
-/

namespace ScreenQuery

/-! ## Steps that can be written -/

/-- A name that stands for itself: without blanks around it or a mark that would end it. The star
is read as any name. -/
structure IsElementName (name : Text) : Prop where
  nonempty : name ≠ []
  trimmed : Text.trim name = name
  marks_not_mem : '[' ∉ name ∧ '/' ∉ name
  ne_star : name ≠ "*"

instance (name : Text) : Decidable (IsElementName name) :=
  decidable_of_iff
    (name ≠ [] ∧ Text.trim name = name ∧ ('[' ∉ name ∧ '/' ∉ name) ∧ name ≠ "*")
    ⟨fun ⟨h1, h2, h3, h4⟩ => ⟨h1, h2, h3, h4⟩, fun ⟨h1, h2, h3, h4⟩ => ⟨h1, h2, h3, h4⟩⟩

/-- There is a text for the predicate: positions count from one, and a value leaves one of the two
quotes to be put around it. -/
def PathPredicate.Writable : PathPredicate → Prop
  | .equals _ value => '"' ∉ value ∨ '\'' ∉ value
  | .position n => n ≠ 0

instance : (predicate : PathPredicate) → Decidable predicate.Writable
  | .equals _ value => inferInstanceAs (Decidable ('"' ∉ value ∨ '\'' ∉ value))
  | .position n => inferInstanceAs (Decidable (n ≠ 0))

/-- There is a text for the step. -/
structure Step.Writable (step : Step) : Prop where
  name : ∀ name ∈ step.name, IsElementName name
  predicate : ∀ predicate ∈ step.predicate, predicate.Writable

instance (step : Step) : Decidable step.Writable :=
  decidable_of_iff
    ((∀ name ∈ step.name, IsElementName name) ∧
      ∀ predicate ∈ step.predicate, predicate.Writable)
    ⟨fun ⟨h1, h2⟩ => ⟨h1, h2⟩, fun ⟨h1, h2⟩ => ⟨h1, h2⟩⟩

/-! ## What is written -/

/-- The slashes of an axis. -/
def Axis.mark : Axis → Text
  | .child => "/"
  | .descendant => "//"

/-- The name of a step in a query. -/
def Step.nameText (step : Step) : Text := step.name.getD "*"

/-- A step as it is written. `beforeTest` and `afterTest` stand next to the brackets; around the
name of an attribute stand `beforeKey` and `afterKey`, and `beforeValue` behind the sign. -/
structure WrittenStep where
  step : Step
  beforeName : Text
  afterName : Text
  beforeTest : Text
  beforeKey : Text
  afterKey : Text
  beforeValue : Text
  afterTest : Text
  quote : Char

namespace WrittenStep

/-- The text of a predicate, without what stands next to the brackets. -/
def testText (w : WrittenStep) : PathPredicate → Text
  | .equals a value =>
    '@' :: ((w.beforeKey ++ (a.name ++ w.afterKey)) ++
      ("=" ++ (w.beforeValue ++ w.quote :: (value ++ [w.quote]))))
  | .position n => Text.ofNat n.toNat

/-- The predicate with its brackets. -/
def bracketText (w : WrittenStep) : Text :=
  match w.step.predicate with
  | none => []
  | some predicate => '[' :: ((w.beforeTest ++ (w.testText predicate ++ w.afterTest)) ++ [']'])

/-- The text of a step up to its predicate. -/
def headText (w : WrittenStep) : Text :=
  w.step.axis.mark ++ (w.beforeName ++ (w.step.nameText ++ w.afterName))

/-- The text of a step. -/
def text (w : WrittenStep) : Text := w.headText ++ w.bracketText

/-- Only blanks are added to the step, and the quote around a value does not occur in it. -/
structure LaidOut (w : WrittenStep) : Prop where
  beforeName : ∀ c ∈ w.beforeName, Text.isBlank c = true
  afterName : ∀ c ∈ w.afterName, Text.isBlank c = true
  beforeTest : ∀ c ∈ w.beforeTest, Text.isBlank c = true
  beforeKey : ∀ c ∈ w.beforeKey, Text.isBlank c = true
  afterKey : ∀ c ∈ w.afterKey, Text.isBlank c = true
  beforeValue : ∀ c ∈ w.beforeValue, Text.isBlank c = true
  afterTest : ∀ c ∈ w.afterTest, Text.isBlank c = true
  quote : w.quote = '"' ∨ w.quote = '\''
  quote_not_mem : ∀ a value, w.step.predicate = some (.equals a value) → w.quote ∉ value

end WrittenStep

/-- A quote that can be put around a value. -/
def quoteFor (value : Text) : Char := if '"' ∈ value then '\'' else '"'

/-- The step written without blanks. -/
def Step.plain (step : Step) : WrittenStep where
  step := step
  beforeName := []
  afterName := []
  beforeTest := []
  beforeKey := []
  afterKey := []
  beforeValue := []
  afterTest := []
  quote := match step.predicate with
    | some (.equals _ value) => quoteFor value
    | _ => '"'

/-- The text of a step. -/
def Step.toText (step : Step) : Text := step.plain.text

theorem quoteFor_spec {value : Text} (h : '"' ∉ value ∨ '\'' ∉ value) :
    (quoteFor value = '"' ∨ quoteFor value = '\'') ∧ quoteFor value ∉ value := by
  unfold quoteFor
  split
  · rename_i hMem
    exact ⟨.inr rfl, h.resolve_left (not_not_intro hMem)⟩
  · rename_i hNot
    exact ⟨.inl rfl, hNot⟩

theorem Step.Writable.laidOut {step : Step} (h : step.Writable) : step.plain.LaidOut := by
  have hQuote : (step.plain.quote = '"' ∨ step.plain.quote = '\'') ∧
      ∀ a value, step.predicate = some (.equals a value) → step.plain.quote ∉ value := by
    unfold plain
    split
    · rename_i a value hPredicate
      have hSpec := quoteFor_spec (h.predicate _ hPredicate)
      refine ⟨hSpec.1, fun a' value' hEq => ?_⟩
      obtain ⟨-, rfl⟩ := PathPredicate.equals.inj (Option.some.inj (hPredicate.symm.trans hEq))
      exact hSpec.2
    · rename_i hOther
      exact ⟨.inl rfl, fun a value hEq => absurd hEq (hOther a value)⟩
  exact ⟨nofun, nofun, nofun, nofun, nofun, nofun, nofun, hQuote.1, hQuote.2⟩

namespace PathQuery

/-! ## The closing bracket -/

/-- The reader that looks for the closing bracket goes over the part. -/
def Crosses (quote : Option Char) (part : Text) (quote' : Option Char) : Prop :=
  ∀ passed rest, cutBracket passed quote (part ++ rest) =
    cutBracket (part.reverse ++ passed) quote' rest

variable {a b part text value rest : Text} {q₁ q₂ q₃ : Option Char} {quote : Char}

theorem Crosses.append (ha : Crosses q₁ a q₂) (hb : Crosses q₂ b q₃) : Crosses q₁ (a ++ b) q₃ := by
  intro passed rest
  rw [List.append_assoc, ha, hb, List.reverse_append, List.append_assoc]

theorem crosses_plain (h : ']' ∉ part ∧ '"' ∉ part ∧ '\'' ∉ part) : Crosses none part none := by
  induction part with
  | nil => exact fun _ _ => rfl
  | cons c part ih =>
    obtain ⟨hClose, hDouble, hSingle⟩ := h
    rw [List.mem_cons, not_or] at hClose hDouble hSingle
    intro passed rest
    have hQuote : ¬(c = '"' ∨ c = '\'') := not_or.mpr ⟨Ne.symm hDouble.1, Ne.symm hSingle.1⟩
    rw [List.cons_append, cutBracket, if_neg (Ne.symm hClose.1), if_neg hQuote,
      ih ⟨hClose.2, hDouble.2, hSingle.2⟩, List.reverse_cons, List.append_assoc,
      List.singleton_append]

/-- What stands in a quote is gone over, whatever it is. -/
theorem crosses_value (h : quote ∉ value) : Crosses (some quote) value (some quote) := by
  induction value with
  | nil => exact fun _ _ => rfl
  | cons c value ih =>
    rw [List.mem_cons, not_or] at h
    intro passed rest
    rw [List.cons_append, cutBracket, if_neg (Ne.symm h.1), ih h.2, List.reverse_cons,
      List.append_assoc, List.singleton_append]

theorem crosses_quoted (hQuote : quote = '"' ∨ quote = '\'') (h : quote ∉ value) :
    Crosses none (quote :: (value ++ [quote])) none := by
  have hOpen : Crosses none [quote] (some quote) := by
    intro passed rest
    have hClose : quote ≠ ']' := by rcases hQuote with rfl | rfl <;> decide
    rw [List.singleton_append, cutBracket, if_neg hClose, if_pos hQuote]
    rfl
  have hEnd : Crosses (some quote) [quote] none := by
    intro passed rest
    rw [List.singleton_append, cutBracket, if_pos rfl]
    rfl
  exact hOpen.append ((crosses_value h).append hEnd)

theorem Crosses.cutBracket_eq (h : Crosses none part none) (rest : Text) :
    cutBracket [] none (part ++ ']' :: rest) = some (part, rest) := by
  rw [h, cutBracket, if_pos rfl, List.append_nil, List.reverse_reverse]

theorem not_mem_blanks {d : Char} (h : ∀ c ∈ part, Text.isBlank c = true)
    (hd : Text.isBlank d = false) : d ∉ part := by
  intro hMem
  rw [h d hMem] at hd
  cases hd

theorem crosses_blanks (h : ∀ c ∈ part, Text.isBlank c = true) : Crosses none part none :=
  crosses_plain ⟨not_mem_blanks h (by decide), not_mem_blanks h (by decide),
    not_mem_blanks h (by decide)⟩

/-! ## Predicates -/

section

variable {w : WrittenStep} (h : w.LaidOut)

include h

/-- No bracket of a written predicate is taken for the one that closes it. -/
theorem crosses_test {predicate : PathPredicate} (hPredicate : w.step.predicate = some predicate) :
    Crosses none (w.beforeTest ++ (w.testText predicate ++ w.afterTest)) none := by
  refine (crosses_blanks h.beforeTest).append (Crosses.append ?_ (crosses_blanks h.afterTest))
  cases predicate with
  | equals a value =>
    have hAt : Crosses none ['@'] none := crosses_plain (by decide)
    have hSign : Crosses none "=" none := crosses_plain (by decide)
    have hName : Crosses none a.name none := by cases a <;> exact crosses_plain (by decide)
    have hValue := crosses_quoted h.quote (h.quote_not_mem a value hPredicate)
    exact hAt.append (((crosses_blanks h.beforeKey).append
      (hName.append (crosses_blanks h.afterKey))).append
        (hSign.append ((crosses_blanks h.beforeValue).append hValue)))
  | position n =>
    exact crosses_plain ⟨Text.not_mem_ofNat (by decide) _, Text.not_mem_ofNat (by decide) _,
      Text.not_mem_ofNat (by decide) _⟩

theorem trim_testText (predicate : PathPredicate) :
    Text.trim (w.testText predicate) = w.testText predicate := by
  cases predicate with
  | equals a value =>
    have hQuote : Text.isBlank w.quote = false := by
      rcases h.quote with hEq | hEq <;> rw [hEq] <;> decide
    have hLast : (w.testText (.equals a value)).getLast? = some w.quote :=
      List.getLast?_eq_some_iff.mpr
        ⟨'@' :: ((w.beforeKey ++ (a.name ++ w.afterKey)) ++
          ("=" ++ (w.beforeValue ++ w.quote :: value))), by simp [WrittenStep.testText]⟩
    exact Text.trim_eq_self (Text.stops_of_head? rfl (by decide))
      fun c hc => Option.some.inj (hLast.symm.trans hc) ▸ hQuote
  | position n =>
    exact Text.trim_eq_self (fun c hc => Text.isBlank_of_mem_ofNat (List.mem_of_mem_head? hc))
      fun c hc => Text.isBlank_of_mem_ofNat (List.mem_of_getLast? hc)

theorem isQuoted_value (value : Text) : isQuoted (w.quote :: (value ++ [w.quote])) = true := by
  unfold isQuoted
  rcases h.quote with hEq | hEq <;> rw [hEq, Shorthand.betweenQuotes?_quoted] <;> simp

theorem predicateOf_position {n : UInt32} (hn : n ≠ 0) :
    predicateOf (w.beforeTest ++ (w.testText (.position n) ++ w.afterTest)) =
      .ok (.position n) := by
  have hBody : Text.trim (w.beforeTest ++ (w.testText (.position n) ++ w.afterTest)) =
      Text.ofNat n.toNat := by
    rw [Text.trim_append h.beforeTest h.afterTest, trim_testText h]
    rfl
  have hDigits :
      (!(Text.ofNat n.toNat).isEmpty && (Text.ofNat n.toNat).all Text.isDigit) = true := by
    rw [Text.isEmpty_ofNat, Text.all_isDigit_ofNat]
    rfl
  unfold predicateOf
  simp only [hBody, hDigits, if_true, Text.uint32?_ofNat, if_neg hn]

theorem predicateOf_equals (a : PathAttribute) (value : Text) :
    predicateOf (w.beforeTest ++ (w.testText (.equals a value) ++ w.afterTest)) =
      .ok (.equals a value) := by
  have hBody : Text.trim (w.beforeTest ++ (w.testText (.equals a value) ++ w.afterTest)) =
      '@' :: ((w.beforeKey ++ (a.name ++ w.afterKey)) ++
        ("=" ++ (w.beforeValue ++ w.quote :: (value ++ [w.quote])))) := by
    rw [Text.trim_append h.beforeTest h.afterTest, trim_testText h]
    rfl
  -- neither the blanks nor the name of an attribute hold the sign
  have hSign : '=' ∉ w.beforeKey ++ (a.name ++ w.afterKey) := by
    simp only [List.mem_append, not_or]
    exact ⟨not_mem_blanks h.beforeKey (by decide), by cases a <;> decide,
      not_mem_blanks h.afterKey (by decide)⟩
  have hFirst : ¬ ("=" : Text) <:+: (w.beforeKey ++ (a.name ++ w.afterKey)) ++
      ("=" : Text).dropLast := by
    rw [show ("=" : Text) = '=' :: [] from rfl, Text.infix_append_iff hSign]
    decide
  have hKey : Text.trim (w.beforeKey ++ (a.name ++ w.afterKey)) = a.name := by
    rw [Text.trim_append h.beforeKey h.afterKey]
    cases a <;> decide
  have hName : PathAttribute.ofName? a.name = some a := by cases a <;> decide
  have hValue : Text.trim (w.beforeValue ++ w.quote :: (value ++ [w.quote])) =
      w.quote :: (value ++ [w.quote]) := by
    rw [Text.trim_lead h.beforeValue, Shorthand.trim_quoted h.quote]
  have hDigits : ∀ test, ('@' :: test : Text).all Text.isDigit = false := fun _ => rfl
  unfold predicateOf
  simp only [hBody, hDigits, Bool.and_false, Bool.false_eq_true, if_false,
    Text.splitFirst_append hFirst, hKey, hName, hValue, isQuoted_value h, if_true,
    Shorthand.unquote_eq_of_trim_eq h.quote hValue]

/-- **A predicate is read back.** -/
theorem predicateOf_written {predicate : PathPredicate} (hWritable : predicate.Writable) :
    predicateOf (w.beforeTest ++ (w.testText predicate ++ w.afterTest)) = .ok predicate := by
  cases predicate with
  | equals a value => exact predicateOf_equals h a value
  | position n => exact predicateOf_position h hWritable

theorem bracketOf_written (hWritable : w.step.Writable) (hRest : rest.head? ≠ some '[') :
    bracketOf (w.bracketText ++ rest) = .ok (w.step.predicate, rest) := by
  unfold WrittenStep.bracketText
  cases hPredicate : w.step.predicate with
  | none =>
    cases rest with
    | nil => rfl
    | cons c rest =>
      have hNot : c ≠ '[' := fun hEq => hRest (congrArg some hEq)
      unfold bracketOf
      split
      · rename_i hEq
        exact absurd (List.cons.inj hEq).1 hNot
      · rfl
  | some predicate =>
    have hCut := (crosses_test h hPredicate).cutBracket_eq rest
    have hRead := predicateOf_written h (hWritable.predicate predicate hPredicate)
    have hText : ∀ body : Text, '[' :: (body ++ [']']) ++ rest = '[' :: (body ++ ']' :: rest) := by
      simp
    simp only [hText, bracketOf, hCut, hRead]
    rfl

end

/-! ## Steps -/

theorem axisOf_mark (axis : Axis) (h : rest.head? ≠ some '/') :
    axisOf (axis.mark ++ rest) = .ok (axis, rest) := by
  cases axis with
  | descendant => rfl
  | child =>
    cases rest with
    | nil => rfl
    | cons c rest =>
      have hNot : c ≠ '/' := fun hEq => h (congrArg some hEq)
      show axisOf ('/' :: c :: rest) = .ok (.child, c :: rest)
      unfold axisOf
      split
      · rename_i hEq
        exact absurd (List.cons.inj (List.cons.inj hEq).2).1 hNot
      · rename_i hEq
        cases hEq
        rfl
      · rename_i hOther
        exact absurd rfl (hOther (c :: rest))

/-- The next step, when its parts can be read. -/
theorem stepsFrom_next {read : List Step} {axis : Axis} {predicate : Option PathPredicate}
    {name rest' : Text} (hAxis : axisOf text = .ok (axis, rest))
    (hName : Text.trim (rest.takeWhile fun c => !endsName c) = name) (hSome : name ≠ [])
    (hBracket : bracketOf (rest.dropWhile fun c => !endsName c) = .ok (predicate, rest')) :
    stepsFrom read text =
      stepsFrom (⟨axis, if name = "*" then none else some name, predicate⟩ :: read) rest' := by
  subst hName
  have hText : text.isEmpty = false := by
    cases text with
    | nil => cases hAxis
    | cons c text => rfl
  rw [stepsFrom, if_neg (by simp [hText])]
  split
  · rename_i hEq
    cases hAxis.symm.trans hEq
  · rename_i hEq
    cases hAxis.symm.trans hEq
    rw [if_neg (by simpa using hSome)]
    split
    · rename_i hEq'
      cases hBracket.symm.trans hEq'
    · rename_i hEq'
      cases hBracket.symm.trans hEq'
      rfl

/-- The name of a step is read as the name that the step has. -/
theorem nameText_spec {step : Step} (h : step.Writable) :
    step.nameText ≠ [] ∧ Text.trim step.nameText = step.nameText ∧
      ('[' ∉ step.nameText ∧ '/' ∉ step.nameText) ∧
      (if step.nameText = "*" then none else some step.nameText) = step.name := by
  unfold Step.nameText
  cases hName : step.name with
  | none => decide
  | some name =>
    have hElement := h.name name hName
    exact ⟨hElement.nonempty, hElement.trimmed, hElement.marks_not_mem, if_neg hElement.ne_star⟩

theorem head?_text (w : WrittenStep) : w.text.head? = some '/' := by
  unfold WrittenStep.text WrittenStep.headText
  cases w.step.axis <;> rfl

theorem head?_texts {written : List WrittenStep} {c : Char}
    (hHead : (written.flatMap WrittenStep.text).head? = some c) : c = '/' := by
  cases written with
  | nil => cases hHead
  | cons w written =>
    rw [List.flatMap_cons, List.head?_append, head?_text] at hHead
    exact (Option.some.inj hHead).symm

section

variable {w : WrittenStep} (h : w.LaidOut) (hWritable : w.step.Writable)

include h hWritable

/-- **A step is read back**, before any rest that could be another step. -/
theorem stepsFrom_written (read : List Step) (hRest : ∀ c, rest.head? = some c → c = '/') :
    stepsFrom read (w.text ++ rest) = stepsFrom (w.step :: read) rest := by
  obtain ⟨hSome, hTrim, hMarks, hName⟩ := nameText_spec hWritable
  let named := w.beforeName ++ (w.step.nameText ++ w.afterName)
  have hText : w.text ++ rest = w.step.axis.mark ++ (named ++ (w.bracketText ++ rest)) := by
    simp [WrittenStep.text, WrittenStep.headText, named]
  have hNot : ∀ {d : Char}, Text.isBlank d = false → d ∉ w.step.nameText → d ∉ named := by
    intro d hBlank hMem
    simp only [named, List.mem_append, not_or]
    exact ⟨not_mem_blanks h.beforeName hBlank, hMem, not_mem_blanks h.afterName hBlank⟩
  have hSlash : '/' ∉ named := hNot (by decide) hMarks.2
  have hBracket : '[' ∉ named := hNot (by decide) hMarks.1
  have hPlain : ∀ c ∈ named, (!endsName c) = true := by
    intro c hc
    have hNe : c ≠ '[' ∧ c ≠ '/' :=
      ⟨fun hEq => hBracket (hEq ▸ hc), fun hEq => hSlash (hEq ▸ hc)⟩
    simp [endsName, hNe]
  have hStop : ∀ c, (w.bracketText ++ rest).head? = some c → (!endsName c) = false := by
    intro c hc
    unfold WrittenStep.bracketText at hc
    split at hc
    · rw [hRest c hc]
      rfl
    · cases hc
      rfl
  have hNext : (named ++ (w.bracketText ++ rest)).head? ≠ some '/' := by
    have hNamed : named ≠ [] := by simp [named, hSome]
    rw [List.head?_append_of_ne_nil _ hNamed]
    exact fun hHead => hSlash (List.mem_of_mem_head? hHead)
  have hFit : rest.head? ≠ some '[' := fun hHead => absurd (hRest _ hHead) (by decide)
  have hNamed : Text.trim ((named ++ (w.bracketText ++ rest)).takeWhile fun c => !endsName c) =
      w.step.nameText := by
    rw [Text.takeWhile_append hPlain hStop, Text.trim_append h.beforeName h.afterName, hTrim]
  have hTest : bracketOf ((named ++ (w.bracketText ++ rest)).dropWhile fun c => !endsName c) =
      .ok (w.step.predicate, rest) := by
    rw [Text.dropWhile_append hPlain hStop]
    exact bracketOf_written h hWritable hFit
  rw [hText, stepsFrom_next (axisOf_mark w.step.axis hNext) hNamed hSome hTest, hName]

end

/-! ## Queries -/

theorem stepsFrom_texts {written : List WrittenStep}
    (h : ∀ w ∈ written, w.LaidOut ∧ w.step.Writable) (read : List Step) :
    stepsFrom read (written.flatMap WrittenStep.text) =
      .ok (read.reverse ++ written.map WrittenStep.step) := by
  induction written generalizing read with
  | nil => rw [List.flatMap_nil, stepsFrom, if_pos List.isEmpty_nil, List.map_nil, List.append_nil]
  | cons w written ih =>
    obtain ⟨⟨hLaidOut, hWritable⟩, hRest⟩ := List.forall_mem_cons.mp h
    rw [List.flatMap_cons, stepsFrom_written hLaidOut hWritable read fun _ => head?_texts,
      ih hRest, List.reverse_cons, List.append_assoc, List.map_cons, List.singleton_append]

/-- Only a step without brackets can end in a blank. -/
theorem isBlank_getLast_text {w : WrittenStep} {c : Char} (hWritable : w.step.Writable)
    (hEnd : w.step.predicate ≠ none ∨ w.afterName = []) (hLast : w.text.getLast? = some c) :
    Text.isBlank c = false := by
  obtain ⟨hSome, hTrim, -⟩ := nameText_spec hWritable
  unfold WrittenStep.text WrittenStep.bracketText at hLast
  split at hLast
  · rename_i hNone
    have hAfter : w.afterName = [] := hEnd.resolve_left (not_not_intro hNone)
    have hHead : w.headText = (w.step.axis.mark ++ w.beforeName) ++ w.step.nameText := by
      simp [WrittenStep.headText, hAfter]
    rw [List.append_nil, hHead, List.getLast?_append_of_ne_nil _ hSome, ← hTrim] at hLast
    exact Text.isBlank_getLast_trim hLast
  · rename_i predicate _
    obtain rfl : ']' = c := by
      rw [← List.cons_append, ← List.append_assoc, List.getLast?_concat] at hLast
      exact Option.some.inj hLast
    decide

theorem trim_texts {w : WrittenStep} (front : List WrittenStep) (hWritable : w.step.Writable)
    (hEnd : w.step.predicate ≠ none ∨ w.afterName = []) :
    Text.trim ((front ++ [w]).flatMap WrittenStep.text) =
      (front ++ [w]).flatMap WrittenStep.text := by
  refine Text.trim_eq_self (fun c hHead => ?_) fun c hLast => ?_
  · rw [head?_texts hHead]
    decide
  · have hText : w.text ≠ [] := List.ne_nil_of_mem (List.mem_of_mem_head? (head?_text w))
    rw [List.flatMap_append, List.flatMap_singleton,
      List.getLast?_append_of_ne_nil _ hText] at hLast
    exact isBlank_getLast_text hWritable hEnd hLast

/-- The blanks that end a step can be left out. -/
theorem exists_without_trail {w : WrittenStep} (h : w.LaidOut) :
    ∃ (w' : WrittenStep) (trail : Text), w'.LaidOut ∧ w'.step = w.step ∧
      (w'.step.predicate ≠ none ∨ w'.afterName = []) ∧ (∀ c ∈ trail, Text.isBlank c = true) ∧
      w.text = w'.text ++ trail := by
  by_cases hNone : w.step.predicate = none
  · refine ⟨{ w with afterName := [] }, w.afterName, { h with afterName := nofun }, rfl, .inr rfl,
      h.afterName, ?_⟩
    simp [WrittenStep.text, WrittenStep.headText, WrittenStep.bracketText, hNone]
  · exact ⟨w, [], h, rfl, .inl hNone, nofun, (List.append_nil w.text).symm⟩

/-- What trimming leaves of a query is written, too: it takes the blanks behind the last name. -/
theorem exists_trimmed {written : List WrittenStep} (hSome : written ≠ [])
    (h : ∀ w ∈ written, w.LaidOut ∧ w.step.Writable) :
    ∃ trimmed : List WrittenStep, (∀ w ∈ trimmed, w.LaidOut ∧ w.step.Writable) ∧
      trimmed.map WrittenStep.step = written.map WrittenStep.step ∧
      Text.trim (written.flatMap WrittenStep.text) = trimmed.flatMap WrittenStep.text := by
  obtain ⟨front, w, rfl⟩ := (List.eq_nil_or_concat' written).resolve_left hSome
  rw [List.forall_mem_append, List.forall_mem_singleton] at h
  obtain ⟨hFront, hLaidOut, hWritable⟩ := h
  obtain ⟨w', trail, hLaidOut', hStep, hEnd, hTrail, hText⟩ := exists_without_trail hLaidOut
  have hWritable' : w'.step.Writable := hStep ▸ hWritable
  refine ⟨front ++ [w'], ?_, by simp [hStep], ?_⟩
  · rw [List.forall_mem_append, List.forall_mem_singleton]
    exact ⟨hFront, hLaidOut', hWritable'⟩
  · have hTexts : (front ++ [w]).flatMap WrittenStep.text =
        (front ++ [w']).flatMap WrittenStep.text ++ trail := by
      simp [List.flatMap_append, hText]
    rw [hTexts, Text.trim_trail hTrail, trim_texts front hWritable' hEnd]

theorem parse_texts {written : List WrittenStep} (hSome : written ≠ [])
    (h : ∀ w ∈ written, w.LaidOut ∧ w.step.Writable) :
    parse (written.flatMap WrittenStep.text) =
      .ok ⟨Text.trim (written.flatMap WrittenStep.text), written.map WrittenStep.step⟩ := by
  obtain ⟨trimmed, hTrimmed, hSteps, hTrim⟩ := exists_trimmed hSome h
  have hFull : (trimmed.flatMap WrittenStep.text).isEmpty = false := by
    cases trimmed with
    | nil => exact absurd (List.map_eq_nil_iff.mp hSteps.symm) hSome
    | cons w trimmed =>
      have hSlash : '/' ∈ (w :: trimmed).flatMap WrittenStep.text := by
        rw [List.flatMap_cons]
        exact List.mem_append_left _ (List.mem_of_mem_head? (head?_text w))
      exact List.isEmpty_eq_false_iff.mpr (List.ne_nil_of_mem hSlash)
  have hRead : stepsOf (trimmed.flatMap WrittenStep.text) = .ok (written.map WrittenStep.step) := by
    rw [stepsOf, hFull, if_neg Bool.false_ne_true, stepsFrom_texts hTrimmed, hSteps]
    rfl
  rw [parse, hTrim, hRead]

/-- **A path query is read as the steps that are written.** Blanks around the names and in the
brackets are free, and so is the choice of the quotes around a value that does not hold them; what
the value holds besides, be it brackets, slashes, signs or the other quote, is left to it. -/
theorem parse_written {steps : List Step} (hSome : steps ≠ []) (h : ∀ step ∈ steps, step.Writable) :
    parse (steps.flatMap Step.toText) = .ok ⟨steps.flatMap Step.toText, steps⟩ ∧
      ∀ written : List WrittenStep, written.map WrittenStep.step = steps →
        (∀ w ∈ written, w.LaidOut) →
        parse (written.flatMap WrittenStep.text) =
          .ok ⟨Text.trim (written.flatMap WrittenStep.text), steps⟩ := by
  have hWritten : ∀ written : List WrittenStep, written.map WrittenStep.step = steps →
      (∀ w ∈ written, w.LaidOut) → parse (written.flatMap WrittenStep.text) =
        .ok ⟨Text.trim (written.flatMap WrittenStep.text), steps⟩ := by
    rintro written rfl hLaidOut
    exact parse_texts (fun hNil => hSome (by rw [hNil]; rfl)) fun w hw =>
      ⟨hLaidOut w hw, h w.step (List.mem_map_of_mem hw)⟩
  have hTexts : steps.flatMap Step.toText = (steps.map Step.plain).flatMap WrittenStep.text := by
    rw [List.flatMap_map]
    rfl
  have hTrim : Text.trim (steps.flatMap Step.toText) = steps.flatMap Step.toText := by
    obtain ⟨front, last, rfl⟩ := (List.eq_nil_or_concat' steps).resolve_left hSome
    rw [hTexts, List.map_append, List.map_singleton]
    have hLast : last.Writable := h last (by simp)
    exact trim_texts _ hLast (.inr rfl)
  refine ⟨?_, hWritten⟩
  have hPlain := hWritten (steps.map Step.plain) (by simp [Function.comp_def, Step.plain])
    (List.forall_mem_map.mpr fun step hStep => (h step hStep).laidOut)
  rw [← hTexts, hTrim] at hPlain
  exact hPlain

/-- Steps whose names and values hold most marks of a query. -/
def marked : List Step :=
  [⟨.descendant, none, some (.equals .text "a]b[\"/@= ")⟩,
    ⟨.child, some "b c]", some (.position 4294967295)⟩, ⟨.child, some "d", none⟩]

/-- The step with a blank wherever one may stand. -/
def spaced (step : Step) : WrittenStep :=
  { step.plain with
    beforeName := " ", afterName := " ", beforeTest := " ", beforeKey := " ", afterKey := " "
    beforeValue := " ", afterTest := " " }

theorem parse_marked :
    (∀ step ∈ marked, step.Writable) ∧
      parse "//*[@text='a]b[\"/@= ']/b c][4294967295]/d" =
        .ok ⟨"//*[@text='a]b[\"/@= ']/b c][4294967295]/d", marked⟩ ∧
      parse "// * [ @ text = 'a]b[\"/@= ' ]/ b c] [ 4294967295 ]/ d " =
        .ok ⟨"// * [ @ text = 'a]b[\"/@= ' ]/ b c] [ 4294967295 ]/ d", marked⟩ := by
  have hWritable : ∀ step ∈ marked, step.Writable := by decide +kernel
  have hBlank : ∀ c ∈ (" " : Text), Text.isBlank c = true :=
    List.forall_mem_singleton.mpr (by decide)
  obtain ⟨hPlain, hWritten⟩ := parse_written (show marked ≠ [] from List.cons_ne_nil _ _) hWritable
  have hSpaced := hWritten (marked.map spaced) (by simp [Function.comp_def, spaced, Step.plain])
    (List.forall_mem_map.mpr fun step hStep =>
      have hLaidOut := (hWritable step hStep).laidOut
      ⟨hBlank, hBlank, hBlank, hBlank, hBlank, hBlank, hBlank, hLaidOut.quote,
        hLaidOut.quote_not_mem⟩)
  have hPlainText : marked.flatMap Step.toText = "//*[@text='a]b[\"/@= ']/b c][4294967295]/d" := by
    decide +kernel
  have hSpacedText : (marked.map spaced).flatMap WrittenStep.text =
      "// * [ @ text = 'a]b[\"/@= ' ]/ b c] [ 4294967295 ]/ d " := by
    decide +kernel
  have hTrim : Text.trim "// * [ @ text = 'a]b[\"/@= ' ]/ b c] [ 4294967295 ]/ d " =
      "// * [ @ text = 'a]b[\"/@= ' ]/ b c] [ 4294967295 ]/ d" := by
    decide +kernel
  rw [hPlainText] at hPlain
  rw [hSpacedText, hTrim] at hSpaced
  exact ⟨hWritable, hPlain, hSpaced⟩

end PathQuery

end ScreenQuery
