import ScreenQuery.Proofs.Markup.Events

/-!
# Comments

* Repair knows tags and quotes, but no comments. It takes the body of a comment for the inside of a
  tag, where a quote opens a value and a bracket outside of values ends the tag.
* `Settled body`: the body leaves no value open. Then the bracket at the end of the comment is
  written as it is. It is the first one behind two dashes, because repair brings no dashes and no
  brackets into a text (`Repaired.infix_of_infix`), so the comment is read as one (`reads_comment`).
* Otherwise that bracket is escaped like any other in a value, and the comment goes on: up to
  another `-->`, or to the end of the text (`fault_of_unsettled`).
-/

namespace ScreenQuery.Markup

variable {place last : Place} {opened : List Text} {text out body back mark : Text} {m : Char}

/-- The comment with a body. -/
def comment (body : Text) : Text := "<!--" ++ (body ++ "-->")

/-- The place behind a text. -/
def Place.through (place : Place) (text : Text) : Place := text.foldl Place.after place

/-- No value is open at the end of the body of a comment. -/
def Settled (body : Text) : Prop := ∀ quote, Place.inTag.through body ≠ .inValue quote

instance (body : Text) : Decidable (Settled body) :=
  match hPlace : Place.inTag.through body with
  | .inValue quote => .isFalse fun hSettled => hSettled quote hPlace
  | .outside => .isTrue fun _ hQuote => by cases hPlace.symm.trans hQuote
  | .inTag => .isTrue fun _ hQuote => by cases hPlace.symm.trans hQuote

/-! ## What repair does to a body -/

/-- A value that is open behind a text was open before it, or a quote in the text has opened it. -/
theorem inValue_of_through {quote : Char} (h : place.through text = .inValue quote) :
    place = .inValue quote ∨ quote ∈ text ∧ (quote = '"' ∨ quote = '\'') := by
  induction text generalizing place with
  | nil => exact .inl h
  | cons c text ih =>
    rcases ih h with hAfter | ⟨hMem, hQuote⟩
    · cases place with
      | outside =>
        simp only [Place.after] at hAfter
        split_ifs at hAfter
      | inTag =>
        simp only [Place.after] at hAfter
        split_ifs at hAfter with _ hQuote
        cases hAfter
        exact .inr ⟨List.mem_cons_self, hQuote⟩
      | inValue opening =>
        simp only [Place.after] at hAfter
        split_ifs at hAfter
        exact .inl hAfter
    · exact .inr ⟨List.mem_cons_of_mem c hMem, hQuote⟩

theorem quote_of_not_settled (h : ¬ Settled body) : ∃ quote,
    Place.inTag.through body = .inValue quote ∧ quote ∈ body ∧ (quote = '"' ∨ quote = '\'') := by
  obtain ⟨quote, hPlace⟩ : ∃ quote, Place.inTag.through body = .inValue quote := by
    simpa only [Settled, not_forall, not_not] using h
  rcases inValue_of_through hPlace with hTag | hQuote
  · cases hTag
  · exact ⟨quote, hPlace, hQuote⟩

/-- A body without quotes is settled. -/
theorem settled_of_not_mem (hDouble : '"' ∉ body) (hSingle : '\'' ∉ body) : Settled body := by
  by_contra hOpen
  obtain ⟨quote, -, hMem, rfl | rfl⟩ := quote_of_not_settled hOpen
  · exact hDouble hMem
  · exact hSingle hMem

theorem Repaired.last_eq (h : Repaired place text out last) : last = place.through text := by
  induction h with
  | nil place => rfl
  | cons rest _ ih => exact ih

/-- Escapes begin with an ampersand, so repair brings no other beginning. -/
theorem Repaired.prefix_of_prefix (h : Repaired place text out last) (hAmp : '&' ∉ mark)
    (hPrefix : mark <+: out) : mark <+: text := by
  induction h generalizing mark with
  | nil place => exact hPrefix
  | @cons place last c text out rest _ ih =>
    cases mark with
    | nil => exact List.nil_prefix
    | cons m ms =>
      rw [List.mem_cons, not_or] at hAmp
      rcases place.escaped_cases c rest with hEq | ⟨-, hEq⟩ | ⟨-, ⟨-, hEq⟩ | ⟨-, hEq⟩⟩ <;>
        rw [hEq] at hPrefix
      · obtain ⟨rfl, hRest⟩ := List.cons_prefix_cons.mp hPrefix
        exact List.cons_prefix_cons.mpr ⟨rfl, ih hAmp.2 hRest⟩
      all_goals exact absurd (List.cons_prefix_cons.mp hPrefix).1 (Ne.symm hAmp.1)

/-- Nor does it bring a mark that holds no ampersand and cannot begin inside an escape. -/
theorem Repaired.infix_of_infix {ms : Text} (h : Repaired place text out last)
    (hHead : m ∉ ("&amp;&lt;&gt;" : Text)) (hAmp : '&' ∉ m :: ms) (hInfix : m :: ms <:+: out) :
    m :: ms <:+: text := by
  induction h with
  | nil place => exact hInfix
  | @cons place last c text out rest hRest ih =>
    have hLater : m :: ms <:+: out → m :: ms <:+: c :: text := fun hOut =>
      List.infix_cons (ih hOut)
    have hEscape : ∀ escape : Text, escape ⊆ ("&amp;&lt;&gt;" : Text) →
        m :: ms <:+: escape ++ out → m :: ms <:+: c :: text := fun escape hSub hIn =>
      hLater ((Text.infix_append_iff fun hMem => hHead (hSub hMem)).mp hIn)
    have hWhole := Repaired.cons rest hRest
    rcases place.escaped_cases c rest with hEq | ⟨-, hEq⟩ | ⟨-, ⟨-, hEq⟩ | ⟨-, hEq⟩⟩ <;>
      rw [hEq] at hInfix hWhole
    · rcases List.infix_cons_iff.mp hInfix with hPrefix | hOut
      · exact (hWhole.prefix_of_prefix hAmp hPrefix).isInfix
      · exact hLater hOut
    · exact hEscape "&amp;" (by decide) hInfix
    · exact hEscape "&lt;" (by decide) hInfix
    · exact hEscape "&gt;" (by decide) hInfix

/-- Repair brings no end of a comment into a text. -/
theorem Repaired.end_not_infix (h : Repaired place text out last)
    (hEnd : ¬ ("-->" : Text) <:+: text) : ¬ ("-->" : Text) <:+: out :=
  fun hInfix => hEnd
    (h.infix_of_infix (by decide) (by decide) (show '-' :: ['-', '>'] <:+: out from hInfix))

/-! ## Where a comment ends -/

/-- True when a bracket ends a comment, given what has been passed. -/
def endsComment (passed : Text) : Bool :=
  Text.startsWith "--" passed && 5 ≤ Text.byteLength passed

/-- A comment does not end before the first `-->` behind its start. -/
theorem cut?_comment_pass (h : ¬ ("-->" : Text) <:+: text) (rest : Text) :
    Construct.comment.cut? ("!--" ++ (text ++ rest)) =
      cutWhere endsComment (text.reverse ++ "--!") rest := by
  have hStart : Construct.comment.cut? ("!--" ++ (text ++ rest)) =
      cutWhere endsComment "--!" (text ++ rest) := cutWhere_append (by decide) [] (text ++ rest)
  rw [hStart]
  refine cutWhere_pass _ (fun front back hText => ?_) rest
  by_contra hEnds
  rw [Bool.not_eq_false, endsComment, Bool.and_eq_true, Text.startsWith_iff,
    decide_eq_true_iff] at hEnds
  obtain ⟨hDashes, hLong⟩ := hEnds
  -- the two dashes are not those of the start, for lack of length
  cases hPassed : front.reverse with
  | nil =>
    rw [hPassed] at hLong
    exact absurd hLong (by decide)
  | cons c passed =>
    rw [hPassed] at hDashes hLong
    obtain ⟨rfl, hDash⟩ := List.cons_prefix_cons.mp hDashes
    cases passed with
    | nil => exact absurd hLong (by decide)
    | cons d passed =>
      obtain ⟨rfl, -⟩ := List.cons_prefix_cons.mp hDash
      have hFront : front = passed.reverse ++ "--" := by
        rw [← List.reverse_reverse front, hPassed, List.reverse_cons, List.reverse_cons,
          List.append_assoc]
        rfl
      refine h ⟨passed.reverse, back, ?_⟩
      rw [hText, hFront]
      simp

/-- Two more dashes do not end a comment. -/
theorem end_not_infix_dashes (h : ¬ ("-->" : Text) <:+: text) :
    ¬ ("-->" : Text) <:+: text ++ "--" := by
  have hDash : ∀ {text : Text}, ¬ ("-->" : Text) <:+: text → ¬ ("-->" : Text) <:+: text ++ ['-'] :=
    fun hNot hInfix => hNot ((Text.infix_concat_iff (show _ ≠ some '-' by decide)).mp hInfix)
  have hDashes := hDash (hDash h)
  rwa [List.append_assoc] at hDashes

/-- A comment ends with the first `-->` behind its start. -/
theorem cut?_comment_closed (h : ¬ ("-->" : Text) <:+: text) (rest : Text) :
    Construct.comment.cut? ("!--" ++ (text ++ ("--" ++ '>' :: rest))) =
      some ("!--" ++ (text ++ "--"), rest) := by
  have hEnds : endsComment ((text ++ "--").reverse ++ "--!") = true := by
    rw [List.reverse_append, List.append_assoc]
    have hLong : 5 ≤ Text.byteLength ("--" ++ (text.reverse ++ "--!")) := by
      rw [Text.byteLength_append, Text.byteLength_append]
      have hStart : Text.byteLength "--!" = 3 := by decide
      have hEnd : Text.byteLength "--" = 2 := by decide
      omega
    exact Bool.and_eq_true_iff.mpr
      ⟨Text.startsWith_iff.mpr (List.prefix_append _ _), decide_eq_true hLong⟩
  rw [← List.append_assoc text, cut?_comment_pass (end_not_infix_dashes h), cutWhere,
    if_pos ⟨rfl, hEnds⟩, List.reverse_append, List.reverse_reverse]
  rfl

/-- Without a `-->` behind its start, a comment does not end. -/
theorem cut?_comment_open (h : ¬ ("-->" : Text) <:+: text) :
    Construct.comment.cut? ("!--" ++ text) = none := by
  rw [← List.append_nil text, cut?_comment_pass h, cutWhere]

/-! ## Comments in a text -/

theorem getLast?_comment (body : Text) : (comment body).getLast? = some '>' :=
  List.getLast?_eq_some_iff.mpr ⟨"<!--" ++ (body ++ "--"), by simp [comment]⟩

theorem IsKept.comment (h : IsKept body) : IsKept (comment body) := by
  have hStart : IsKept "<!--" := by decide
  have hStop : IsKept "-->" := by decide
  exact List.forall_mem_append.mpr ⟨hStart, List.forall_mem_append.mpr ⟨h, hStop⟩⟩

/-- A comment is written with what repair makes of its body. -/
theorem write_comment (body rest : Text) : ∃ out,
    Repaired .inTag body out (Place.inTag.through body) ∧
      Place.outside.write (comment body ++ rest) =
        '<' :: ("!--" ++ (out ++ (Place.inTag.through body).write ("-->" ++ rest))) := by
  obtain ⟨out, last, hRepaired, hWrite⟩ := exists_repaired_append .inTag body ("-->" ++ rest)
  obtain rfl := hRepaired.last_eq
  refine ⟨out, hRepaired, ?_⟩
  rw [← hWrite, comment, List.append_assoc, List.append_assoc]
  rfl

section

variable (hEnd : ¬ ("-->" : Text) <:+: body)

include hEnd

/-- **A settled comment is read as a comment.** -/
theorem reads_comment (hSettled : Settled body) : Reads opened (comment body) [.aside] opened := by
  intro rest before position
  obtain ⟨out, hRepaired, hWrite⟩ := write_comment body rest
  have hLast : (Place.inTag.through body).write ("-->" ++ rest) =
      "--" ++ '>' :: Place.outside.write rest := by
    cases hPlace : Place.inTag.through body with
    | outside | inTag => rfl
    | inValue quote => exact absurd hPlace (hSettled quote)
  rw [hWrite, hLast]
  exact Event.readFrom_next before position rfl
    (cut?_comment_closed (hRepaired.end_not_infix hEnd) _) rfl

/-- A comment whose body leaves a value open does not end before a later `-->`. -/
theorem fault_of_unsettled (hSettled : ¬ Settled body) (hBack : ¬ ("-->" : Text) <:+: back)
    (before : List Event) (opened : List Text) (position : Nat) :
    (Event.readFrom before opened position
      (Place.outside.write (comment body ++ back))).fault ≠ none := by
  obtain ⟨out, hRepaired, hWrite⟩ := write_comment body back
  obtain ⟨quote, hPlace, -, hQuote⟩ := quote_of_not_settled hSettled
  obtain ⟨last, hBackRepaired⟩ := repaired_write (.inValue quote) back
  have hEscaped : (Place.inTag.through body).write ("-->" ++ back) =
      "--" ++ '&' :: ("gt;" ++ (Place.inValue quote).write back) := by
    rw [hPlace]
    rcases hQuote with rfl | rfl <;> rfl
  rw [hWrite, hEscaped]
  refine Event.readFrom_unclosed rfl (cut?_comment_open fun hInfix => ?_)
  rw [← List.append_assoc] at hInfix
  rcases Text.infix_append_cons (by decide) hInfix with hFront | hRest
  · exact end_not_infix_dashes (hRepaired.end_not_infix hEnd) hFront
  · exact hBackRepaired.end_not_infix hBack ((Text.infix_append_iff (by decide)).mp hRest)

end

end ScreenQuery.Markup
