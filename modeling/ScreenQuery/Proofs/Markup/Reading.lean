import ScreenQuery.Proofs.Markup.Repair
import ScreenQuery.Proofs.Text.Parts

/-!
# How markup is read

* `Event.readFrom_eq` is one round of reading: `readFrom_skip` passes over the text before the next
  `<`, and `readFrom_next`, `readFrom_unclosed` and `readFrom_misfit` are the ways in which reading
  goes on there; nobody else has to look into `Event.readFrom`.
* A text that stays in a tag is cut where the tag ends (`cutTag_closed`), and not at all when the
  tag does not end (`cutTag_open`): reading and repair follow the quotes of a tag alike.
-/

namespace ScreenQuery.Markup

variable {events : List Event} {opened opened' : List Text} {position : Nat}
  {skipped content body rest text : Text} {construct : Construct} {event : Event}
  {place last : Place}

/-! ## The next construct -/

namespace Event

/-- One round of reading, without the proof that the text gets shorter. -/
theorem readFrom_eq (events : List Event) (opened : List Text) (position : Nat) (text : Text) :
    readFrom events opened position text =
      let start := position + Text.byteLength (text.takeWhile fun c => c != '<') + 1
      match text.dropWhile fun c => c != '<' with
      | [] => ⟨events.reverse, none⟩
      | _ :: content =>
        match Construct.of? content with
        | none => ⟨events.reverse, some (start, .unknown)⟩
        | some construct =>
          match construct.cut? content with
          | none => ⟨events.reverse, some (start + Text.byteLength content, .unclosed construct)⟩
          | some (body, rest) =>
            let stop := start + Text.byteLength body + 1
            match ofConstruct construct opened body with
            | .error fault => ⟨events.reverse, some (stop, fault)⟩
            | .ok (event, opened) => readFrom (event :: events) opened stop rest := by
  rw [readFrom]
  split
  · rename_i hRest
    simp only [hRest]
  · rename_i hRest
    simp only [hRest]
    cases Construct.of? _ with
    | none => rfl
    | some construct =>
      simp only
      split
      · rename_i hCut
        simp only [hCut]
      · rename_i body rest hCut
        cases hEvent : ofConstruct construct opened body with
        | error fault => simp only [hCut, hEvent]
        | ok result => simp only [hCut, hEvent]

theorem readFrom_nil : readFrom events opened position [] = ⟨events.reverse, none⟩ := by
  rw [readFrom_eq]
  rfl

/-- What stands before the next construct only moves the position. -/
theorem readFrom_skip (h : '<' ∉ skipped) (text : Text) :
    readFrom events opened position (skipped ++ text) =
      readFrom events opened (position + Text.byteLength skipped) text := by
  have hPlain : ∀ c ∈ skipped, (c != '<') = true := Text.bne_of_not_mem h
  rw [readFrom_eq, readFrom_eq _ _ _ text, List.dropWhile_append_of_pos hPlain,
    List.takeWhile_append_of_pos hPlain, Text.byteLength_append, ← Nat.add_assoc]

/-- Reading goes on behind a construct. -/
theorem readFrom_next (events : List Event) (position : Nat)
    (hOf : Construct.of? content = some construct)
    (hCut : construct.cut? content = some (body, rest))
    (hEvent : ofConstruct construct opened body = .ok (event, opened')) :
    ∃ position', readFrom events opened position ('<' :: content) =
      readFrom (event :: events) opened' position' rest := by
  rw [readFrom_eq, List.dropWhile_cons_of_neg (by decide)]
  simp only [hOf, hCut, hEvent]
  exact ⟨_, rfl⟩

/-- A construct that does not end is a fault. -/
theorem readFrom_unclosed (hOf : Construct.of? content = some construct)
    (hCut : construct.cut? content = none) :
    (readFrom events opened position ('<' :: content)).fault ≠ none := by
  rw [readFrom_eq, List.dropWhile_cons_of_neg (by decide)]
  simp only [hOf, hCut]
  nofun

/-- A construct that is not in its place is a fault. -/
theorem readFrom_misfit {fault : Fault} (hOf : Construct.of? content = some construct)
    (hCut : construct.cut? content = some (body, rest))
    (hEvent : ofConstruct construct opened body = .error fault) :
    (readFrom events opened position ('<' :: content)).fault ≠ none := by
  rw [readFrom_eq, List.dropWhile_cons_of_neg (by decide)]
  simp only [hOf, hCut, hEvent]
  nofun

end Event

/-! ## Where tags end -/

/-- The quote that a place is in. -/
def Place.quote? : Place → Option Char
  | .inValue quote => some quote
  | _ => none

/-- The cut of a tag follows the places of repair. -/
theorem cutTag_append (h : place.Passes text last) (passed rest : Text) :
    cutTag passed place.quote? (text ++ rest) =
      cutTag (text.reverse ++ passed) last.quote? rest := by
  induction h generalizing passed with
  | nil _ => rfl
  | @cons place last c text hInside hRest ih =>
    have hStep : cutTag passed place.quote? (c :: (text ++ rest)) =
        cutTag (c :: passed) (place.after c).quote? (text ++ rest) := by
      have hAfter := hRest.inside
      cases place with
      | outside => exact hInside.elim
      | inTag =>
        have hMore : c ≠ '>' := by
          rintro rfl
          exact hAfter.elim
        simp only [Place.quote?, Place.after, cutTag, if_neg hMore]
        split <;> rfl
      | inValue quote =>
        simp only [Place.quote?, Place.after, cutTag]
        split <;> rfl
    rw [List.cons_append, hStep, ih, List.reverse_cons, List.append_assoc, List.singleton_append]

theorem cutTag_closed (h : Place.inTag.Passes text .inTag) (rest : Text) :
    cutTag [] none (text ++ '>' :: rest) = some (text, rest) := by
  have hCut := cutTag_append h [] ('>' :: rest)
  simp only [Place.quote?, List.append_nil] at hCut
  rw [hCut, cutTag, if_pos rfl, List.reverse_reverse]

theorem cutTag_open (h : Place.inTag.Passes text last) : cutTag [] none text = none := by
  have hCut := cutTag_append h [] []
  simp only [Place.quote?, List.append_nil] at hCut
  rw [hCut, cutTag]

/-- No bracket of the text is one that the cut looks for. -/
theorem cutWhere_pass {ends : Text → Bool} (passed : Text)
    (h : ∀ front back, text = front ++ '>' :: back → ends (front.reverse ++ passed) = false)
    (rest : Text) :
    cutWhere ends passed (text ++ rest) = cutWhere ends (text.reverse ++ passed) rest := by
  induction text generalizing passed with
  | nil => rfl
  | cons c text ih =>
    have hNot : ¬(c = '>' ∧ ends passed = true) := by
      rintro ⟨rfl, hEnds⟩
      exact absurd hEnds (Bool.eq_false_iff.mp (h [] text rfl))
    have hRest : ∀ front back, text = front ++ '>' :: back →
        ends (front.reverse ++ c :: passed) = false := by
      intro front back hText
      have hFront := h (c :: front) back (by rw [hText]; rfl)
      rwa [List.reverse_cons, List.append_assoc] at hFront
    rw [List.cons_append, cutWhere, if_neg hNot, ih _ hRest, List.reverse_cons, List.append_assoc,
      List.singleton_append]

theorem cutWhere_append {ends : Text → Bool} (h : '>' ∉ text) (passed rest : Text) :
    cutWhere ends passed (text ++ rest) = cutWhere ends (text.reverse ++ passed) rest :=
  cutWhere_pass passed (fun _ _ hText => absurd (by rw [hText]; simp) h) rest

/-- An instruction ends at a bracket behind a question mark. -/
theorem cut?_instruction_closed (h : '>' ∉ text) (hMark : text.getLast? = some '?')
    (rest : Text) : Construct.instruction.cut? (text ++ '>' :: rest) = some (text, rest) := by
  have hEnds : Text.startsWith "?" text.reverse = true := by
    rw [Text.startsWith_iff]
    obtain ⟨front, rfl⟩ := List.getLast?_eq_some_iff.mp hMark
    rw [List.reverse_append]
    exact List.prefix_append ['?'] front.reverse
  rw [Construct.cut?, cutWhere_append h, List.append_nil, cutWhere, if_pos ⟨rfl, hEnds⟩,
    List.reverse_reverse]

theorem cut?_instruction_open (h : '>' ∉ text) : Construct.instruction.cut? text = none := by
  rw [Construct.cut?, ← List.append_nil text, cutWhere_append h]
  rfl

/-! ## What a tag says -/

theorem Construct.of?_eq_tag (h : ∀ c, content.head? = some c → c ≠ '!' ∧ c ≠ '?') :
    Construct.of? content = some .tag := by
  cases content with
  | nil => rfl
  | cons c content =>
    obtain ⟨hBang, hMark⟩ := h c rfl
    unfold Construct.of?
    split
    all_goals first
      | rfl
      | (rename_i hEq; cases hEq; exact absurd rfl hBang)
      | (rename_i hEq; cases hEq; exact absurd rfl hMark)

namespace Event

theorem ofTag_closing_ok {name : Text}
    (h : ofTag opened ('/' :: name) = .ok (event, opened')) :
    event = .closing ∧ ∃ expected, opened = expected :: opened' := by
  cases opened with
  | nil => cases h
  | cons expected outer =>
    simp only [ofTag] at h
    split at h
    · cases h
      exact ⟨rfl, expected, rfl⟩
    · cases h

variable (hHead : content.head? ≠ some '/')

include hHead

theorem ofTag_of_not_closing : ofTag opened content =
    match Text.dropSuffix? "/" content with
    | some content => .ok (.empty (Tag.of content), opened)
    | none => .ok (.opening (Tag.of content), (Tag.of content).name :: opened) := by
  unfold ofTag
  split
  · exact absurd rfl hHead
  · rfl

theorem ofTag_opening (hLast : content.getLast? ≠ some '/') : ofTag opened content =
    .ok (.opening (Tag.of content), (Tag.of content).name :: opened) := by
  rw [ofTag_of_not_closing hHead]
  split
  · rename_i hSuffix
    rw [Text.dropSuffix?_eq_some_iff] at hSuffix
    exact absurd (List.getLast?_eq_some_iff.mpr ⟨_, hSuffix⟩) hLast
  · rfl

theorem ofTag_empty (hLast : content.getLast? = some '/') :
    ofTag opened content = .ok (.empty (Tag.of content.dropLast), opened) := by
  obtain ⟨body, rfl⟩ := List.getLast?_eq_some_iff.mp hLast
  have hDrop : Text.dropSuffix? "/" (body ++ ['/']) = some body :=
    Text.dropSuffix?_eq_some_iff.mpr rfl
  rw [ofTag_of_not_closing hHead, hDrop, List.dropLast_concat]

end Event

end ScreenQuery.Markup
