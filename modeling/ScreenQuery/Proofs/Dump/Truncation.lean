import ScreenQuery.Proofs.Arena
import ScreenQuery.Proofs.Markup.Reading

/-!
# A dump that breaks off

* `Event.deepen` counts the open elements. An arena counts alike (`Arena.depth_foldlM`), and lays
  its elements out only when the root has been closed (`Reading.Unfinished`,
  `not_unfinished_of_layOut`).
* `Hangs n text`: wherever `text` breaks off, reading it with `n` elements open leaves the dump
  unfinished. There is one lemma for each thing that is written; content and elements keep what
  follows them hanging as long as an element is open around them (`hangs_element`).
* A document without its last character hangs, so no part of it from the start, but for the whole,
  is taken for a screen (`degraded_of_cut`).

About `parse_hierarchy`, with `sanitize` and `build_arena` below it.
-/

namespace ScreenQuery

namespace Markup

/-! ## Counting open elements -/

/-- The number of open elements after one more event, or nothing when the root has been closed. With
none open the root is yet to come. -/
def Event.deepen : Option Nat → Event → Option Nat
  | none, _ => none
  | some n, .opening _ => some (n + 1)
  | some 0, .empty _ => none
  | some n, .empty _ => some n
  | some (n + 2), .closing => some (n + 1)
  | some _, .closing => none
  | some n, .aside => some n

/-- A fault was found, or the root has not been closed. -/
def Reading.Unfinished (reading : Reading) : Prop :=
  reading.fault ≠ none ∨ reading.events.foldl Event.deepen (some 0) ≠ none

end Markup

namespace Dump

open Markup

variable {arena next : Arena} {reading : Reading} {nodes : Array Node} {n : Nat}

/-- The number of open elements, or nothing when the root has been closed. -/
def Arena.depth (arena : Arena) : Option Nat :=
  if arena.rootClosed then none else some arena.opened.length

theorem Arena.depth_step {event : Event} (h : arena.step event = .ok next) :
    next.depth = event.deepen arena.depth := by
  have hDepth : arena.rootClosed = false → arena.depth = some arena.opened.length := by
    intro hOpen
    rw [Arena.depth, hOpen]
    rfl
  cases Arena.stepped_of_step h with
  | passed hClosed => rw [Arena.depth, if_pos hClosed, Event.deepen]
  | opening hOpen hPush => rw [hDepth hOpen]; rfl
  | empty hOpen hPush =>
    rw [hDepth hOpen]
    cases hOpened : arena.opened <;> rfl
  | closing hOpen =>
    rw [hDepth hOpen]
    rcases hOpened : arena.opened with _ | ⟨first, _ | ⟨second, outer⟩⟩ <;> rfl
  | aside hOpen => rw [hDepth hOpen]; rfl

theorem Arena.depth_foldlM {events : List Event}
    (h : events.foldlM Arena.step arena = .ok next) :
    next.depth = events.foldl Event.deepen arena.depth := by
  induction events generalizing arena with
  | nil => cases h; rfl
  | cons event rest ih =>
    rw [List.foldlM_cons] at h
    cases hStep : arena.step event with
    | error fault => simp only [hStep] at h; cases h
    | ok after =>
      rw [List.foldl_cons, ← Arena.depth_step hStep]
      simp only [hStep] at h
      exact ih h

/-- Elements are laid out only when the root has been closed. -/
theorem not_unfinished_of_layOut (h : layOut reading = .ok nodes) : ¬ reading.Unfinished := by
  have hSafe := Arena.Sound.empty.foldlM reading.events
  obtain ⟨arena, hArena, hFault, hOpened, rfl, hNodes⟩ := layOut_eq_ok h
  rw [hArena] at hSafe
  have hSound : arena.Sound := hSafe
  have hDepth : arena.depth = reading.events.foldl Event.deepen (some 0) :=
    Arena.depth_foldlM hArena
  rintro (hSome | hSome)
  · exact hSome hFault
  · rcases hSound.root_closed hOpened with hNone | hClosed
    · rw [hNone] at hNodes
      cases hNodes
    · rw [← hDepth, Arena.depth, if_pos hClosed] at hSome
      exact hSome rfl

/-! ## Texts that leave a dump unfinished -/

/-- Reading the text on with `n` open elements leaves the dump unfinished. -/
def Stuck (n : Nat) (text : Text) : Prop :=
  ∀ (events : List Event) (opened : List Text) (position : Nat), opened.length = n →
    events.reverse.foldl Event.deepen (some 0) = some n →
      (Event.readFrom events opened position (Place.outside.write text)).Unfinished

/-- Wherever the text breaks off, reading it with `n` open elements leaves the dump unfinished. -/
def Hangs (n : Nat) (text : Text) : Prop := ∀ front, front <+: text → Stuck n front

variable {body words rest : Text} {last : Place}

theorem stuck_nil (n : Nat) : Stuck n [] := by
  intro events opened position hOpened hDepth
  rw [Place.write, Event.readFrom_nil]
  refine Or.inr ?_
  rw [hDepth]
  exact Option.some_ne_none n

/-- Where an appended text breaks off. -/
theorem prefix_append_cases {front a b : Text} (h : front <+: a ++ b) :
    front <+: a ∨ ∃ front', front = a ++ front' ∧ front' <+: b := by
  obtain ⟨t, ht⟩ := h
  rcases List.append_eq_append_iff.mp ht with ⟨as, rfl, -⟩ | ⟨bs, rfl, rfl⟩
  · exact Or.inl (List.prefix_append front as)
  · exact Or.inr ⟨bs, rfl, List.prefix_append bs t⟩

theorem stuck_words (hWords : '<' ∉ words) (h : Stuck n rest) : Stuck n (words ++ rest) := by
  intro events opened position hOpened hDepth
  obtain ⟨out, hOut, hWrite⟩ := write_words hWords rest
  rw [hWrite, Event.readFrom_skip hOut]
  exact h events opened _ hOpened hDepth

theorem hangs_words (hWords : '<' ∉ words) (h : Hangs n rest) : Hangs n (words ++ rest) := by
  intro front hFront
  rcases prefix_append_cases hFront with hInside | ⟨front, rfl, hBehind⟩
  · rw [← List.append_nil front]
    exact stuck_words (fun hMem => hWords (hInside.subset hMem)) (stuck_nil n)
  · exact stuck_words hWords (h front hBehind)

/-! ### Tags -/

/-- A character that begins neither a declaration, a comment or the like nor an escape. -/
def IsStart (c : Char) : Prop := c ≠ '!' ∧ c ≠ '?' ∧ c ≠ '&'

variable {c : Char}

theorem isStart_of_isNameChar (h : isNameChar c = true) : IsStart c :=
  ⟨ne_of_isNameChar h (by decide), ne_of_isNameChar h (by decide), ne_of_isNameChar h (by decide)⟩

/-- A tag or a declaration that does not end is a fault. -/
theorem stuck_open (hPasses : Place.inTag.Passes body last)
    (hHead : ∀ c, body.head? = some c → c = '?' ∨ IsStart c) : Stuck n ('<' :: body) := by
  intro events opened position hOpened hDepth
  obtain ⟨out, hRepaired, hWrite⟩ := write_open hPasses
  rw [hWrite]
  refine Or.inl ?_
  have hTag : Construct.tag.cut? out = none := cutTag_open (hRepaired.passes hPasses).1
  have hInstruction : Construct.instruction.cut? out = none :=
    cut?_instruction_open (hRepaired.more_not_mem hPasses)
  cases body with
  | nil =>
    cases hRepaired
    exact Event.readFrom_unclosed rfl hTag
  | cons c body =>
    rcases hHead c rfl with rfl | ⟨hBang, hMark, hAmp⟩
    · obtain ⟨tail, rfl⟩ := List.head?_eq_some_iff.mp (hRepaired.head?_eq rfl (by decide))
      exact Event.readFrom_unclosed rfl hInstruction
    · have hOut := hRepaired.head?_eq rfl hAmp
      have hOf : Construct.of? out = some .tag := by
        refine Construct.of?_eq_tag fun d hd => ?_
        obtain rfl : c = d := Option.some.inj (hOut.symm.trans hd)
        exact ⟨hBang, hMark⟩
      exact Event.readFrom_unclosed hOf hTag

/-- A tag that ends, when what it says leaves the dump unfinished whatever its values. -/
theorem stuck_closed (hPasses : Place.inTag.Passes body .inTag) (hHead : body.head? = some c)
    (hc : IsStart c)
    (hNext : ∀ {out : Text} {opened opened' : List Text} {event : Event},
      Repaired .inTag body out .inTag → out.head? = some c → opened.length = n →
        Event.ofTag opened out = .ok (event, opened') →
          event.deepen (some n) = some opened'.length ∧ Stuck opened'.length rest) :
    Stuck n ('<' :: (body ++ '>' :: rest)) := by
  intro events opened position hOpened hDepth
  obtain ⟨out, hRepaired, hWrite⟩ := write_closed hPasses rest
  rw [hWrite]
  have hOut : out.head? = some c := hRepaired.head?_eq hHead hc.2.2
  have hCut : Construct.tag.cut? (out ++ '>' :: Place.outside.write rest) =
      some (out, Place.outside.write rest) := cutTag_closed (hRepaired.passes hPasses).1 _
  have hOf : Construct.of? (out ++ '>' :: Place.outside.write rest) = some .tag := by
    refine Construct.of?_eq_tag fun d hd => ?_
    rw [List.head?_append, hOut] at hd
    obtain rfl : c = d := Option.some.inj hd
    exact ⟨hc.1, hc.2.1⟩
  cases hEvent : Event.ofTag opened out with
  | error fault => exact Or.inl (Event.readFrom_misfit hOf hCut hEvent)
  | ok result =>
    obtain ⟨event, opened'⟩ := result
    obtain ⟨hDeepen, hStuck⟩ := hNext hRepaired hOut hOpened hEvent
    obtain ⟨position', hRead⟩ := Event.readFrom_next events position hOf hCut hEvent
    rw [hRead]
    refine hStuck _ _ _ rfl ?_
    rw [List.reverse_cons, List.foldl_append, hDepth]
    exact hDeepen

theorem hangs_open (hPasses : Place.inTag.Passes body last)
    (hHead : ∀ c, body.head? = some c → c = '?' ∨ IsStart c) : Hangs n ('<' :: body) := by
  intro front hFront
  rcases List.prefix_cons_iff.mp hFront with rfl | ⟨part, rfl, hPart⟩
  · exact stuck_nil n
  · obtain ⟨middle, hPartPasses⟩ := hPasses.of_prefix hPart
    refine stuck_open hPartPasses fun c hc => hHead c ?_
    obtain ⟨tail, rfl⟩ := List.head?_eq_some_iff.mp hc
    obtain ⟨_, rfl⟩ := hPart
    rfl

/-- Where a part hangs and what follows it is stuck, all of it hangs. -/
theorem hangs_append {part : Text} (hPart : Hangs n part)
    (h : ∀ front, front <+: rest → Stuck n (part ++ '>' :: front)) :
    Hangs n (part ++ '>' :: rest) := by
  intro front hFront
  rcases prefix_append_cases hFront with hInside | ⟨behind, rfl, hBehind⟩
  · exact hPart front hInside
  rcases List.prefix_cons_iff.mp hBehind with rfl | ⟨front, rfl, hRest⟩
  · rw [List.append_nil]
    exact hPart part List.prefix_rfl
  · exact h front hRest

theorem hangs_closed (hPasses : Place.inTag.Passes body .inTag) (hHead : body.head? = some c)
    (hc : IsStart c)
    (hNext : ∀ {out : Text} {opened opened' : List Text} {event : Event},
      Repaired .inTag body out .inTag → out.head? = some c → opened.length = n →
        Event.ofTag opened out = .ok (event, opened') →
          event.deepen (some n) = some opened'.length ∧ Hangs opened'.length rest) :
    Hangs n ('<' :: (body ++ '>' :: rest)) := by
  have hOpen : Hangs n ('<' :: body) := by
    refine hangs_open hPasses fun d hd => ?_
    obtain rfl : c = d := Option.some.inj (hHead.symm.trans hd)
    exact Or.inr hc
  refine hangs_append hOpen fun front hFront => ?_
  refine stuck_closed hPasses hHead hc fun hRepaired hOut hOpened hEvent => ?_
  obtain ⟨hDeepen, hHangs⟩ := hNext hRepaired hOut hOpened hEvent
  exact ⟨hDeepen, hHangs front hFront⟩

section

variable {tag : WrittenTag} (hTag : tag.WellFormed)

include hTag

/-- A tag that opens an element hangs when what follows hangs in the element. -/
theorem hangs_opening (h : Hangs (n + 1) rest) : Hangs n ('<' :: (tag.text ++ '>' :: rest)) := by
  obtain ⟨c, hHead, hc⟩ := hTag.exists_head []
  rw [List.append_nil] at hHead
  refine hangs_closed hTag.passes hHead (isStart_of_isNameChar hc) ?_
  intro out opened opened' event hRepaired hOut hOpened hEvent
  have hFirst : out.head? ≠ some '/' := head?_ne_slash hOut hc
  have hLast : out.getLast? ≠ some '/' := by
    rw [Ne, hRepaired.getLast?_eq_iff (by decide) (by decide)]
    exact hTag.getLast?_ne_slash
  rw [Event.ofTag_opening hFirst hLast] at hEvent
  cases hEvent
  rw [List.length_cons, hOpened]
  exact ⟨rfl, h⟩

/-- An empty element hangs when an element is open around it. -/
theorem hangs_empty (h : Hangs (n + 1) rest) :
    Hangs (n + 1) ('<' :: (tag.text ++ ['/'] ++ '>' :: rest)) := by
  obtain ⟨c, hHead, hc⟩ := hTag.exists_head ['/']
  refine hangs_closed hTag.empty_passes hHead (isStart_of_isNameChar hc) ?_
  intro out opened opened' event hRepaired hOut hOpened hEvent
  have hFirst : out.head? ≠ some '/' := head?_ne_slash hOut hc
  have hLast : out.getLast? = some '/' := by
    rw [hRepaired.getLast?_eq_iff (by decide) (by decide)]
    exact List.getLast?_concat
  rw [Event.ofTag_empty hFirst hLast] at hEvent
  cases hEvent
  rw [hOpened]
  exact ⟨rfl, h⟩

/-- A closing tag hangs when another element is open around the one that it closes. -/
theorem hangs_closing {trail : Text} (hTrail : IsBlanks trail) (h : Hangs (n + 1) rest) :
    Hangs (n + 2) ('<' :: ('/' :: tag.name ++ trail ++ '>' :: rest)) := by
  refine hangs_closed (hTag.closing_passes hTrail) rfl ⟨by decide, by decide, by decide⟩ ?_
  intro out opened opened' event hRepaired hOut hOpened hEvent
  obtain ⟨name, rfl⟩ := List.head?_eq_some_iff.mp hOut
  obtain ⟨rfl, expected, rfl⟩ := Event.ofTag_closing_ok hEvent
  have hLength : opened'.length = n + 1 := by simpa using hOpened
  rw [hLength]
  exact ⟨rfl, h⟩

end

/-- A declaration changes nothing. -/
theorem hangs_declaration {d : Declaration} (hDeclaration : d.WellFormed) (h : Hangs n rest) :
    Hangs n (d.text ++ rest) := by
  have hPasses := hDeclaration.passes
  have hGap : Hangs n (d.gap ++ rest) :=
    hangs_words (hDeclaration.gap.not_mem rfl) h
  have hText : d.text ++ rest =
      ('<' :: ('?' :: d.tag.text ++ ['?'])) ++ '>' :: (d.gap ++ rest) := by
    simp only [Declaration.text, List.cons_append, List.append_assoc]
  rw [hText]
  refine hangs_append (hangs_open hPasses fun c hc => Or.inl (Option.some.inj hc).symm) ?_
  intro front hFront events opened position hOpened hDepth
  obtain ⟨out, hRepaired, hWrite⟩ := write_closed hPasses front
  rw [List.cons_append, hWrite]
  have hCut := cut?_instruction_closed (hRepaired.more_not_mem hPasses)
    ((hRepaired.getLast?_eq_iff (by decide) (by decide)).mpr List.getLast?_concat)
    (Place.outside.write front)
  have hOf : Construct.of? (out ++ '>' :: Place.outside.write front) = some .instruction := by
    obtain ⟨tail, rfl⟩ := List.head?_eq_some_iff.mp (hRepaired.head?_eq rfl (by decide))
    rfl
  by_cases hLength : 1 < out.length
  · have hEvent : Event.ofConstruct .instruction opened out = .ok (.aside, opened) := if_pos hLength
    obtain ⟨position', hRead⟩ := Event.readFrom_next events position hOf hCut hEvent
    rw [hRead]
    refine hGap front hFront _ _ _ hOpened ?_
    rw [List.reverse_cons, List.foldl_append, hDepth]
    rfl
  · exact Or.inl (Event.readFrom_misfit hOf hCut (if_neg hLength))

/-! ## Documents -/

mutual

/-- In an open element, another element hangs when what follows it does. -/
theorem hangs_element : ∀ (e : Element), e.All WrittenTag.WellFormed IsWords →
    ∀ {n : Nat} {rest : Text}, Hangs (n + 1) rest → Hangs (n + 1) (e.text ++ rest)
  | .empty tag, hTag, n, rest, h => by
    have hText : (Element.empty tag).text ++ rest = '<' :: (tag.text ++ ['/'] ++ '>' :: rest) := by
      simp only [Element.text, List.cons_append, List.append_assoc, List.nil_append]
    rw [hText]
    exact hangs_empty hTag h
  | .pair tag inside trail, ⟨hTag, hInside, hTrail⟩, n, rest, h => by
    have hText : (Element.pair tag inside trail).text ++ rest = '<' :: (tag.text ++ '>' ::
        (inside.text ++ '<' :: ('/' :: tag.name ++ trail ++ '>' :: rest))) := by
      simp only [Element.text, List.cons_append, List.append_assoc, List.nil_append]
    rw [hText]
    exact hangs_opening hTag (hangs_content inside hInside (hangs_closing hTag hTrail h))

/-- In an open element, content hangs when what follows it does. -/
theorem hangs_content : ∀ (content : Content), content.All WrittenTag.WellFormed IsWords →
    ∀ {n : Nat} {rest : Text}, Hangs (n + 1) rest → Hangs (n + 1) (content.text ++ rest)
  | .last words, hWords, n, rest, h => hangs_words hWords.1 h
  | .more words first others, ⟨hWords, hFirst, hOthers⟩, n, rest, h => by
    have hText : (Content.more words first others).text ++ rest =
        words ++ (first.text ++ (others.text ++ rest)) := by
      simp only [Content.text, List.append_assoc]
    rw [hText]
    exact hangs_words hWords.1
      (hangs_element first hFirst (hangs_content others hOthers h))

end

/-- A root that lacks its last character hangs. -/
theorem exists_hangs_element (e : Element) (h : e.All WrittenTag.WellFormed IsWords) :
    ∃ front, e.text = front ++ ['>'] ∧ Hangs 0 front := by
  cases e with
  | empty tag =>
    have hTag : tag.WellFormed := h
    obtain ⟨c, hHead, hc⟩ := hTag.exists_head ['/']
    refine ⟨'<' :: (tag.text ++ ['/']), rfl,
      hangs_open hTag.empty_passes fun d hd => Or.inr ?_⟩
    obtain rfl : c = d := Option.some.inj (hHead.symm.trans hd)
    exact isStart_of_isNameChar hc
  | pair tag inside trail =>
    obtain ⟨hTag, hInside, hTrail⟩ := h
    have hClosing : Hangs 1 ('<' :: ('/' :: tag.name ++ trail)) := by
      refine hangs_open (hTag.closing_passes hTrail) fun c hc => Or.inr ?_
      obtain rfl : '/' = c := Option.some.inj hc
      exact ⟨by decide, by decide, by decide⟩
    refine ⟨'<' :: (tag.text ++ '>' :: (inside.text ++ '<' :: ('/' :: tag.name ++ trail))), ?_,
      hangs_opening hTag (hangs_content inside hInside hClosing)⟩
    simp only [Element.text, List.cons_append, List.append_assoc]

/-- A document that lacks its last character hangs. -/
theorem exists_hangs_document {D : Document} (h : D.WellFormed) :
    ∃ front, D.text = front ++ ['>'] ∧ Hangs 0 front := by
  obtain ⟨front, hText, hHangs⟩ := exists_hangs_element D.root h.root
  cases hDeclaration : D.declaration with
  | none => exact ⟨front, by rw [Document.text, hDeclaration]; exact hText, hHangs⟩
  | some d =>
    refine ⟨d.text ++ front, ?_, hangs_declaration (h.declaration d hDeclaration) hHangs⟩
    rw [Document.text, hDeclaration, hText, List.append_assoc]
    rfl

/-- **A dump that breaks off is never taken for a screen.** Wherever a well-formed document is cut,
what is left of it yields a diagnosis and one element that tells it. -/
theorem degraded_of_cut (id : Nat) {D : Document} (hD : D.WellFormed) {cut : Text}
    (hCut : cut <+: D.text) (hProper : cut ≠ D.text) :
    ∃ reason, parse id cut = .degraded id reason ∧ (parse id cut).TellsFault reason := by
  obtain ⟨front, hText, hHangs⟩ := exists_hangs_document hD
  have hFront : cut <+: front := by
    rw [hText] at hCut hProper
    exact (List.prefix_concat_iff.mp hCut).resolve_left hProper
  have hControls : Markup.withoutControls cut = cut :=
    withoutControls_eq_self fun c hc => hD.kept c (hCut.subset hc)
  have hMarkup : cutMarkup cut <+: front := by
    refine (prefix_cutMarkup fun c hc => ?_).trans hFront
    obtain ⟨tail, rfl⟩ := List.head?_eq_some_iff.mp hc
    obtain ⟨rest, hRest⟩ := hCut
    have hHead := D.head?_text
    rw [← hRest] at hHead
    exact Option.some.inj hHead
  have hUnfinished : (Event.readAll (repair cut)).Unfinished := by
    rw [repair, hControls, escape_eq]
    exact hHangs _ hMarkup [] [] 0 rfl rfl
  have hRead : ∃ fault, read cut = .error fault := by
    cases hRead : read cut with
    | error fault => exact ⟨fault, rfl⟩
    | ok nodes =>
      simp only [read] at hRead
      split at hRead
      · cases hRead
      · exact absurd hUnfinished (not_unfinished_of_layOut hRead)
  obtain ⟨fault, hFault⟩ := hRead
  exact parse_of_fault id hFault

/-- A declaration, a root and in it an element with a value that looks like markup. -/
def arrowDocument : Document where
  declaration := some ⟨[⟨" ", "version", [], [], '"', "1.0"⟩], [], "\n"⟩
  root := .pair ⟨"hierarchy", [], []⟩ (.more [] (.empty ⟨"node",
    [⟨" ", "text", [], " ", '\'', "<a/> -> \"b\""⟩], " "⟩) (.last "\n")) []

/-- The document up to a bracket in that value. -/
def brokenArrow : Text := "<?xml version=\"1.0\"?>\n<hierarchy><node text= '<a/> ->"

theorem degraded_brokenArrow :
    arrowDocument.WellFormed ∧ brokenArrow <+: arrowDocument.text ∧
      brokenArrow ≠ arrowDocument.text ∧ ∃ reason, parse 7 brokenArrow = .degraded 7 reason ∧
        (parse 7 brokenArrow).TellsFault reason := by
  have hWellFormed : arrowDocument.WellFormed := by decide +kernel
  have hCut : brokenArrow <+: arrowDocument.text := by decide +kernel
  have hProper : brokenArrow ≠ arrowDocument.text := by decide +kernel
  exact ⟨hWellFormed, hCut, hProper, degraded_of_cut 7 hWellFormed hCut hProper⟩

end Dump

end ScreenQuery
