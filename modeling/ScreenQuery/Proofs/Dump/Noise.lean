import ScreenQuery.Proofs.Dump.Truncation
import ScreenQuery.Proofs.Dump.Values

/-!
# Noise around a dump

Devices write more than the dump: a preamble, a trailer, and stray control characters anywhere, even
inside of tags and values (`Sprinkled`). None of it changes the screen.

* Control characters are dropped first (`Sprinkled.withoutControls_eq`), and the preamble is cut
  off.
* A trailer is cut off behind its last bracket. When it holds elements of its own, what is left of
  it is a sequence of elements and texts again (`Content.exists_cut`), and it is read as its events.
* The element of a document leaves none open (`Element.closes`), so the root is closed when the
  trailer comes, and events after that are passed over (`layOut_append`).

About `sanitize`, and what `build_arena` does after the root has been closed.
-/

namespace ScreenQuery

namespace Markup

variable {text noisy a b noisy' lead trail : Text} {c : Char}

/-! ## What is noise -/

/-- Control characters other than tab, line feed and carriage return have been put into a text. -/
inductive Sprinkled : (text noisy : Text) → Prop
  | nil : Sprinkled [] []
  | keep {text noisy : Text} (c : Char) (h : Sprinkled text noisy) :
      Sprinkled (c :: text) (c :: noisy)
  | put {text noisy : Text} {c : Char} (hc : isKept c = false) (h : Sprinkled text noisy) :
      Sprinkled text (c :: noisy)

/-- What may follow a dump: no tags at all, or elements and texts that are well formed. -/
def IsTrailer (trail : Text) : Prop :=
  '<' ∉ trail ∨
    ∃ content : Content, content.All WrittenTag.WellFormed IsWords ∧ trail = content.text

theorem Sprinkled.refl : ∀ text : Text, Sprinkled text text
  | [] => .nil
  | c :: text => .keep c (.refl text)

theorem Sprinkled.append (ha : Sprinkled a noisy) (hb : Sprinkled b noisy') :
    Sprinkled (a ++ b) (noisy ++ noisy') := by
  induction ha with
  | nil => exact hb
  | keep c _ ih => exact .keep c ih
  | put hc _ ih => exact .put hc ih

theorem withoutControls_cons : withoutControls (c :: text) =
    if isKept c then c :: withoutControls text else withoutControls text := List.filter_cons

theorem Sprinkled.withoutControls_eq (h : Sprinkled text noisy) :
    withoutControls noisy = withoutControls text := by
  induction h with
  | nil => rfl
  | keep c _ ih => rw [withoutControls_cons, withoutControls_cons, ih]
  | put hc _ ih => simp [withoutControls_cons, hc, ih]

/-! ## What is left of a trailer -/

theorem IsWords.of_prefix (h : IsWords text) (hPrefix : a <+: text) : IsWords a :=
  ⟨fun hMem => h.1 (hPrefix.subset hMem), fun c hc => h.2 c (hPrefix.subset hc)⟩

/-- Elements and texts that are cut behind their last bracket are elements and texts again. -/
theorem Content.exists_cut (content : Content) (h : content.All WrittenTag.WellFormed IsWords) :
    ∃ content' : Content, content'.All WrittenTag.WellFormed IsWords ∧
      content'.text = content.text.rdropWhile fun c => c != '>' := by
  cases content with
  | last words =>
    have hWords : IsWords words := h
    exact ⟨.last _, hWords.of_prefix (List.rdropWhile_prefix _ words), rfl⟩
  | more words first rest =>
    obtain ⟨hWords, hFirst, hRest⟩ := h
    obtain ⟨rest', hRest', hText⟩ := Content.exists_cut rest hRest
    have hLast : (words ++ first.text).getLast? = some '>' := by
      rw [List.getLast?_append, first.getLast?_text]
      rfl
    refine ⟨.more words first rest', ⟨hWords, hFirst, hRest'⟩, ?_⟩
    rw [Content.text, Content.text, hText, ← List.append_assoc, ← List.append_assoc]
    exact (rdropWhile_append hLast rfl rest.text).symm

/-- Without its control characters, every trailer consists of elements and texts. -/
theorem IsTrailer.exists_content (h : IsTrailer trail) : ∃ content : Content,
    content.All WrittenTag.WellFormed IsWords ∧ withoutControls trail = content.text := by
  rcases h with hNone | ⟨content, hContent, rfl⟩
  · exact ⟨.last (withoutControls trail),
      ⟨not_mem_withoutControls hNone, isKept_withoutControls trail⟩, rfl⟩
  · exact ⟨content, hContent, withoutControls_eq_self (content.kept hContent)⟩

/-- What repair leaves of a noisy dump: the document, and elements and texts behind it. -/
theorem exists_repair_eq {D : Document} (hD : D.WellFormed) (hLead : '<' ∉ lead)
    (hTrail : IsTrailer trail) (hNoisy : Sprinkled (lead ++ (D.text ++ trail)) noisy) :
    ∃ content : Content, content.All WrittenTag.WellFormed IsWords ∧
      repair noisy = escape (D.text ++ content.text) := by
  obtain ⟨content, hContent, hText⟩ := hTrail.exists_content
  obtain ⟨content', hContent', hCut⟩ := content.exists_cut hContent
  refine ⟨content', hContent', ?_⟩
  rw [repair, hNoisy.withoutControls_eq, withoutControls_append, withoutControls_append,
    withoutControls_eq_self hD.kept, hText,
    cutMarkup_append (not_mem_withoutControls hLead) D.head?_text D.getLast?_text, hCut]

/-! ## The root is closed at the end of a document -/

mutual

/-- Inside another element, an element leaves as many open as before. -/
theorem Element.deepen_events : ∀ (e : Element) (n : Nat),
    e.events.foldl Event.deepen (some (n + 1)) = some (n + 1)
  | .empty _, _ => rfl
  | .pair tag inside _, n => by
    have hInside := inside.deepen_events (n + 1)
    simp only [Element.events, List.foldl_cons, List.foldl_append, List.foldl_nil]
    rw [show Event.deepen (some (n + 1)) (.opening tag.toTag) = some (n + 1 + 1) from rfl, hInside]
    rfl

theorem Content.deepen_events : ∀ (content : Content) (n : Nat),
    content.events.foldl Event.deepen (some (n + 1)) = some (n + 1)
  | .last _, _ => rfl
  | .more _ first rest, n => by
    rw [Content.events, List.foldl_append, first.deepen_events, rest.deepen_events]

end

/-- An element on its own closes the root. -/
theorem Element.closes (e : Element) : e.events.foldl Event.deepen (some 0) = none := by
  cases e with
  | empty tag => rfl
  | pair tag inside trail =>
    have hInside := inside.deepen_events 0
    simp only [Element.events, List.foldl_cons, List.foldl_append, List.foldl_nil]
    rw [show Event.deepen (some 0) (.opening tag.toTag) = some (0 + 1) from rfl, hInside]
    rfl

theorem Document.closes (D : Document) : D.events.foldl Event.deepen (some 0) = none := by
  unfold Document.events
  cases D.declaration with
  | none => exact D.root.closes
  | some d => exact D.root.closes

end Markup

namespace Dump

open Markup

variable {arena : Arena} {said more : List Event} {lead trail noisy : Text}

theorem Arena.foldlM_closed (h : arena.rootClosed = true) (events : List Event) :
    events.foldlM Arena.step arena = .ok arena := by
  induction events with
  | nil => rfl
  | cons event rest ih =>
    have hStep : arena.step event = .ok arena := if_pos h
    rw [List.foldlM_cons, hStep]
    exact ih

/-- Events after the root has been closed change nothing. -/
theorem foldlM_append_closed (h : said.foldl Event.deepen (some 0) = none) :
    (said ++ more).foldlM Arena.step .empty = said.foldlM Arena.step .empty := by
  rw [List.foldlM_append]
  cases hArena : said.foldlM Arena.step .empty with
  | error fault => rfl
  | ok arena =>
    have hDepth : arena.depth = none := (Arena.depth_foldlM hArena).trans h
    refine Arena.foldlM_closed ?_ more
    unfold Arena.depth at hDepth
    by_contra hOpen
    rw [if_neg hOpen] at hDepth
    cases hDepth

theorem layOut_append (h : said.foldl Event.deepen (some 0) = none) :
    layOut ⟨said ++ more, none⟩ = layOut ⟨said, none⟩ := by
  simp only [layOut, foldlM_append_closed h]

/-- Noise makes no difference to what is read. -/
theorem read_noisy {D : Document} (hD : D.WellFormed) (hLead : '<' ∉ lead)
    (hTrail : IsTrailer trail) (hNoisy : Sprinkled (lead ++ (D.text ++ trail)) noisy) :
    read noisy = layOut ⟨D.repaired.events, none⟩ := by
  obtain ⟨content, hContent, hRepair⟩ := exists_repair_eq hD hLead hTrail hNoisy
  have hHead : (D.text ++ content.text).head? = some '<' := by
    rw [List.head?_append, D.head?_text]
    rfl
  have hReads := (Document.reads hD).append (content.reads hContent)
  rw [read_eq_layOut hRepair hHead, hReads.readAll, layOut_append D.repaired.closes]

/-- **Noise never changes the screen.** Whatever precedes the first tag of a well-formed document,
whether no tag or whole elements follow it, and wherever control characters are put in, the screen
is that of the document: the same elements, the same hash, and readable or not for the same
reason. -/
theorem parse_noisy (id id' : Nat) {D : Document} (hD : D.WellFormed) (hLead : '<' ∉ lead)
    (hTrail : IsTrailer trail) (hNoisy : Sprinkled (lead ++ (D.text ++ trail)) noisy) :
    (parse id noisy).nodes = (parse id' D.text).nodes ∧
      (parse id noisy).contentHash = (parse id' D.text).contentHash ∧
      (parse id noisy).isDegraded = (parse id' D.text).isDegraded ∧
      (parse id noisy).diagnostic = (parse id' D.text).diagnostic := by
  have hRead : read noisy = read D.text := by
    rw [read_noisy hD hLead hTrail hNoisy, read_document hD]
  have hParse : parse id noisy = { parse id' D.text with id := id } := by
    rw [← parse_eq, parse, parse, hRead]
  rw [hParse]
  generalize parse id' D.text = s
  exact ⟨rfl, rfl, rfl, rfl⟩

/-- Words, another element, and words with an open quote. -/
def sequel : Content := .more " done > " (.empty (textTag ">")) (.last " & \"")

/-- A text with a character in it that is dropped. -/
def torn : Text := "R&" ++ Char.ofNat 0 :: "D <b>".toList

/-- That text in a dump between words and another element is read as if it stood there alone. -/
theorem parse_noisy_torn :
    (textScreen "R&D <b>").WellFormed ∧ '<' ∉ ("> \"dumped\" " : Text) ∧
      IsTrailer sequel.text ∧
      Sprinkled ("> \"dumped\" " ++ ((textScreen "R&D <b>").text ++ sequel.text))
        ("> \"dumped\" " ++ (textDump torn ++ sequel.text)) ∧
      (parse 2 ("> \"dumped\" " ++ (textDump torn ++ sequel.text))).nodes =
        (parse 1 (textScreen "R&D <b>").text).nodes ∧
      (parse 2 ("> \"dumped\" " ++ (textDump torn ++ sequel.text))).contentHash =
        (parse 1 (textScreen "R&D <b>").text).contentHash ∧
      (parse 2 ("> \"dumped\" " ++ (textDump torn ++ sequel.text))).isDegraded = false := by
  have hQuote : '"' ∉ ("R&D <b>" : Text) := by decide
  have hKept : IsKept "R&D <b>" := by decide
  have hScreen : (textScreen "R&D <b>").WellFormed := wellFormed_textScreen hQuote hKept
  have hLead : '<' ∉ ("> \"dumped\" " : Text) := by decide
  have hSequel : sequel.All WrittenTag.WellFormed IsWords :=
    ⟨show IsWords " done > " by decide, wellFormed_textTag (by decide) (by decide),
      show IsWords " & \"" by decide⟩
  have hTrail : IsTrailer sequel.text := .inr ⟨sequel, hSequel, rfl⟩
  have hTorn : Sprinkled "R&D <b>" torn := by
    have hNul : isKept (Char.ofNat 0) = false := by decide
    have hText : "R&D <b>".toList = "R&".toList ++ "D <b>".toList := by decide
    rw [hText]
    exact .append (.refl _) (.put hNul (.refl _))
  have hNoisy : Sprinkled ("> \"dumped\" " ++ ((textScreen "R&D <b>").text ++ sequel.text))
      ("> \"dumped\" " ++ (textDump torn ++ sequel.text)) := by
    rw [text_textScreen]
    exact .append (.refl _) (.append (.append (.refl _) (.append hTorn (.refl _))) (.refl _))
  obtain ⟨hNodes, hHash, hDegraded, -⟩ := parse_noisy 2 1 hScreen hLead hTrail hNoisy
  obtain ⟨-, hReadable, -⟩ := exists_parse_textScreen hQuote hKept 1
  rw [← text_textScreen] at hReadable
  exact ⟨hScreen, hLead, hTrail, hNoisy, hNodes, hHash, hDegraded.trans hReadable⟩

end Dump

end ScreenQuery
