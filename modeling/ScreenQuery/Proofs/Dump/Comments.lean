import ScreenQuery.Proofs.Dump.Truncation
import ScreenQuery.Proofs.Dump.Values
import ScreenQuery.Proofs.Markup.Comment

/-!
# Comments in a dump

* A gap of a document (`Document.Gap`) is a place between two of its tags, or before or behind all
  of them: in a text between tags, in the blanks behind the declaration, or around the root. The
  document is what stands in front of the gap and behind it, and either part is read by itself
  (`Document.readsBoth`).
* A settled comment in a gap is one more event, and one that lays nothing out
  (`layOut_append_aside`). So the screen is that of the document.
* A comment that is not settled goes on up to another `-->`. When there is none behind the gap, the
  dump ends in the comment, and cannot be read.

About `sanitize` and `build_arena`.
-/

namespace ScreenQuery

namespace Markup

/-! ## Gaps -/

mutual

/-- Between two tags that stand in an element. -/
inductive Element.Gap : Element → (front back : Text) → Prop
  | inside {inside : Content} {front back : Text} (tag : WrittenTag) (trail : Text)
      (h : inside.Gap front back) :
      (Element.pair tag inside trail).Gap ('<' :: (tag.text ++ ['>']) ++ front)
        (back ++ '<' :: ('/' :: tag.name ++ trail ++ ['>']))

/-- In a text of some content, or in one of its elements. -/
inductive Content.Gap : Content → (front back : Text) → Prop
  | last (front back : Text) : (Content.last (front ++ back)).Gap front back
  | words (front back : Text) (first : Element) (rest : Content) :
      (Content.more (front ++ back) first rest).Gap front (back ++ (first.text ++ rest.text))
  | first {first : Element} {front back : Text} (words : Text) (rest : Content)
      (h : first.Gap front back) :
      (Content.more words first rest).Gap (words ++ front) (back ++ rest.text)
  | rest {rest : Content} {front back : Text} (words : Text) (first : Element)
      (h : rest.Gap front back) :
      (Content.more words first rest).Gap (words ++ (first.text ++ front)) back

end

/-- Between two tags of a document, or around them all. -/
inductive Document.Gap : Document → (front back : Text) → Prop
  | start (D : Document) : D.Gap [] D.text
  | declared (attributes : List WrittenAttribute) (trail gap gap' : Text) (root : Element) :
      Document.Gap ⟨some ⟨attributes, trail, gap ++ gap'⟩, root⟩
        (Declaration.text ⟨attributes, trail, gap⟩) (gap' ++ root.text)
  | root {root : Element} {front back : Text} (declaration : Option Declaration)
      (h : root.Gap front back) :
      Document.Gap ⟨declaration, root⟩ (declaration.elim [] Declaration.text ++ front) back
  | stop (D : Document) : D.Gap D.text []

mutual

theorem Element.text_of_gap : ∀ (e : Element) {front back : Text}, e.Gap front back →
    front ++ back = e.text
  | .empty _, _, _, hGap => by cases hGap
  | .pair tag inside trail, _, _, hGap => by
    cases hGap with
    | @inside _ front back _ _ hGap =>
      rw [Element.text, ← Content.text_of_gap inside hGap]
      simp only [List.cons_append, List.append_assoc, List.nil_append]

theorem Content.text_of_gap : ∀ (content : Content) {front back : Text}, content.Gap front back →
    front ++ back = content.text
  | .last _, _, _, hGap => by
    cases hGap with
    | last => rfl
  | .more words first rest, _, _, hGap => by
    cases hGap with
    | words front back => rw [Content.text, List.append_assoc]
    | first _ _ hGap => rw [Content.text, ← Element.text_of_gap first hGap]; simp
    | rest _ _ hGap => rw [Content.text, ← Content.text_of_gap rest hGap]; simp

end

/-- What stands in front of a gap and behind it is the document. -/
theorem Document.Gap.text_eq {D : Document} {front back : Text} (hGap : D.Gap front back) :
    front ++ back = D.text := by
  cases hGap with
  | start => rfl
  | declared attributes trail gap gap' root =>
    simp only [Document.text, Option.elim, Declaration.text, List.cons_append, List.append_assoc]
    rfl
  | @root root front back declaration hGap =>
    rw [Document.text, ← Element.text_of_gap root hGap, List.append_assoc]
  | stop => exact List.append_nil _

variable {opened opened' opened'' : List Text} {a b front back : Text}
  {said said' : List Event}

/-! ## Reading in two parts -/

/-- Two parts of a text are read one after the other. -/
def ReadsBoth (opened : List Text) (front back : Text) (said : List Event) (opened' : List Text) :
    Prop :=
  ∃ before after inner, Reads opened front before inner ∧ Reads inner back after opened' ∧
    before ++ after = said

theorem Reads.both (ha : Reads opened a said opened') (hb : Reads opened' b said' opened'') :
    ReadsBoth opened a b (said ++ said') opened'' :=
  ⟨said, said', opened', ha, hb, rfl⟩

/-- There is nothing to read. -/
theorem Reads.nil (opened : List Text) : Reads opened [] [] opened :=
  fun _ _ position => ⟨position, rfl⟩

theorem ReadsBoth.before (h : ReadsBoth opened' front back said' opened'')
    (ha : Reads opened a said opened') :
    ReadsBoth opened (a ++ front) back (said ++ said') opened'' := by
  obtain ⟨first, second, inner, hFront, hBack, rfl⟩ := h
  exact ⟨said ++ first, second, inner, ha.append hFront, hBack, List.append_assoc ..⟩

theorem ReadsBoth.after (h : ReadsBoth opened front back said opened')
    (hb : Reads opened' b said' opened'') :
    ReadsBoth opened front (back ++ b) (said ++ said') opened'' := by
  obtain ⟨first, second, inner, hFront, hBack, rfl⟩ := h
  exact ⟨first, second ++ said', inner, hFront, hBack.append hb, (List.append_assoc ..).symm⟩

theorem ReadsBoth.behind_words {words : Text} (h : ReadsBoth opened front back said opened')
    (hWords : '<' ∉ words) : ReadsBoth opened (words ++ front) back said opened' := by
  have hBoth := h.before (reads_words hWords)
  exact hBoth

theorem readsBoth_words (h : '<' ∉ front ++ back) :
    ReadsBoth opened front back [] opened := by
  rw [List.mem_append, not_or] at h
  exact (reads_words h.1).both (reads_words h.2)

mutual

theorem Element.readsBoth : ∀ (e : Element), e.All WrittenTag.WellFormed IsWords →
    ∀ {front back : Text}, e.Gap front back → ∀ {opened : List Text},
      ReadsBoth opened front back (e.map WrittenTag.repaired).events opened
  | .empty _, _, _, _, hGap, _ => by cases hGap
  | .pair tag inside trail, ⟨hTag, hInside, hTrail⟩, _, _, hGap, _ => by
    cases hGap with
    | inside _ _ hGap =>
      exact ((Content.readsBoth inside hInside hGap).after (reads_closing hTag hTrail)).before
        (reads_opening hTag)

theorem Content.readsBoth : ∀ (content : Content), content.All WrittenTag.WellFormed IsWords →
    ∀ {front back : Text}, content.Gap front back → ∀ {opened : List Text},
      ReadsBoth opened front back (content.map WrittenTag.repaired).events opened
  | .last _, hWords, _, _, hGap, _ => by
    cases hGap with
    | last => exact readsBoth_words hWords.1
  | .more words first rest, ⟨hWords, hFirst, hRest⟩, _, _, hGap, _ => by
    cases hGap with
    | words front back =>
      exact (readsBoth_words hWords.1).after
        ((Element.reads first hFirst).append (Content.reads rest hRest))
    | first _ _ hGap =>
      exact ((Element.readsBoth first hFirst hGap).after (Content.reads rest hRest)).behind_words
        hWords.1
    | rest _ _ hGap =>
      exact ((Content.readsBoth rest hRest hGap).before (Element.reads first hFirst)).behind_words
        hWords.1

end

/-- A well-formed document is read in two parts at any of its gaps. -/
theorem Document.readsBoth {D : Document} (hD : D.WellFormed) (hGap : D.Gap front back) :
    ReadsBoth [] front back D.repaired.events [] := by
  cases hGap with
  | start => exact (Reads.nil []).both (Document.reads hD)
  | declared attributes trail gap gap' root =>
    have hDeclaration := hD.declaration _ rfl
    have hGaps : IsBlanks gap ∧ IsBlanks gap' := List.forall_mem_append.mp hDeclaration.gap
    have hFront : Declaration.WellFormed ⟨attributes, trail, gap⟩ := ⟨hDeclaration.tag, hGaps.1⟩
    exact (reads_declaration hFront).both
      ((reads_words (hGaps.2.not_mem rfl)).append (Element.reads root hD.root))
  | @root root front back declaration hGap =>
    have hRoot : ReadsBoth [] front back (root.map WrittenTag.repaired).events [] :=
      Element.readsBoth root hD.root hGap
    cases declaration with
    | none => exact hRoot
    | some d => exact hRoot.before (reads_declaration (hD.declaration d rfl))
  | stop =>
    have hBoth := (Document.reads hD).both (Reads.nil [])
    rwa [List.append_nil] at hBoth

end Markup

namespace Dump

open Markup

variable {D : Document} {front body back : Text}

/-- A comment lays nothing out. -/
theorem foldlM_append_aside (said said' : List Event) (arena : Arena) :
    (said ++ .aside :: said').foldlM Arena.step arena =
      (said ++ said').foldlM Arena.step arena := by
  have hAside : ∀ arena : Arena, arena.step .aside = .ok arena := fun arena => ite_self _
  rw [List.foldlM_append, List.foldlM_append]
  refine congrArg _ (funext fun arena => ?_)
  rw [List.foldlM_cons, hAside]
  rfl

theorem layOut_append_aside (said said' : List Event) :
    layOut ⟨said ++ .aside :: said', none⟩ = layOut ⟨said ++ said', none⟩ := by
  simp only [layOut, foldlM_append_aside]

/-- A document with a comment in a gap begins and ends with a tag or the comment. -/
theorem ends_commented (hGap : D.Gap front back) (body : Text) :
    (front ++ (comment body ++ back)).head? = some '<' ∧
      (front ++ (comment body ++ back)).getLast? = some '>' := by
  have hHead := D.head?_text
  have hLast := D.getLast?_text
  rw [← hGap.text_eq] at hHead hLast
  constructor
  · cases front with
    | nil => rfl
    | cons c front => exact hHead
  · rw [List.getLast?_append, List.getLast?_append, getLast?_comment]
    rw [List.getLast?_append] at hLast
    cases hBack : back.getLast? with
    | none => rfl
    | some c =>
      rw [hBack] at hLast
      exact hLast

section

variable (hD : D.WellFormed) (hGap : D.Gap front back) (hBody : IsKept body)

include hD hGap hBody

/-- Repair cuts nothing off a document with a comment. -/
theorem repair_commented :
    repair (front ++ (comment body ++ back)) = escape (front ++ (comment body ++ back)) := by
  obtain ⟨hHead, hLast⟩ := ends_commented hGap body
  have hKept := hD.kept
  rw [← hGap.text_eq] at hKept
  obtain ⟨hFront, hBack⟩ := List.forall_mem_append.mp hKept
  exact repair_eq_escape (List.forall_mem_append.mpr
    ⟨hFront, List.forall_mem_append.mpr ⟨hBody.comment, hBack⟩⟩) hHead hLast

variable (hEnd : ¬ ("-->" : Text) <:+: body)

include hEnd

/-- A settled comment makes no difference to what is read. -/
theorem read_settled (hSettled : Settled body) :
    read (front ++ (comment body ++ back)) = read D.text := by
  obtain ⟨said, said', inner, hFront, hBack, hSaid⟩ := Document.readsBoth hD hGap
  have hReads := hFront.append ((reads_comment hEnd hSettled).append hBack)
  rw [read_eq_layOut (repair_commented hD hGap hBody) (ends_commented hGap body).1,
    hReads.readAll, read_document hD, ← hSaid]
  exact layOut_append_aside said said'

/-- A comment that does not end leaves a dump that cannot be read. -/
theorem read_unsettled (hSettled : ¬ Settled body) (hBack : ¬ ("-->" : Text) <:+: back) :
    ∃ fault, read (front ++ (comment body ++ back)) = .error fault := by
  obtain ⟨said, said', inner, hFront, -, -⟩ := Document.readsBoth hD hGap
  have hFault : (Event.readAll (escape (front ++ (comment body ++ back)))).fault ≠ none := by
    obtain ⟨position, hRead⟩ := hFront (comment body ++ back) [] 0
    rw [Event.readAll, escape_eq, hRead]
    exact fault_of_unsettled hEnd hSettled hBack _ _ _
  rw [read_eq_layOut (repair_commented hD hGap hBody) (ends_commented hGap body).1]
  cases hLaidOut : layOut (Event.readAll (escape (front ++ (comment body ++ back)))) with
  | error fault => exact ⟨fault, rfl⟩
  | ok nodes => exact absurd (.inl hFault) (not_unfinished_of_layOut hLaidOut)

/-- **A comment is passed over, if the quotes in it leave no value open**, which they never do if
there are none. In any gap of a well-formed document it changes nothing of the screen then. If one
of them does leave a value open, and no `-->` stands behind
the gap, the comment does not end, and the dump yields a diagnosis and one element that tells it. -/
theorem parse_commented (id id' : Nat) :
    (Settled body →
      (parse id (front ++ (comment body ++ back))).nodes = (parse id' D.text).nodes ∧
      (parse id (front ++ (comment body ++ back))).contentHash =
        (parse id' D.text).contentHash ∧
      (parse id (front ++ (comment body ++ back))).isDegraded = (parse id' D.text).isDegraded ∧
      (parse id (front ++ (comment body ++ back))).diagnostic = (parse id' D.text).diagnostic) ∧
    (¬ Settled body → ¬ ("-->" : Text) <:+: back →
      ∃ reason, parse id (front ++ (comment body ++ back)) = .degraded id reason ∧
        (parse id (front ++ (comment body ++ back))).TellsFault reason) ∧
    ('"' ∉ body → '\'' ∉ body → Settled body) := by
  refine ⟨?_, ?_, settled_of_not_mem⟩
  · intro hSettled
    have hParse : parse id (front ++ (comment body ++ back)) =
        { parse id' D.text with id := id } := by
      rw [← parse_eq, parse, parse, read_settled hD hGap hBody hEnd hSettled]
    rw [hParse]
    generalize parse id' D.text = s
    exact ⟨rfl, rfl, rfl, rfl⟩
  · intro hSettled hBack
    obtain ⟨fault, hFault⟩ := read_unsettled hD hGap hBody hEnd hSettled hBack
    exact parse_of_fault id hFault

end

/-- Two elements, one inside the other. -/
def nested : Document where
  declaration := none
  root := .pair ⟨"a", [], []⟩ (.more [] (.empty ⟨"b", [], []⟩) (.last [])) []

/-- In front of the inner element. -/
theorem gap_nested : nested.Gap "<a>" "<b/></a>" :=
  .root none (.inside ⟨"a", [], []⟩ [] (.words [] [] (.empty ⟨"b", [], []⟩) (.last [])))

/-- A body with quotes and marks. The apostrophe at its end is behind a bracket, so it opens
nothing. -/
def markedBody : Text := "<c d=\"<it's>\"> & it's"

/-- A comment with that body is passed over, and one with an open quote is not. -/
theorem parse_commented_nested :
    nested.WellFormed ∧ nested.Gap "<a>" "<b/></a>" ∧
      (IsKept markedBody ∧ ¬ ("-->" : Text) <:+: markedBody ∧ Settled markedBody ∧
        (parse 2 ("<a>" ++ (comment markedBody ++ "<b/></a>"))).nodes =
          (parse 1 nested.text).nodes) ∧
      IsKept "it's" ∧ ¬ ("-->" : Text) <:+: ("it's" : Text) ∧ ¬ Settled "it's" ∧
        ¬ ("-->" : Text) <:+: ("<b/></a>" : Text) ∧
        ∃ reason, parse 2 ("<a>" ++ (comment "it's" ++ "<b/></a>")) = .degraded 2 reason ∧
          (parse 2 ("<a>" ++ (comment "it's" ++ "<b/></a>"))).TellsFault reason := by
  have hNested : nested.WellFormed := by decide
  have hKept : IsKept markedBody := by decide +kernel
  have hEnd : ¬ ("-->" : Text) <:+: markedBody := by decide +kernel
  have hSettled : Settled markedBody := by decide +kernel
  have hKept' : IsKept "it's" := by decide
  have hEnd' : ¬ ("-->" : Text) <:+: ("it's" : Text) := by decide +kernel
  have hOpen : ¬ Settled "it's" := by decide +kernel
  have hBack : ¬ ("-->" : Text) <:+: ("<b/></a>" : Text) := by decide +kernel
  obtain ⟨hPassed, -⟩ := parse_commented hNested gap_nested hKept hEnd 2 1
  obtain ⟨-, hDegraded, -⟩ := parse_commented hNested gap_nested hKept' hEnd' 2 1
  exact ⟨hNested, gap_nested, ⟨hKept, hEnd, hSettled, (hPassed hSettled).1⟩, hKept', hEnd', hOpen,
    hBack, hDegraded hOpen hBack⟩

/-- With an apostrophe in a comment, and no two dashes, a screen cannot be read any more. -/
theorem degraded_apostrophe :
    nested.WellFormed ∧ nested.Gap "<a>" "<b/></a>" ∧ IsKept "it's" ∧
      ¬ ("--" : Text) <:+: ("it's" : Text) ∧ ("it's" : Text).getLast? ≠ some '-' ∧
      (parse 1 nested.text).isDegraded = false ∧
      (parse 1 ("<a>" ++ (comment "it's" ++ "<b/></a>"))).isDegraded = true :=
  ⟨by decide, gap_nested, by decide, by decide +kernel, by decide, by decide +kernel,
    by decide +kernel⟩

end Dump

end ScreenQuery
