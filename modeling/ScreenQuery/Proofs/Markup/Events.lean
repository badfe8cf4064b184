import ScreenQuery.Proofs.Markup.Reading
import ScreenQuery.Proofs.Markup.Repaired

/-!
# The events of a document

* `Element.events` are the tags of an element in the order in which they are written.
* `Reads` is the reading of a part of a text: it goes on behind the part, with what the part says
  and with the elements open that the part leaves open. Parts that follow one another are read one
  after another (`Reads.append`).
* An element is read as the events that it has when its values are repaired (`Element.reads`), and
  so is a document (`Document.readAll_eq`).
-/

namespace ScreenQuery.Markup

/-! ## What a document says -/

/-- The tag as a reader finds it. -/
def WrittenTag.toTag (tag : WrittenTag) : Tag := ⟨tag.name, tag.rest⟩

mutual

/-- What an element says. -/
def Element.events : Element → List Event
  | .empty tag => [.empty tag.toTag]
  | .pair tag inside _ => .opening tag.toTag :: (inside.events ++ [.closing])

/-- What stands in an element says. -/
def Content.events : Content → List Event
  | .last _ => []
  | .more _ first rest => first.events ++ rest.events

end

/-- What a document says; of a declaration nothing but that it is there. -/
def Document.events (D : Document) : List Event :=
  (D.declaration.elim [] fun _ => [.aside]) ++ D.root.events

/-! ## Reading part after part -/

variable {opened opened' opened'' : List Text} {a b body out text trail : Text}
  {said said' : List Event} {tag : WrittenTag}

/-- Reading the repaired text finds the events, whatever came before and whatever follows. -/
def Reads (opened : List Text) (text : Text) (said : List Event) (opened' : List Text) : Prop :=
  ∀ (rest : Text) (before : List Event) (position : Nat), ∃ position',
    Event.readFrom before opened position (Place.outside.write (text ++ rest)) =
      Event.readFrom (said.reverse ++ before) opened' position' (Place.outside.write rest)

theorem Reads.append (ha : Reads opened a said opened') (hb : Reads opened' b said' opened'') :
    Reads opened (a ++ b) (said ++ said') opened'' := by
  intro rest before position
  obtain ⟨middle, hRead⟩ := ha (b ++ rest) before position
  obtain ⟨position', hRead'⟩ := hb rest (said.reverse ++ before) middle
  refine ⟨position', ?_⟩
  rw [List.append_assoc, hRead, hRead', List.reverse_append, List.append_assoc]

theorem reads_words {words : Text} (h : '<' ∉ words) : Reads opened words [] opened := by
  intro rest before position
  obtain ⟨out, hOut, hWrite⟩ := write_words h rest
  exact ⟨_, by rw [hWrite, Event.readFrom_skip hOut]; rfl⟩

/-- What stands between two brackets is read as repair writes it. -/
theorem reads_construct (construct : Construct) {event : Event}
    (h : Rewrites .inTag body out .inTag)
    (hOf : ∀ rest, Construct.of? (out ++ '>' :: rest) = some construct)
    (hCut : ∀ rest, construct.cut? (out ++ '>' :: rest) = some (out, rest))
    (hEvent : Event.ofConstruct construct opened out = .ok (event, opened')) :
    Reads opened ('<' :: (body ++ ['>'])) [event] opened' := by
  intro rest before position
  have hWrite : Place.outside.write ('<' :: (body ++ ['>']) ++ rest) =
      '<' :: (out ++ '>' :: Place.outside.write rest) := by
    rw [List.cons_append, List.append_assoc]
    exact congrArg (List.cons '<') (h ('>' :: rest))
  rw [hWrite]
  exact Event.readFrom_next before position (hOf _) (hCut _) hEvent

theorem Reads.readAll (h : Reads [] text said []) :
    Event.readAll (escape text) = ⟨said, none⟩ := by
  obtain ⟨position', hRead⟩ := h [] [] 0
  rw [List.append_nil, List.append_nil] at hRead
  rw [Event.readAll, escape_eq, hRead, Place.write, Event.readFrom_nil, List.reverse_reverse]

/-! ## Tags -/

theorem tag_of_text (h : tag.WellFormed) : Tag.of tag.text = tag.toTag := by
  have hName : ∀ c ∈ tag.name, (!isBlank c) = true := fun c hc => by
    rw [isBlank_of_isNameChar (h.name.chars c hc)]
    rfl
  have hStop : ∀ c, tag.rest.head? = some c → (!isBlank c) = false := by
    intro c hc
    have hBlank : isBlank c = true := by
      unfold WrittenTag.rest at hc
      cases hAttributes : tag.attributes with
      | nil =>
        rw [hAttributes] at hc
        exact h.trail c (List.mem_of_mem_head? hc)
      | cons a rest =>
        have ha := h.attributes a (by rw [hAttributes]; exact List.mem_cons_self)
        obtain ⟨blank, gap, hGap⟩ := List.exists_cons_of_ne_nil ha.gap_nonempty
        rw [hAttributes, List.flatMap_cons, WrittenAttribute.text, hGap] at hc
        obtain rfl : blank = c := Option.some.inj hc
        exact ha.gap blank (by rw [hGap]; exact List.mem_cons_self)
    rw [hBlank]
    rfl
  unfold Tag.of WrittenTag.text
  rw [Text.takeWhile_append hName hStop, Text.dropWhile_append hName hStop]
  rfl

theorem closingName_append {name : Text} (hName : IsName name) (hTrail : IsBlanks trail) :
    closingName (name ++ trail) = name := by
  have hDrop : (name ++ trail).reverse.dropWhile isBlank = name.reverse := by
    rw [List.reverse_append]
    refine Text.dropWhile_append (fun c hc => hTrail c (List.mem_reverse.mp hc)) fun c hc => ?_
    have hMem : c ∈ name := List.mem_reverse.mp (List.mem_of_mem_head? hc)
    exact isBlank_of_isNameChar (hName.chars c hMem)
  unfold closingName
  rw [hDrop]
  split
  · rename_i hNil
    exact absurd (List.reverse_eq_nil_iff.mp hNil) hName.nonempty
  · exact List.reverse_reverse name

theorem unchanged_slash : Unchanged .inTag ['/'] .inTag :=
  unchanged_singleton .inTag (by decide) (by decide) (by decide)

section

variable (h : tag.WellFormed)

include h

/-- A tag is no declaration, comment or the like, and closes nothing. -/
theorem of?_text (rest : Text) : Construct.of? (tag.text ++ rest) = some .tag := by
  obtain ⟨c, hHead, hc⟩ := h.exists_head rest
  refine Construct.of?_eq_tag fun d hd => ?_
  obtain rfl : c = d := Option.some.inj (hHead.symm.trans hd)
  exact ⟨ne_of_isNameChar hc (by decide), ne_of_isNameChar hc (by decide)⟩

theorem head?_text_ne_slash (rest : Text) : (tag.text ++ rest).head? ≠ some '/' := by
  obtain ⟨c, hHead, hc⟩ := h.exists_head rest
  exact head?_ne_slash hHead hc

theorem reads_opening : Reads opened ('<' :: (tag.text ++ ['>'])) [.opening tag.repaired.toTag]
    (tag.name :: opened) := by
  refine reads_construct .tag h.rewrites (fun rest => of?_text h.repaired _)
    (fun rest => cutTag_closed h.repaired.passes rest) ?_
  have hHead := head?_text_ne_slash h.repaired []
  rw [List.append_nil] at hHead
  rw [Event.ofConstruct, Event.ofTag_opening hHead h.repaired.getLast?_ne_slash,
    tag_of_text h.repaired]
  rfl

theorem reads_empty :
    Reads opened ('<' :: (tag.text ++ ['/'] ++ ['>'])) [.empty tag.repaired.toTag] opened := by
  refine reads_construct .tag (h.rewrites.append unchanged_slash.rewrites) (fun rest => ?_)
    (fun rest => cutTag_closed h.repaired.empty_passes rest) ?_
  · rw [List.append_assoc]
    exact of?_text h.repaired _
  · rw [Event.ofConstruct, Event.ofTag_empty (head?_text_ne_slash h.repaired _)
      List.getLast?_concat, List.dropLast_concat, tag_of_text h.repaired]

theorem reads_closing (hTrail : IsBlanks trail) :
    Reads (tag.name :: opened) ('<' :: ('/' :: tag.name ++ trail ++ ['>'])) [.closing] opened := by
  refine reads_construct .tag
    ((unchanged_slash.append h.name.unchanged).append hTrail.unchanged).rewrites (fun rest => rfl)
    (fun rest => cutTag_closed (h.closing_passes hTrail) rest) ?_
  show Event.ofTag (tag.name :: opened) ('/' :: (tag.name ++ trail)) = _
  simp only [Event.ofTag, closingName_append h.name hTrail, if_true]

end

theorem reads_declaration {d : Declaration} (h : d.WellFormed) :
    Reads opened d.text [.aside] opened := by
  have hMark : Rewrites .inTag ['?'] ['?'] .inTag :=
    unchanged_singleton .inTag (by decide) (by decide) (by decide)
  have hRewrites : Rewrites .inTag ('?' :: d.tag.text ++ ['?'])
      ('?' :: d.tag.repaired.text ++ ['?']) .inTag := (hMark.append h.tag.rewrites).append hMark
  have hEvent : Event.ofConstruct .instruction opened ('?' :: d.tag.repaired.text ++ ['?']) =
      .ok (.aside, opened) := by
    rw [Event.ofConstruct, if_pos (by simp)]
  have hWords : Reads opened d.gap [] opened := reads_words (h.gap.not_mem rfl)
  have hText : d.text = '<' :: ('?' :: d.tag.text ++ ['?'] ++ ['>']) ++ d.gap := by
    simp only [Declaration.text, List.cons_append, List.append_assoc, List.nil_append]
  rw [hText]
  have hReads : Reads opened ('<' :: ('?' :: d.tag.text ++ ['?'] ++ ['>'])) [.aside] opened :=
    reads_construct .instruction hRewrites (fun _ => rfl) (fun rest => cut?_instruction_closed
      (hRewrites.more_not_mem h.passes) List.getLast?_concat rest) hEvent
  exact hReads.append hWords

/-! ## Elements and documents -/

mutual

/-- **An element is read as its events**, with its values repaired. -/
theorem Element.reads : ∀ (e : Element), e.All WrittenTag.WellFormed IsWords →
    ∀ {opened : List Text}, Reads opened e.text (e.map WrittenTag.repaired).events opened
  | .empty _, hTag, _ => reads_empty hTag
  | .pair tag inside trail, ⟨hTag, hInside, hTrail⟩, opened => by
    have hText : (Element.pair tag inside trail).text = '<' :: (tag.text ++ ['>']) ++
        (inside.text ++ '<' :: ('/' :: tag.name ++ trail ++ ['>'])) := by
      simp only [Element.text, List.cons_append, List.append_assoc, List.nil_append]
    rw [hText]
    exact (reads_opening hTag).append ((Content.reads inside hInside).append
      (reads_closing hTag hTrail))

theorem Content.reads : ∀ (content : Content), content.All WrittenTag.WellFormed IsWords →
    ∀ {opened : List Text},
      Reads opened content.text (content.map WrittenTag.repaired).events opened
  | .last _, hWords, _ => reads_words hWords.1
  | .more _ first rest, ⟨hWords, hFirst, hRest⟩, _ =>
    (reads_words hWords.1).append
      ((Element.reads first hFirst).append (Content.reads rest hRest))

end

theorem Document.reads {D : Document} (h : D.WellFormed) :
    Reads [] D.text D.repaired.events [] := by
  unfold Document.text Document.events Document.repaired
  cases hDeclaration : D.declaration with
  | none => exact D.root.reads h.root
  | some d => exact (reads_declaration (h.declaration d hDeclaration)).append (D.root.reads h.root)

/-- **A document is read as its events**, with its values repaired and nothing left over. -/
theorem Document.readAll_eq {D : Document} (h : D.WellFormed) :
    Event.readAll (escape D.text) = ⟨D.repaired.events, none⟩ :=
  (Document.reads h).readAll

end ScreenQuery.Markup
