import ScreenQuery.Markup.Event

/-!
# Documents as they are written

* A `Document` is an optional declaration and one element. It keeps everything that is written,
  blanks and quotes included, so that its `text` is a function of it and nothing of the text is left
  open.
* `Document.WellFormed` is the shape of the dumps of a device. What stands between quotes may be
  anything but the quote and control characters; it may look like markup.
* `Element.All` says that a property of tags and one of the texts between them hold throughout an
  element, and `Element.map` changes every tag.
* An element holds elements and texts, as in the dumps of a device. There are no comments: repair
  would take a quote in one for the start of a value.
-/

namespace ScreenQuery.Markup

/-! ## What is written -/

/-- An attribute as it is written: `gap` before the name, then the name, the sign with blanks around
it, and the quoted value. -/
structure WrittenAttribute where
  gap : Text
  name : Text
  beforeSign : Text
  afterSign : Text
  quote : Char
  value : Text

/-- The text of an attribute. -/
def WrittenAttribute.text (a : WrittenAttribute) : Text :=
  a.gap ++ (a.name ++ (a.beforeSign ++ '=' :: (a.afterSign ++ a.quote :: (a.value ++ [a.quote]))))

/-- What a tag holds between its brackets, but for the slash of an empty element. -/
structure WrittenTag where
  name : Text
  attributes : List WrittenAttribute
  trail : Text

/-- What follows the name of a tag. -/
def WrittenTag.rest (tag : WrittenTag) : Text :=
  tag.attributes.flatMap WrittenAttribute.text ++ tag.trail

/-- The text of a tag, without the brackets. -/
def WrittenTag.text (tag : WrittenTag) : Text := tag.name ++ tag.rest

mutual

/-- An element: a tag that closes itself, or one with content and a closing tag. `trail` is what
follows the name in the closing tag. -/
inductive Element
  | empty (tag : WrittenTag)
  | pair (tag : WrittenTag) (inside : Content) (trail : Text)

/-- What stands in an element: texts, and elements between them. -/
inductive Content
  | last (words : Text)
  | more (words : Text) (first : Element) (rest : Content)

end

mutual

/-- The text of an element. -/
def Element.text : Element → Text
  | .empty tag => '<' :: (tag.text ++ ['/'] ++ ['>'])
  | .pair tag inside trail =>
    '<' :: (tag.text ++ '>' :: (inside.text ++ '<' :: ('/' :: tag.name ++ trail ++ ['>'])))

/-- The text of what stands in an element. -/
def Content.text : Content → Text
  | .last words => words
  | .more words first rest => words ++ (first.text ++ rest.text)

end

mutual

/-- The element with every tag changed. -/
def Element.map (f : WrittenTag → WrittenTag) : Element → Element
  | .empty tag => .empty (f tag)
  | .pair tag inside trail => .pair (f tag) (inside.map f) trail

/-- The content with every tag changed. -/
def Content.map (f : WrittenTag → WrittenTag) : Content → Content
  | .last words => .last words
  | .more words first rest => .more words (first.map f) (rest.map f)

end

/-- A declaration: what follows `<?xml`, and the blanks behind it. -/
structure Declaration where
  attributes : List WrittenAttribute
  trail : Text
  gap : Text

/-- The declaration without its marks, read like a tag. -/
def Declaration.tag (d : Declaration) : WrittenTag := ⟨"xml", d.attributes, d.trail⟩

/-- The text of a declaration. -/
def Declaration.text (d : Declaration) : Text :=
  '<' :: ('?' :: d.tag.text ++ ['?'] ++ '>' :: d.gap)

/-- An optional declaration and one element. -/
structure Document where
  declaration : Option Declaration
  root : Element

/-- The text of a document. -/
def Document.text (D : Document) : Text :=
  (D.declaration.elim [] Declaration.text) ++ D.root.text

/-- A document begins with a tag. -/
theorem Document.head?_text (D : Document) : D.text.head? = some '<' := by
  rcases D with ⟨_ | d, tag | ⟨tag, inside, trail⟩⟩ <;> rfl

/-- An element ends with a tag. -/
theorem Element.getLast?_text (e : Element) : e.text.getLast? = some '>' := by
  rw [List.getLast?_eq_some_iff]
  cases e with
  | empty tag => exact ⟨'<' :: (tag.text ++ ['/']), rfl⟩
  | pair tag inside trail =>
    refine ⟨'<' :: (tag.text ++ '>' :: (inside.text ++ '<' :: ('/' :: tag.name ++ trail))), ?_⟩
    simp only [Element.text, List.cons_append, List.append_assoc]

/-- A document ends with a tag. -/
theorem Document.getLast?_text (D : Document) : D.text.getLast? = some '>' := by
  rw [Document.text, List.getLast?_append, D.root.getLast?_text]
  rfl

/-! ## Well-formed documents -/

/-- A character that is no control character, or a tab, a line feed or a carriage return. -/
def isKept (c : Char) : Bool := !Text.isControl c || c == '\t' || c == '\n' || c == '\r'

/-- The characters that mean something in markup. -/
def marks : List Char := ['<', '>', '/', '=', '"', '\'', '&', '!', '?']

/-- A character of names: neither a mark nor a blank nor a control character. -/
def isNameChar (c : Char) : Bool := !isBlank c && !Text.isControl c && !marks.contains c

/-- A name of a tag or an attribute. -/
structure IsName (name : Text) : Prop where
  nonempty : name ≠ []
  chars : ∀ c ∈ name, isNameChar c = true

/-- Blanks, or nothing. -/
def IsBlanks (text : Text) : Prop := ∀ c ∈ text, isBlank c = true

/-- No character of the text is dropped from a dump. -/
def IsKept (text : Text) : Prop := ∀ c ∈ text, isKept c = true

/-- A text between tags. -/
def IsWords (text : Text) : Prop := '<' ∉ text ∧ IsKept text

/-- The name of an attribute and the blanks around it are in order. -/
structure WrittenAttribute.LaidOut (a : WrittenAttribute) : Prop where
  gap_nonempty : a.gap ≠ []
  gap : IsBlanks a.gap
  name : IsName a.name
  beforeSign : IsBlanks a.beforeSign
  afterSign : IsBlanks a.afterSign

structure WrittenAttribute.WellFormed (a : WrittenAttribute) : Prop extends a.LaidOut where
  quote : a.quote = '"' ∨ a.quote = '\''
  quote_not_mem : a.quote ∉ a.value
  value : IsKept a.value

structure WrittenTag.WellFormed (tag : WrittenTag) : Prop where
  name : IsName tag.name
  attributes : ∀ a ∈ tag.attributes, a.WellFormed
  trail : IsBlanks tag.trail

mutual

/-- All tags of an element and all texts in it have a property each. -/
def Element.All (ofTag : WrittenTag → Prop) (ofWords : Text → Prop) : Element → Prop
  | .empty tag => ofTag tag
  | .pair tag inside trail => ofTag tag ∧ inside.All ofTag ofWords ∧ IsBlanks trail

/-- All tags and texts that stand in an element have a property each. -/
def Content.All (ofTag : WrittenTag → Prop) (ofWords : Text → Prop) : Content → Prop
  | .last words => ofWords words
  | .more words first rest =>
    ofWords words ∧ first.All ofTag ofWords ∧ rest.All ofTag ofWords

end

structure Declaration.WellFormed (d : Declaration) : Prop where
  tag : d.tag.WellFormed
  gap : IsBlanks d.gap

structure Document.WellFormed (D : Document) : Prop where
  declaration : ∀ d, D.declaration = some d → d.WellFormed
  root : D.root.All WrittenTag.WellFormed IsWords

section

variable {ofTag ofTag' : WrittenTag → Prop} {ofWords : Text → Prop} {f : WrittenTag → WrittenTag}

mutual

theorem Element.all_imp (hTag : ∀ tag, ofTag tag → ofTag' tag) :
    ∀ (e : Element), e.All ofTag ofWords → e.All ofTag' ofWords
  | .empty tag, h => hTag tag h
  | .pair tag inside _, ⟨h, hInside, hTrail⟩ =>
    ⟨hTag tag h, Content.all_imp hTag inside hInside, hTrail⟩

theorem Content.all_imp (hTag : ∀ tag, ofTag tag → ofTag' tag) :
    ∀ (content : Content), content.All ofTag ofWords → content.All ofTag' ofWords
  | .last _, hWords => hWords
  | .more _ first rest, ⟨hWords, hFirst, hRest⟩ =>
    ⟨hWords, Element.all_imp hTag first hFirst, Content.all_imp hTag rest hRest⟩

end

mutual

theorem Element.all_map (hTag : ∀ tag, ofTag tag → ofTag' (f tag)) :
    ∀ (e : Element), e.All ofTag ofWords → (e.map f).All ofTag' ofWords
  | .empty tag, h => hTag tag h
  | .pair tag inside _, ⟨h, hInside, hTrail⟩ =>
    ⟨hTag tag h, Content.all_map hTag inside hInside, hTrail⟩

theorem Content.all_map (hTag : ∀ tag, ofTag tag → ofTag' (f tag)) :
    ∀ (content : Content), content.All ofTag ofWords → (content.map f).All ofTag' ofWords
  | .last _, hWords => hWords
  | .more _ first rest, ⟨hWords, hFirst, hRest⟩ =>
    ⟨hWords, Element.all_map hTag first hFirst, Content.all_map hTag rest hRest⟩

end

mutual

theorem Element.map_eq_self :
    ∀ (e : Element), e.All (fun tag => f tag = tag) ofWords → e.map f = e
  | .empty tag, h => congrArg Element.empty h
  | .pair tag inside trail, ⟨h, hInside, _⟩ => by
    rw [Element.map, h, Content.map_eq_self inside hInside]

theorem Content.map_eq_self :
    ∀ (content : Content), content.All (fun tag => f tag = tag) ofWords → content.map f = content
  | .last _, _ => rfl
  | .more words first rest, ⟨_, hFirst, hRest⟩ => by
    rw [Content.map, Element.map_eq_self first hFirst, Content.map_eq_self rest hRest]

end

end

/-! ## Well-formedness can be computed -/

instance (text : Text) : Decidable (IsBlanks text) :=
  List.decidableBAll (fun c => isBlank c = true) text

instance (text : Text) : Decidable (IsKept text) :=
  List.decidableBAll (fun c => isKept c = true) text

instance (text : Text) : Decidable (IsWords text) :=
  inferInstanceAs (Decidable ('<' ∉ text ∧ IsKept text))

instance (name : Text) : Decidable (IsName name) :=
  have := List.decidableBAll (fun c => isNameChar c = true) name
  decidable_of_iff (name ≠ [] ∧ ∀ c ∈ name, isNameChar c = true)
    ⟨fun h => ⟨h.1, h.2⟩, fun h => ⟨h.nonempty, h.chars⟩⟩

instance (a : WrittenAttribute) : Decidable a.LaidOut :=
  decidable_of_iff (a.gap ≠ [] ∧ IsBlanks a.gap ∧ IsName a.name ∧ IsBlanks a.beforeSign ∧
      IsBlanks a.afterSign)
    ⟨fun ⟨h1, h2, h3, h4, h5⟩ => ⟨h1, h2, h3, h4, h5⟩,
      fun h => ⟨h.gap_nonempty, h.gap, h.name, h.beforeSign, h.afterSign⟩⟩

instance (a : WrittenAttribute) : Decidable a.WellFormed :=
  decidable_of_iff (a.LaidOut ∧ (a.quote = '"' ∨ a.quote = '\'') ∧ a.quote ∉ a.value ∧
      IsKept a.value)
    ⟨fun ⟨h1, h2, h3, h4⟩ => ⟨h1, h2, h3, h4⟩,
      fun h => ⟨h.toLaidOut, h.quote, h.quote_not_mem, h.value⟩⟩

instance (tag : WrittenTag) : Decidable tag.WellFormed :=
  decidable_of_iff (IsName tag.name ∧ (∀ a ∈ tag.attributes, a.WellFormed) ∧ IsBlanks tag.trail)
    ⟨fun ⟨h1, h2, h3⟩ => ⟨h1, h2, h3⟩, fun h => ⟨h.name, h.attributes, h.trail⟩⟩

section

variable {ofTag : WrittenTag → Prop} {ofWords : Text → Prop} [DecidablePred ofTag]
  [DecidablePred ofWords]

mutual

instance Element.decidableAll : (e : Element) → Decidable (e.All ofTag ofWords)
  | .empty tag => inferInstanceAs (Decidable (ofTag tag))
  | .pair tag inside trail =>
    have := inside.decidableAll
    inferInstanceAs (Decidable (ofTag tag ∧ inside.All ofTag ofWords ∧ IsBlanks trail))

instance Content.decidableAll : (content : Content) → Decidable (content.All ofTag ofWords)
  | .last words => inferInstanceAs (Decidable (ofWords words))
  | .more words first rest =>
    have := first.decidableAll
    have := rest.decidableAll
    inferInstanceAs (Decidable (ofWords words ∧ first.All ofTag ofWords ∧ rest.All ofTag ofWords))

end

end

instance (d : Declaration) : Decidable d.WellFormed :=
  decidable_of_iff (d.tag.WellFormed ∧ IsBlanks d.gap)
    ⟨fun h => ⟨h.1, h.2⟩, fun h => ⟨h.tag, h.gap⟩⟩

instance (D : Document) : Decidable D.WellFormed :=
  decidable_of_iff ((∀ d ∈ D.declaration, d.WellFormed) ∧ D.root.All WrittenTag.WellFormed IsWords)
    ⟨fun h => ⟨h.1, h.2⟩, fun h => ⟨h.declaration, h.root⟩⟩

/-! ## Characters of a document -/

theorem isKept_of_isBlank {c : Char} (h : isBlank c = true) : isKept c = true := by
  simp only [isBlank, Bool.or_eq_true, beq_iff_eq] at h
  rcases h with ((rfl | rfl) | rfl) | rfl <;> decide

theorem ne_of_isBlank {c d : Char} (h : isBlank c = true) (hd : isBlank d = false) : c ≠ d := by
  rintro rfl
  rw [h] at hd
  cases hd

theorem isBlank_of_isNameChar {c : Char} (h : isNameChar c = true) : isBlank c = false := by
  simp only [isNameChar, Bool.and_eq_true, Bool.not_eq_true'] at h
  exact h.1.1

theorem ne_of_isNameChar {c d : Char} (h : isNameChar c = true) (hd : d ∈ marks) : c ≠ d := by
  rintro rfl
  simp only [isNameChar, Bool.and_eq_true, Bool.not_eq_true', List.contains_eq_mem] at h
  exact absurd hd (by simpa using h.2)

theorem isKept_of_isNameChar {c : Char} (h : isNameChar c = true) : isKept c = true := by
  simp only [isNameChar, Bool.and_eq_true] at h
  simp only [isKept, h.1.2, Bool.true_or]

theorem IsBlanks.kept {text : Text} (h : IsBlanks text) : IsKept text :=
  fun c hc => isKept_of_isBlank (h c hc)

theorem IsBlanks.not_mem {text : Text} {d : Char} (h : IsBlanks text) (hd : isBlank d = false) :
    d ∉ text :=
  fun hMem => ne_of_isBlank (h d hMem) hd rfl

theorem IsName.kept {name : Text} (h : IsName name) : IsKept name :=
  fun c hc => isKept_of_isNameChar (h.chars c hc)

theorem IsName.not_mem {name : Text} {d : Char} (h : IsName name) (hd : d ∈ marks) : d ∉ name :=
  fun hMem => ne_of_isNameChar (h.chars d hMem) hd rfl

theorem WrittenAttribute.WellFormed.kept {a : WrittenAttribute} (h : a.WellFormed) :
    IsKept a.text := by
  have hQuote : isKept a.quote = true := by
    rcases h.quote with hEq | hEq <;> rw [hEq] <;> decide
  intro c hc
  simp only [text, List.mem_append, List.mem_cons, List.not_mem_nil, or_false] at hc
  rcases hc with hc | hc | hc | rfl | hc | rfl | hc | rfl
  · exact h.gap.kept c hc
  · exact h.name.kept c hc
  · exact h.beforeSign.kept c hc
  · decide
  · exact h.afterSign.kept c hc
  · exact hQuote
  · exact h.value c hc
  · exact hQuote

theorem WrittenTag.WellFormed.kept {tag : WrittenTag} (h : tag.WellFormed) :
    IsKept tag.text := by
  intro c hc
  simp only [text, rest, List.mem_append, List.mem_flatMap] at hc
  rcases hc with hc | ⟨a, ha, hc⟩ | hc
  · exact h.name.kept c hc
  · exact (h.attributes a ha).kept c hc
  · exact h.trail.kept c hc

mutual

theorem Element.kept : ∀ (e : Element), e.All WrittenTag.WellFormed IsWords → IsKept e.text
  | .empty tag, hTag => by
    intro c hc
    simp only [Element.text, List.mem_cons, List.mem_append, List.not_mem_nil, or_false] at hc
    rcases hc with rfl | (hc | rfl) | rfl
    · decide
    · exact hTag.kept c hc
    · decide
    · decide
  | .pair tag inside trail, ⟨hTag, hInside, hTrail⟩ => by
    intro c hc
    simp only [Element.text, List.mem_cons, List.mem_append, List.not_mem_nil, or_false] at hc
    rcases hc with rfl | hc | rfl | hc | rfl | ((rfl | hc) | hc) | rfl
    · decide
    · exact hTag.kept c hc
    · decide
    · exact inside.kept hInside c hc
    · decide
    · decide
    · exact hTag.name.kept c hc
    · exact hTrail.kept c hc
    · decide

theorem Content.kept : ∀ (content : Content), content.All WrittenTag.WellFormed IsWords →
    IsKept content.text
  | .last _, hWords => hWords.2
  | .more words first rest, ⟨hWords, hFirst, hRest⟩ => by
    intro c hc
    simp only [Content.text, List.mem_append] at hc
    rcases hc with hc | hc | hc
    · exact hWords.2 c hc
    · exact first.kept hFirst c hc
    · exact rest.kept hRest c hc

end

theorem Declaration.WellFormed.kept {d : Declaration} (h : d.WellFormed) : IsKept d.text := by
  intro c hc
  simp only [text, List.mem_cons, List.mem_append, List.not_mem_nil, or_false] at hc
  rcases hc with rfl | ((rfl | hc) | rfl) | rfl | hc
  · decide
  · decide
  · exact h.tag.kept c hc
  · decide
  · decide
  · exact h.gap.kept c hc

/-- A well-formed document holds no character that is dropped from a dump. -/
theorem Document.WellFormed.kept {D : Document} (h : D.WellFormed) : IsKept D.text := by
  intro c hc
  simp only [text, List.mem_append] at hc
  rcases hc with hc | hc
  · cases hDeclaration : D.declaration with
    | none => rw [hDeclaration] at hc; exact absurd hc List.not_mem_nil
    | some d => rw [hDeclaration] at hc; exact (h.declaration d hDeclaration).kept c hc
  · exact D.root.kept h.root c hc

end ScreenQuery.Markup
