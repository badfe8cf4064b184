import ScreenQuery.Proofs.Markup.Attributes
import ScreenQuery.Proofs.Markup.Events

/-!
# Documents rendered from their values

* A document may also be read as one that holds the values themselves. `Document.encoded` is what is
  written for it then: its values are replaced by their written forms. Any value can be rendered
  (`Renderable`).
* Repair leaves the tags of a rendered document as they are (`Renderable.repaired_encoded`) and
  removes what stands around it (`repair_rendered`), so that its events are read from it and the
  values from these (`readAll_rendered`, `decoded_rendered`).
-/

namespace ScreenQuery.Markup

variable {a : WrittenAttribute} {tag : WrittenTag} {D : Document}

/-! ## Rendering -/

/-- The attribute with its value in written form. -/
def WrittenAttribute.encoded (a : WrittenAttribute) : WrittenAttribute :=
  { a with value := encode a.value }

/-- The tag with its values in written form. -/
def WrittenTag.encoded (tag : WrittenTag) : WrittenTag :=
  { tag with attributes := tag.attributes.map WrittenAttribute.encoded }

/-- The declaration with its values in written form. -/
def Declaration.encoded (d : Declaration) : Declaration :=
  { d with attributes := d.attributes.map WrittenAttribute.encoded }

/-- The document with its values in written form. -/
def Document.encoded (D : Document) : Document :=
  ⟨D.declaration.map Declaration.encoded, D.root.map WrittenTag.encoded⟩

structure WrittenAttribute.Renderable (a : WrittenAttribute) : Prop extends a.LaidOut where
  quote : a.quote = '"'
  value : IsKept a.value

structure WrittenTag.Renderable (tag : WrittenTag) : Prop where
  name : IsName tag.name
  attributes : ∀ a ∈ tag.attributes, a.Renderable
  trail : IsBlanks tag.trail

structure Declaration.Renderable (d : Declaration) : Prop where
  tag : d.tag.Renderable
  gap : IsBlanks d.gap

structure Document.Renderable (D : Document) : Prop where
  declaration : ∀ d, D.declaration = some d → d.Renderable
  root : D.root.All WrittenTag.Renderable IsWords

instance (a : WrittenAttribute) : Decidable a.Renderable :=
  decidable_of_iff (a.LaidOut ∧ a.quote = '"' ∧ IsKept a.value)
    ⟨fun ⟨h1, h2, h3⟩ => ⟨h1, h2, h3⟩, fun h => ⟨h.toLaidOut, h.quote, h.value⟩⟩

instance (tag : WrittenTag) : Decidable tag.Renderable :=
  decidable_of_iff (IsName tag.name ∧ (∀ a ∈ tag.attributes, a.Renderable) ∧ IsBlanks tag.trail)
    ⟨fun ⟨h1, h2, h3⟩ => ⟨h1, h2, h3⟩, fun h => ⟨h.name, h.attributes, h.trail⟩⟩

instance (d : Declaration) : Decidable d.Renderable :=
  decidable_of_iff (d.tag.Renderable ∧ IsBlanks d.gap)
    ⟨fun h => ⟨h.1, h.2⟩, fun h => ⟨h.tag, h.gap⟩⟩

instance (D : Document) : Decidable D.Renderable :=
  decidable_of_iff ((∀ d ∈ D.declaration, d.Renderable) ∧ D.root.All WrittenTag.Renderable IsWords)
    ⟨fun h => ⟨h.1, h.2⟩, fun h => ⟨h.declaration, h.root⟩⟩

/-! ## What is rendered is well formed -/

theorem WrittenAttribute.Renderable.encoded (h : a.Renderable) : a.encoded.WellFormed where
  toLaidOut := ⟨h.gap_nonempty, h.gap, h.name, h.beforeSign, h.afterSign⟩
  quote := Or.inl h.quote
  quote_not_mem := fun hMem => quote_not_mem_encode a.value (h.quote ▸ hMem)
  value := isKept_encode h.value

theorem WrittenTag.Renderable.encoded (h : tag.Renderable) : tag.encoded.WellFormed where
  name := h.name
  attributes := fun a ha => by
    obtain ⟨a, hMem, rfl⟩ := List.mem_map.mp ha
    exact (h.attributes a hMem).encoded
  trail := h.trail

/-! ## What is rendered is not repaired -/

theorem WrittenAttribute.Renderable.repaired_encoded (h : a.Renderable) :
    a.encoded.repaired = a.encoded := by
  have hWrite := unchanged_encode a.value []
  rw [List.append_nil, Place.write, List.append_nil, ← h.quote] at hWrite
  exact congrArg (fun value => { a with value := value }) hWrite

theorem WrittenTag.Renderable.repaired_encoded (h : tag.Renderable) :
    tag.encoded.repaired = tag.encoded := by
  have hAttributes : ∀ attributes : List WrittenAttribute, (∀ a ∈ attributes, a.Renderable) →
      (attributes.map WrittenAttribute.encoded).map WrittenAttribute.repaired =
        attributes.map WrittenAttribute.encoded := by
    intro attributes hAll
    rw [List.map_map]
    exact List.map_congr_left fun a ha => (hAll a ha).repaired_encoded
  unfold WrittenTag.repaired WrittenTag.encoded
  rw [hAttributes tag.attributes h.attributes]

/-! ## Documents -/

theorem Document.Renderable.encoded (h : D.Renderable) : D.encoded.WellFormed where
  declaration := fun d hd => by
    obtain ⟨d, hMem, rfl⟩ := Option.map_eq_some_iff.mp hd
    obtain ⟨hTag, hGap⟩ := h.declaration d hMem
    exact ⟨hTag.encoded, hGap⟩
  root := D.root.all_map (fun _ => WrittenTag.Renderable.encoded) h.root

theorem Document.Renderable.events_repaired (h : D.Renderable) :
    D.encoded.repaired.events = D.encoded.events := by
  have hAll : (D.root.map WrittenTag.encoded).All (fun tag => tag.repaired = tag) IsWords :=
    D.root.all_map (fun _ hTag => hTag.repaired_encoded) h.root
  have hRoot := Element.map_eq_self _ hAll
  unfold Document.events Document.repaired Document.encoded
  rw [hRoot]
  cases D.declaration <;> rfl

/-- A rendered document is found between what precedes its first tag and what follows its last. -/
theorem repair_rendered (h : D.Renderable) {lead trail : Text} (hLead : '<' ∉ lead)
    (hTrail : '>' ∉ trail) :
    repair (lead ++ (D.encoded.text ++ trail)) = escape D.encoded.text := by
  have hKept : withoutControls D.encoded.text = D.encoded.text :=
    withoutControls_eq_self h.encoded.kept
  rw [repair, withoutControls_append, withoutControls_append, hKept,
    cutMarkup_append (not_mem_withoutControls hLead) D.encoded.head?_text D.encoded.getLast?_text,
    List.rdropWhile_eq_nil_iff.mpr (Text.bne_of_not_mem (not_mem_withoutControls hTrail)),
    List.append_nil]

/-- **The events of a rendered document are read from it.** -/
theorem readAll_rendered (h : D.Renderable) {lead trail : Text} (hLead : '<' ∉ lead)
    (hTrail : '>' ∉ trail) :
    Event.readAll (repair (lead ++ (D.encoded.text ++ trail))) = ⟨D.encoded.events, none⟩ := by
  rw [repair_rendered h hLead hTrail, Document.readAll_eq h.encoded, h.events_repaired]

/-- The names and values of a tag. -/
def WrittenTag.pairs (tag : WrittenTag) : List (Text × Text) :=
  tag.attributes.map fun a => (a.name, a.value)

/-- **The values of a rendered tag are read from it.** -/
theorem decoded_rendered (h : tag.Renderable) :
    ∃ attributes, Attribute.readAll tag.encoded.toTag.name tag.encoded.toTag.rest = .ok attributes ∧
      attributes.map (fun one => (one.name, decode one.value)) = tag.pairs := by
  refine ⟨_, Attribute.readAll_written h.encoded, ?_⟩
  unfold WrittenTag.pairs WrittenTag.encoded
  rw [List.map_map, List.map_map]
  refine List.map_congr_left fun a _ => ?_
  show (a.name, decode (encode a.value)) = (a.name, a.value)
  rw [decode_encode]

end ScreenQuery.Markup
