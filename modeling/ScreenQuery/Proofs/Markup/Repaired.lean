import ScreenQuery.Proofs.Markup.Reference
import ScreenQuery.Proofs.Markup.Document

/-!
# What repair makes of a document

* How a character of a value is repaired depends on what follows it, but not on what follows the
  quote that closes the value (`rewrites_value`): no reference reaches over a quote.
* So the tags of a document are repaired one by one. `WrittenTag.repaired` is the tag that repair
  makes of one, whatever stands around it (`WrittenTag.WellFormed.rewrites`).
-/

namespace ScreenQuery.Markup

variable {place middle last : Place} {a b out out' text : Text} {c quote : Char}

/-- Repair writes `out` for the text, whatever follows. -/
def Rewrites (place : Place) (text out : Text) (last : Place) : Prop :=
  ∀ rest, place.write (text ++ rest) = out ++ last.write rest

theorem Rewrites.nil (place : Place) : Rewrites place [] [] place := fun _ => rfl

theorem Rewrites.append (ha : Rewrites place a out middle) (hb : Rewrites middle b out' last) :
    Rewrites place (a ++ b) (out ++ out') last := by
  intro rest
  rw [List.append_assoc, ha, hb, List.append_assoc]

theorem Unchanged.rewrites (h : Unchanged place text last) : Rewrites place text text last := h

/-- What repair makes of a text that stays in a tag holds no bracket that could end the tag. -/
theorem Rewrites.more_not_mem (h : Rewrites place text out middle)
    (hPasses : place.Passes text last) : '>' ∉ out := by
  obtain ⟨_, hRepaired⟩ := repaired_write place text
  have hWrite := h []
  rw [List.append_nil, Place.write, List.append_nil] at hWrite
  rw [hWrite] at hRepaired
  exact hRepaired.more_not_mem hPasses

/-! ## Values -/

theorem Place.escaped_closed {mark : Char} (hMark : mark ∈ marks) (place : Place) (c : Char)
    (text rest : Text) : place.escaped c (text ++ mark :: rest) = place.escaped c text := by
  unfold Place.escaped
  rw [startsReference_closed hMark]

/-- **A value is repaired by itself.** -/
theorem rewrites_value {value : Text} (hQuote : quote = '"' ∨ quote = '\'') (h : quote ∉ value) :
    Rewrites (.inValue quote) (value ++ [quote]) ((Place.inValue quote).write value ++ [quote])
      .inTag := by
  intro rest
  simp only [List.append_assoc, List.singleton_append]
  induction value with
  | nil =>
    have hEscaped : (Place.inValue quote).escaped quote rest = [quote] := by
      rcases hQuote with rfl | rfl <;> rfl
    have hAfter : (Place.inValue quote).after quote = .inTag := if_pos rfl
    simp only [Place.write, List.nil_append, hEscaped, hAfter, List.singleton_append]
  | cons c value ih =>
    rw [List.mem_cons, not_or] at h
    have hAfter : (Place.inValue quote).after c = .inValue quote := if_neg (Ne.symm h.1)
    have hMark : quote ∈ marks := by
      rcases hQuote with rfl | rfl <;> decide
    rw [List.cons_append, Place.write, Place.write, Place.escaped_closed hMark, hAfter, ih h.2,
      List.append_assoc]

/-! ## Tags -/

/-- The attribute with its value repaired. -/
def WrittenAttribute.repaired (a : WrittenAttribute) : WrittenAttribute :=
  { a with value := (Place.inValue a.quote).write a.value }

/-- The tag with its values repaired. -/
def WrittenTag.repaired (tag : WrittenTag) : WrittenTag :=
  { tag with attributes := tag.attributes.map WrittenAttribute.repaired }

/-- The declaration with its values repaired. -/
def Declaration.repaired (d : Declaration) : Declaration :=
  { d with attributes := d.attributes.map WrittenAttribute.repaired }

/-- The document with its values repaired. -/
def Document.repaired (D : Document) : Document :=
  ⟨D.declaration.map Declaration.repaired, D.root.map WrittenTag.repaired⟩

theorem WrittenAttribute.WellFormed.repaired {a : WrittenAttribute} (h : a.WellFormed) :
    a.repaired.WellFormed where
  toLaidOut := ⟨h.gap_nonempty, h.gap, h.name, h.beforeSign, h.afterSign⟩
  quote := h.quote
  quote_not_mem := fun hMem => by
    obtain ⟨last, hRepaired⟩ := repaired_write (.inValue a.quote) a.value
    rcases hRepaired.mem_cases hMem with hValue | hEscape
    · exact h.quote_not_mem hValue
    · have hQuote : a.repaired.quote = '"' ∨ a.repaired.quote = '\'' := h.quote
      rcases hQuote with hEq | hEq <;> rw [hEq] at hEscape <;> exact absurd hEscape (by decide)
  value := fun c hc => by
    obtain ⟨last, hRepaired⟩ := repaired_write (.inValue a.quote) a.value
    rcases hRepaired.mem_cases hc with hValue | hEscape
    · exact h.value c hValue
    · exact (show IsKept "&amp;&lt;&gt;" by decide) c hEscape

theorem WrittenTag.WellFormed.repaired {tag : WrittenTag} (h : tag.WellFormed) :
    tag.repaired.WellFormed where
  name := h.name
  attributes := fun a ha => by
    obtain ⟨a, hMem, rfl⟩ := List.mem_map.mp ha
    exact (h.attributes a hMem).repaired
  trail := h.trail

theorem WrittenAttribute.WellFormed.rewrites {a : WrittenAttribute} (h : a.WellFormed) :
    Rewrites .inTag a.text a.repaired.text .inTag := by
  have hSign : Unchanged .inTag ['='] .inTag :=
    unchanged_singleton .inTag (by decide) (by decide) (by decide)
  have hOpen : Unchanged .inTag [a.quote] (.inValue a.quote) := by
    rcases h.quote with hQuote | hQuote <;> rw [hQuote] <;>
      exact unchanged_singleton .inTag (by decide) (by decide) (by decide)
  have hValue := rewrites_value h.quote h.quote_not_mem
  exact h.gap.unchanged.rewrites.append (h.name.unchanged.rewrites.append
    (h.beforeSign.unchanged.rewrites.append (hSign.rewrites.append
      (h.afterSign.unchanged.rewrites.append (hOpen.rewrites.append hValue)))))

theorem rewrites_attributes {attributes : List WrittenAttribute}
    (h : ∀ a ∈ attributes, a.WellFormed) :
    Rewrites .inTag (attributes.flatMap WrittenAttribute.text)
      ((attributes.map WrittenAttribute.repaired).flatMap WrittenAttribute.text) .inTag := by
  induction attributes with
  | nil => exact .nil _
  | cons a rest ih =>
    obtain ⟨ha, hRest⟩ := List.forall_mem_cons.mp h
    rw [List.map_cons, List.flatMap_cons, List.flatMap_cons]
    exact ha.rewrites.append (ih hRest)

/-- **A tag is repaired by itself**, value by value. -/
theorem WrittenTag.WellFormed.rewrites {tag : WrittenTag} (h : tag.WellFormed) :
    Rewrites .inTag tag.text tag.repaired.text .inTag :=
  h.name.unchanged.rewrites.append
    ((rewrites_attributes h.attributes).append h.trail.unchanged.rewrites)

end ScreenQuery.Markup
