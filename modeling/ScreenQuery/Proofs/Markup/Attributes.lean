import ScreenQuery.Proofs.Markup.Document
import ScreenQuery.Proofs.Text.Parts

/-!
# Attributes are read as they were written

* `Cursor.skip_append` is what a cursor does with a part of the text: it passes over it and stops at
  what follows. An attribute is five such parts (`readOne_written`), and the attributes of a tag are
  read one after another (`readAll_written`).
-/

namespace ScreenQuery.Markup

variable {a : WrittenAttribute} {part rest : Text} {p : Char → Bool}

/-- The attribute without its blanks and quotes. -/
def WrittenAttribute.bare (a : WrittenAttribute) : Attribute := ⟨a.name, a.value⟩

namespace Attribute

theorem Cursor.skip_append (position : Nat) (hPart : ∀ c ∈ part, p c = true)
    (hStop : ∀ c, rest.head? = some c → p c = false) :
    Cursor.skip p ⟨position, part ++ rest⟩ = ⟨position + Text.byteLength part, rest⟩ := by
  unfold Cursor.skip
  rw [Text.dropWhile_append hPart hStop, Text.takeWhile_append hPart hStop]

/-- One round of reading, without the proof that the text gets shorter. -/
theorem readFrom_eq (read : List Attribute) (cursor : Cursor) :
    readFrom read cursor =
      match (cursor.skip isBlank).rest with
      | [] => .ok read.reverse
      | name :: rest =>
        match readOne name ⟨(cursor.skip isBlank).position + Text.byteLength [name], rest⟩ with
        | .error fault => .error fault
        | .ok (one, next) => readFrom (one :: read) next := by
  rw [readFrom]
  split
  · rename_i hStart
    simp only [hStart]
  · rename_i hStart
    simp only [hStart]
    split
    · rename_i hOne
      simp only [hOne]
    · rename_i hOne
      simp only [hOne]

section

variable (h : a.WellFormed)

include h

/-- **An attribute is read as it was written.** -/
theorem readOne_written {c : Char} {tail : Text} (hName : a.name = c :: tail) (position : Nat)
    (rest : Text) :
    ∃ position', readOne c ⟨position, tail ++ (a.beforeSign ++ '=' :: (a.afterSign ++
        a.quote :: (a.value ++ a.quote :: rest)))⟩ = .ok (a.bare, ⟨position', rest⟩) := by
  have hInName : ∀ d ∈ tail, (d != '=' && !isBlank d) = true := by
    intro d hd
    have hChar := h.name.chars d (by rw [hName]; exact List.mem_cons_of_mem _ hd)
    have hSign : d ≠ '=' := ne_of_isNameChar hChar (by decide)
    simp [hSign, isBlank_of_isNameChar hChar]
  have hNameStop : ∀ (text : Text) (d : Char), (a.beforeSign ++ '=' :: text).head? = some d →
      (d != '=' && !isBlank d) = false := by
    intro text
    cases hBefore : a.beforeSign with
    | nil => exact Text.stops_of_head? rfl rfl
    | cons b blanks =>
      have hb := h.beforeSign b (by rw [hBefore]; exact List.mem_cons_self)
      exact Text.stops_of_head? rfl (by rw [hb]; exact Bool.and_false _)
  have hSignStop : ∀ (text : Text) (d : Char), ('=' :: text).head? = some d →
      isBlank d = false := fun _ => Text.stops_of_head? rfl rfl
  have hQuoteStop : ∀ (text : Text) (d : Char), (a.quote :: text).head? = some d →
      isBlank d = false := by
    intro text
    refine Text.stops_of_head? rfl ?_
    rcases h.quote with hQuote | hQuote <;> rw [hQuote] <;> rfl
  have hInValue : ∀ d ∈ a.value, (d != a.quote) = true := Text.bne_of_not_mem h.quote_not_mem
  have hValueStop : ∀ (text : Text) (d : Char), (a.quote :: text).head? = some d →
      (d != a.quote) = false := fun _ => Text.stops_of_head? rfl (bne_self_eq_false _)
  simp only [readOne, Cursor.skip_append _ hInName (hNameStop _),
    Cursor.skip_append _ h.beforeSign (hSignStop _),
    Cursor.skip_append _ h.afterSign (hQuoteStop _),
    Cursor.skip_append _ hInValue (hValueStop _), h.quote, if_true,
    Text.takeWhile_append hInName (hNameStop _), Text.takeWhile_append hInValue (hValueStop _)]
  exact ⟨_, by rw [WrittenAttribute.bare, hName]⟩

end

/-- **The attributes of a tag are read as they were written.** -/
theorem readFrom_written {attributes : List WrittenAttribute} {trail : Text}
    (hAll : ∀ a ∈ attributes, a.WellFormed) (hTrail : IsBlanks trail) (read : List Attribute)
    (position : Nat) :
    readFrom read ⟨position, attributes.flatMap WrittenAttribute.text ++ trail⟩ =
      .ok (read.reverse ++ attributes.map WrittenAttribute.bare) := by
  induction attributes generalizing read position with
  | nil =>
    have hSkip : Cursor.skip isBlank ⟨position, trail ++ []⟩ =
        ⟨position + Text.byteLength trail, []⟩ := Cursor.skip_append position hTrail nofun
    rw [List.append_nil] at hSkip
    rw [List.flatMap_nil, List.nil_append, readFrom_eq, hSkip, List.map_nil, List.append_nil]
  | cons a attributes ih =>
    obtain ⟨ha, hRest⟩ := List.forall_mem_cons.mp hAll
    obtain ⟨c, tail, hName⟩ := List.exists_cons_of_ne_nil ha.name.nonempty
    have hChar : isNameChar c = true := ha.name.chars c (by rw [hName]; exact List.mem_cons_self)
    have hText : (a :: attributes).flatMap WrittenAttribute.text ++ trail =
        a.gap ++ (c :: (tail ++ (a.beforeSign ++ '=' :: (a.afterSign ++ a.quote :: (a.value ++
          a.quote :: (attributes.flatMap WrittenAttribute.text ++ trail)))))) := by
      simp only [List.flatMap_cons, WrittenAttribute.text, hName, List.append_assoc,
        List.cons_append, List.nil_append]
    have hStop : ∀ (text : Text) (d : Char), (c :: text).head? = some d → isBlank d = false :=
      fun _ => Text.stops_of_head? rfl (isBlank_of_isNameChar hChar)
    rw [hText, readFrom_eq]
    simp only [Cursor.skip_append _ ha.gap (hStop _)]
    obtain ⟨position', hOne⟩ := readOne_written ha hName
      (position + Text.byteLength a.gap + Text.byteLength [c])
      (attributes.flatMap WrittenAttribute.text ++ trail)
    simp only [hOne]
    rw [ih hRest, List.reverse_cons, List.append_assoc]
    rfl

theorem readAll_written {tag : WrittenTag} (h : tag.WellFormed) :
    readAll tag.name tag.rest = .ok (tag.attributes.map WrittenAttribute.bare) :=
  readFrom_written h.attributes h.trail [] _

end Attribute

end ScreenQuery.Markup
