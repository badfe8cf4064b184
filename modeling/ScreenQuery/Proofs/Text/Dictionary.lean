import ScreenQuery.Text.Dictionary
import Mathlib.Data.String.Basic

/-!
# Dictionaries are in the order of their keys

* `Ordered` is what a dictionary keeps: each key comes before all later ones, so none is there
  twice. Every `insert` leaves it so (`Ordered.insert`).
* A dictionary that is built from its own entries is the same one, and nothing else is
  (`ofList_eq_self_iff`).
-/

namespace ScreenQuery.Dictionary

variable {α : Type} {key : Text} {value : α} {dictionary entries : Dictionary α}

/-- Every key comes before all later ones. -/
def Ordered (dictionary : Dictionary α) : Prop := dictionary.Pairwise fun a b => a.1 < b.1

instance : Decidable (Ordered dictionary) :=
  inferInstanceAs (Decidable (dictionary.Pairwise fun a b => a.1 < b.1))

theorem mem_insert {entry : Text × α} (h : entry ∈ dictionary.insert key value) :
    entry = (key, value) ∨ entry ∈ dictionary := by
  induction dictionary with
  | nil => exact .inl (List.mem_singleton.mp h)
  | cons first rest ih =>
    unfold insert at h
    split at h
    · exact (List.mem_cons.mp h).imp_right (List.mem_cons_of_mem _)
    · split at h
      · exact List.mem_cons.mp h
      · rcases List.mem_cons.mp h with rfl | hRest
        · exact .inr List.mem_cons_self
        · exact (ih hRest).imp_right (List.mem_cons_of_mem _)

theorem Ordered.insert (h : Ordered dictionary) (key : Text) (value : α) :
    Ordered (dictionary.insert key value) := by
  induction dictionary with
  | nil => exact List.pairwise_singleton _ _
  | cons first rest ih =>
    obtain ⟨hFirst, hRest⟩ := List.pairwise_cons.mp h
    unfold Dictionary.insert
    split
    · rename_i hKey
      exact List.pairwise_cons.mpr ⟨hKey ▸ hFirst, hRest⟩
    split
    · rename_i hBefore
      refine List.pairwise_cons.mpr ⟨fun entry hEntry => ?_, h⟩
      rcases List.mem_cons.mp hEntry with rfl | hEntry
      · exact hBefore
      · exact lt_trans hBefore (hFirst entry hEntry)
    · rename_i hOther hBehind
      refine List.pairwise_cons.mpr ⟨fun entry hEntry => ?_, ih hRest⟩
      rcases mem_insert hEntry with rfl | hEntry
      · exact lt_of_le_of_ne (not_lt.mp hBehind) (Ne.symm hOther)
      · exact hFirst entry hEntry

theorem ordered_ofList (entries : List (Text × α)) : Ordered (ofList entries) := by
  have hAll : ∀ dictionary : Dictionary α, Ordered dictionary →
      Ordered (entries.foldl (fun dictionary entry => dictionary.insert entry.1 entry.2)
        dictionary) := by
    induction entries with
    | nil => exact fun dictionary h => h
    | cons entry entries ih => exact fun dictionary h => ih _ (h.insert entry.1 entry.2)
  exact hAll [] List.Pairwise.nil

/-- A key behind all others goes to the end. -/
theorem insert_last (h : ∀ entry ∈ dictionary, entry.1 < key) :
    dictionary.insert key value = dictionary ++ [(key, value)] := by
  induction dictionary with
  | nil => rfl
  | cons first rest ih =>
    have hFirst := h first List.mem_cons_self
    unfold insert
    rw [if_neg (ne_of_gt hFirst), if_neg (not_lt_of_gt hFirst),
      ih fun entry hEntry => h entry (List.mem_cons_of_mem _ hEntry)]
    rfl

theorem foldl_insert_ordered (h : Ordered (dictionary ++ entries)) :
    entries.foldl (fun dictionary entry => dictionary.insert entry.1 entry.2) dictionary =
      dictionary ++ entries := by
  induction entries generalizing dictionary with
  | nil => exact (List.append_nil _).symm
  | cons entry entries ih =>
    have hLast : ∀ earlier ∈ dictionary, earlier.1 < entry.1 := fun earlier hEarlier =>
      (List.pairwise_append.mp h).2.2 earlier hEarlier entry List.mem_cons_self
    rw [List.append_cons] at h ⊢
    rw [List.foldl_cons, insert_last hLast]
    exact ih h

/-- **The dictionary of some entries has them as they are just when they are in order.** -/
theorem ofList_eq_self_iff : ofList entries = entries ↔ Ordered entries := by
  constructor
  · intro h
    rw [← h]
    exact ordered_ofList entries
  · exact fun h => foldl_insert_ordered h

end ScreenQuery.Dictionary
