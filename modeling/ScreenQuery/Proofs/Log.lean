/-!
# Logs

* A log is a list that grows at its end, so an entry keeps its place.
* `Latest` is the last entry with some property.
-/

namespace ScreenQuery

variable {α : Type} {log : List α} {last x : α} {k : Nat}

/-- An entry of a longer log is the last one or one of the shorter log. -/
theorem getElem?_snoc_cases (h : (log ++ [last])[k]? = some x) :
    (k = log.length ∧ x = last) ∨ (k < log.length ∧ log[k]? = some x) := by
  have hlt : k < (log ++ [last]).length := (List.getElem?_eq_some_iff.mp h).1
  rw [List.length_append, List.length_singleton] at hlt
  rcases Nat.lt_succ_iff_lt_or_eq.mp hlt with hlt | rfl
  · rw [List.getElem?_append_left hlt] at h
    exact Or.inr ⟨hlt, h⟩
  · rw [List.getElem?_concat_length] at h
    exact Or.inl ⟨rfl, (Option.some.inj h).symm⟩

theorem getElem?_snoc (h : log[k]? = some x) : (log ++ [last])[k]? = some x := by
  rw [List.getElem?_append_left (List.getElem?_eq_some_iff.mp h).1]
  exact h

/-- No entry after some place has a property. -/
def NoneAfter (p : α → Prop) (log : List α) (m : Nat) : Prop :=
  ∀ i other, m < i → log[i]? = some other → ¬ p other

/-- An entry of a longer log that is followed by none with a property. -/
theorem noneAfter_snoc_cases {p : α → Prop} (hGet : (log ++ [last])[k]? = some x)
    (h : NoneAfter p (log ++ [last]) k) :
    (k = log.length ∧ x = last) ∨ (log[k]? = some x ∧ NoneAfter p log k ∧ ¬ p last) := by
  rcases getElem?_snoc_cases hGet with hLast | ⟨hlt, hGet⟩
  · exact Or.inl hLast
  · exact Or.inr ⟨hGet, fun i other hi hOther => h i other hi (getElem?_snoc hOther),
      h log.length last hlt List.getElem?_concat_length⟩

/-- The last entry with a property, and where it is. -/
structure Latest (p : α → Prop) (log : List α) (m : Nat) (x : α) : Prop where
  get : log[m]? = some x
  holds : p x
  later : ∀ i other, m < i → log[i]? = some other → ¬ p other

namespace Latest

variable {p : α → Prop} {m n : Nat} {y : α}

theorem snoc (h : Latest p log m x) (hLast : ¬ p last) : Latest p (log ++ [last]) m x := by
  refine ⟨getElem?_snoc h.get, h.holds, fun i other hi hOther => ?_⟩
  rcases getElem?_snoc_cases hOther with ⟨-, rfl⟩ | ⟨-, hOther⟩
  · exact hLast
  · exact h.later i other hi hOther

theorem self (hLast : p last) : Latest p (log ++ [last]) log.length last := by
  refine ⟨List.getElem?_concat_length, hLast, fun i other hi hOther => ?_⟩
  rcases getElem?_snoc_cases hOther with ⟨rfl, -⟩ | ⟨hlt, -⟩
  · exact absurd hi (Nat.lt_irrefl _)
  · exact absurd hi (Nat.not_lt_of_gt hlt)

theorem of_snoc (h : Latest p (log ++ [last]) m x) (hLast : ¬ p last) : Latest p log m x := by
  rcases getElem?_snoc_cases h.get with ⟨-, rfl⟩ | ⟨-, hGet⟩
  · exact absurd h.holds hLast
  · exact ⟨hGet, h.holds, fun i other hi hOther => h.later i other hi (getElem?_snoc hOther)⟩

/-- An entry with the property is not after the latest. -/
theorem le_of_holds (h : Latest p log m x) (hGet : log[n]? = some y) (hy : p y) : n ≤ m :=
  Nat.le_of_not_lt fun hlt => h.later n y hlt hGet hy

theorem unique (h : Latest p log m x) (h' : Latest p log n y) : m = n ∧ x = y := by
  obtain rfl : m = n :=
    Nat.le_antisymm (h'.le_of_holds h.get h.holds) (h.le_of_holds h'.get h'.holds)
  exact ⟨rfl, Option.some.inj (h.get.symm.trans h'.get)⟩

end Latest

end ScreenQuery
