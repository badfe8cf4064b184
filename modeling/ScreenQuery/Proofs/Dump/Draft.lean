import ScreenQuery.Dump
import Mathlib.Data.List.Nodup

/-!
# What a draft keeps of its attributes

* `Applied` lists what one attribute can change (`Draft.applied_apply`). From it follows what all of
  them make together: every field depends on the values under its own names alone, in their order
  (`Draft.gather`, `Draft.foldl_apply_eq`).
* A tag gives the names of its attributes and their decoded values (`pairsOf`, `ofTag_eq_ok`).
* When no name is given twice and no flag in two spellings (`Unambiguous`), a field has the one
  value that is there for it, or its default (`Draft.Shows`, `shows_ofPairs`).
-/

namespace ScreenQuery

namespace Dictionary

variable {α : Type} {key : Text} {value : α} {dictionary : Dictionary α}

/-- A new key makes one more entry. -/
theorem perm_insert (h : key ∉ dictionary.map Prod.fst) :
    (dictionary.insert key value).Perm ((key, value) :: dictionary) := by
  induction dictionary with
  | nil => exact List.Perm.refl _
  | cons entry rest ih =>
    obtain ⟨k, v⟩ := entry
    rw [List.map_cons, List.mem_cons, not_or] at h
    unfold insert
    rw [if_neg h.1]
    split
    · exact List.Perm.refl _
    · exact ((ih h.2).cons _).trans (List.Perm.swap _ _ _)

/-- Distinct new keys make as many entries. -/
theorem perm_foldl_insert {entries : List (Text × α)}
    (h : ((dictionary ++ entries).map Prod.fst).Nodup) :
    (entries.foldl (fun dictionary entry => dictionary.insert entry.1 entry.2) dictionary).Perm
      (dictionary ++ entries) := by
  induction entries generalizing dictionary with
  | nil => rw [List.append_nil]; exact List.Perm.refl _
  | cons entry entries ih =>
    have hMiddle : (dictionary ++ entry :: entries).Perm ((entry :: dictionary) ++ entries) :=
      List.perm_middle
    have hNodup := (hMiddle.map Prod.fst).nodup_iff.mp h
    have hNew : entry.1 ∉ dictionary.map Prod.fst := by
      rw [List.cons_append, List.map_cons, List.nodup_cons] at hNodup
      exact fun hMem => hNodup.1 (by rw [List.map_append]; exact List.mem_append_left _ hMem)
    have hInsert : (dictionary.insert entry.1 entry.2).Perm (entry :: dictionary) :=
      perm_insert hNew
    have hAll := hInsert.append_right entries
    rw [List.foldl_cons]
    exact ((ih (((hAll.map Prod.fst).nodup_iff).mpr hNodup)).trans hAll).trans hMiddle.symm

end Dictionary

namespace Flag

theorem ofName?_eq_some_iff {name : Text} {flag : Flag} :
    ofName? name = some flag ↔ name ∈ flag.spellings := by
  constructor
  · intro h
    have hFound := List.find?_some h
    simpa using hFound
  · intro h
    have hAll : ∀ name ∈ flag.spellings, ofName? name = some flag := by
      cases flag <;> decide
    exact hAll name h

end Flag

namespace Dump

open Markup (Tag Attribute)

variable {pairs : List (Text × Text)} {name value : Text} {draft : Draft}

/-- The names that lead to a field of its own, but for the flags. -/
def fieldNames : List Text :=
  ["class", "resource-id", "text", "content-desc", "package", "index", "bounds"]

/-- The attribute has no field of its own. -/
def isExtra (name : Text) : Bool := (Flag.ofName? name).isNone && !fieldNames.contains name

theorem not_mem_fieldNames {flag : Flag} (h : name ∈ flag.spellings) : name ∉ fieldNames := by
  have hAll : ∀ name ∈ flag.spellings, name ∉ fieldNames := by
    cases flag <;> decide
  exact hAll name h

theorem isExtra_iff :
    isExtra name = true ↔ (∀ flag : Flag, name ∉ flag.spellings) ∧ name ∉ fieldNames := by
  unfold isExtra
  rw [Bool.and_eq_true, Option.isNone_iff_eq_none, Option.eq_none_iff_forall_not_mem]
  simp [Flag.ofName?_eq_some_iff]

/-- What an attribute may change in a draft: the field of its name, and nothing else. -/
inductive Draft.Applied (draft : Draft) (value : Text) : (name : Text) → Draft → Prop
  | flag {name : Text} (flag : Flag) (h : name ∈ flag.spellings) :
      Applied draft value name { draft with flags := setFlag draft.flags flag value }
  | className : Applied draft value "class" { draft with className := some value }
  | resourceId : Applied draft value "resource-id" { draft with resourceId := value }
  | text : Applied draft value "text" { draft with text := value }
  | description : Applied draft value "content-desc" { draft with description := value }
  | package : Applied draft value "package" { draft with package := value }
  | index : Applied draft value "index" { draft with index := Text.uint32? (Text.trim value) }
  | bounds : Applied draft value "bounds" { draft with bounds := (Bounds.parse? value).getD .zero }
  | extra {name : Text} (h : isExtra name = true) :
      Applied draft value name { draft with extras := draft.extras.insert name value }

theorem Draft.applied_apply (draft : Draft) (name value : Text) :
    Applied draft value name (draft.apply name value) := by
  unfold Draft.apply
  cases hFlag : Flag.ofName? name with
  | some flag => exact .flag flag (Flag.ofName?_eq_some_iff.mp hFlag)
  | none =>
    by_cases hField : name ∈ fieldNames
    · unfold fieldNames at hField
      simp only [List.mem_cons, List.not_mem_nil, or_false] at hField
      rcases hField with rfl | rfl | rfl | rfl | rfl | rfl | rfl
      · exact .className
      · exact .resourceId
      · exact .text
      · exact .description
      · exact .package
      · exact .index
      · exact .bounds
    · have hExtra : isExtra name = true := by
        rw [isExtra, hFlag]
        simpa using hField
      simp only [fieldNames, List.mem_cons, List.not_mem_nil, or_false, not_or] at hField
      obtain ⟨h1, h2, h3, h4, h5, h6, h7⟩ := hField
      simp only [if_neg h1, if_neg h2, if_neg h3, if_neg h4, if_neg h5, if_neg h6, if_neg h7]
      exact .extra hExtra

/-! ## What all attributes make together -/

/-- The values that are given under one of some names, in their order. -/
def valuesOf (names : List Text) (pairs : List (Text × Text)) : List Text :=
  (pairs.filter fun pair => names.contains pair.1).map Prod.snd

/-- The truth value that a literal denotes. -/
def truth? (value : Text) : Option Bool :=
  if value = "true" then some true else if value = "false" then some false else none

theorem valuesOf_cons (names : List Text) : valuesOf names ((name, value) :: pairs) =
    if name ∈ names then value :: valuesOf names pairs else valuesOf names pairs := by
  unfold valuesOf
  by_cases h : name ∈ names
  · rw [if_pos h, List.filter_cons_of_pos (by simpa using h), List.map_cons]
  · rw [if_neg h, List.filter_cons_of_neg (by simpa using h)]

theorem valuesOf_eq_nil_iff : valuesOf [name] pairs = [] ↔ name ∉ pairs.map Prod.fst := by
  unfold valuesOf
  rw [List.map_eq_nil_iff, List.filter_eq_nil_iff]
  constructor
  · intro h hMem
    obtain ⟨pair, hPair, rfl⟩ := List.mem_map.mp hMem
    exact h pair hPair (by simp)
  · intro h pair hPair hName
    have hEq : pair.1 = name := by simpa using hName
    exact h (hEq ▸ List.mem_map_of_mem hPair)

theorem get_setFlag (flags : Flags) (flag other : Flag) (value : Text) :
    (setFlag flags flag value).get other =
      if other = flag then (truth? value).getD (flags.get other) else flags.get other := by
  unfold setFlag truth?
  by_cases hTrue : value = "true"
  · simp only [if_pos hTrue, Flags.get_set, Option.getD_some]
  · by_cases hFalse : value = "false"
    · simp only [if_neg hTrue, if_pos hFalse, Flags.get_set, Option.getD_some]
    · simp only [if_neg hTrue, if_neg hFalse, Option.getD_none, ite_self]

/-- The draft with the last value that each field is given. -/
def Draft.gather (draft : Draft) (pairs : List (Text × Text)) : Draft where
  className := (valuesOf ["class"] pairs).foldl (fun _ value => some value) draft.className
  index := (valuesOf ["index"] pairs).foldl (fun _ value => Text.uint32? (Text.trim value))
    draft.index
  resourceId := (valuesOf ["resource-id"] pairs).foldl (fun _ value => value) draft.resourceId
  text := (valuesOf ["text"] pairs).foldl (fun _ value => value) draft.text
  description := (valuesOf ["content-desc"] pairs).foldl (fun _ value => value) draft.description
  package := (valuesOf ["package"] pairs).foldl (fun _ value => value) draft.package
  bounds := (valuesOf ["bounds"] pairs).foldl
    (fun _ value => (Bounds.parse? value).getD .zero) draft.bounds
  flags := .ofFunction fun flag => (valuesOf flag.spellings pairs).foldl
    (fun truth value => (truth? value).getD truth) (draft.flags.get flag)
  extras := (pairs.filter fun pair => isExtra pair.1).foldl
    (fun extras pair => extras.insert pair.1 pair.2) draft.extras

theorem Draft.gather_apply (draft : Draft) (name value : Text) (pairs : List (Text × Text)) :
    (draft.apply name value).gather pairs = draft.gather ((name, value) :: pairs) := by
  have hApplied := draft.applied_apply name value
  have hNoFlag : name ∈ fieldNames → ∀ flag : Flag, name ∉ flag.spellings :=
    fun hField flag hFlag => not_mem_fieldNames hFlag hField
  have hNoExtra : name ∈ fieldNames → isExtra name = false :=
    fun hField => Bool.eq_false_iff.mpr fun hExtra => (isExtra_iff.mp hExtra).2 hField
  generalize draft.apply name value = after at hApplied
  cases hApplied with
  | flag flag hFlag =>
    have hExtra : isExtra name = false :=
      Bool.eq_false_iff.mpr fun hExtra => (isExtra_iff.mp hExtra).1 flag hFlag
    have hFields := not_mem_fieldNames hFlag
    simp only [fieldNames, List.mem_cons, List.not_mem_nil, or_false, not_or] at hFields
    have hFlags : ∀ other : Flag, name ∈ other.spellings ↔ other = flag := by
      intro other
      rw [← Flag.ofName?_eq_some_iff, Flag.ofName?_eq_some_iff.mpr hFlag, Option.some.injEq]
      exact eq_comm
    simp only [Draft.gather, valuesOf_cons, List.mem_singleton, hFields, hExtra, List.filter_cons,
      if_false, get_setFlag, Bool.false_eq_true, mk.injEq, true_and, and_true]
    congr 1
    funext other
    by_cases hOther : other = flag
    · rw [if_pos hOther, if_pos ((hFlags other).mpr hOther), List.foldl_cons]
    · rw [if_neg hOther, if_neg fun hMem => hOther ((hFlags other).mp hMem)]
  | extra hExtra =>
    obtain ⟨hFlags, hFields⟩ := isExtra_iff.mp hExtra
    simp only [fieldNames, List.mem_cons, List.not_mem_nil, or_false, not_or] at hFields
    simp only [Draft.gather, valuesOf_cons, List.mem_singleton, hFlags, hFields, hExtra,
      List.filter_cons, if_true, if_false, List.foldl_cons]
  | _ =>
    have hFlags := hNoFlag (by decide)
    have hExtra := hNoExtra (by decide)
    simp only [Draft.gather, valuesOf_cons, List.mem_singleton, String.toList_inj, String.reduceEq,
      hFlags, hExtra, Bool.false_eq_true, List.filter_cons, if_true, if_false, List.foldl_cons]

theorem Draft.foldl_apply_eq (draft : Draft) (pairs : List (Text × Text)) :
    pairs.foldl (fun draft pair => draft.apply pair.1 pair.2) draft = draft.gather pairs := by
  induction pairs generalizing draft with
  | nil =>
    have hFlags : Flags.ofFunction draft.flags.get = draft.flags :=
      Flags.ext_get fun flag => Flags.get_ofFunction _ flag
    simp only [Draft.gather, valuesOf, List.filter_nil, List.map_nil, List.foldl_nil, hFlags]
  | cons pair pairs ih => rw [List.foldl_cons, ih, Draft.gather_apply]

/-! ## The draft of a tag -/

/-- The names of the attributes of a tag and their values, as they are read. -/
def pairsOf (attributes : List Attribute) : List (Text × Text) :=
  attributes.map fun one => (one.name, Markup.decode one.value)

theorem ofTag_eq_ok {tag : Tag} {attributes : List Attribute}
    (hRead : Attribute.readAll tag.name tag.rest = .ok attributes) :
    Draft.ofTag tag = .ok (.ofPairs (pairsOf attributes)) := by
  unfold Draft.ofTag
  rw [hRead]
  rfl

/-- What no attribute takes away from a draft holds of every draft of a tag. -/
theorem Draft.kept_ofTag {P : Draft → Prop} (hBlank : P .blank)
    (hApplied : ∀ {draft after : Draft} {name value : Text}, draft.Applied value name after →
      P draft → P after) {tag : Tag} (h : Draft.ofTag tag = .ok draft) : P draft := by
  have hAll : ∀ (pairs : List (Text × Text)) (draft : Draft), P draft →
      P (pairs.foldl (fun draft pair => draft.apply pair.1 pair.2) draft) := by
    intro pairs
    induction pairs with
    | nil => exact fun draft hDraft => hDraft
    | cons pair pairs ih =>
      exact fun draft hDraft => ih _ (hApplied (draft.applied_apply pair.1 pair.2) hDraft)
  unfold Draft.ofTag at h
  split at h
  · cases h
  · cases h
    exact hAll _ .blank hBlank

/-! ## Attributes that leave no choice -/

/-- No name is given twice, and no flag in two spellings. -/
structure Unambiguous (pairs : List (Text × Text)) : Prop where
  distinct : (pairs.map Prod.fst).Nodup
  one_spelling : ∀ flag ∈ Flag.all, (valuesOf flag.spellings pairs).length ≤ 1

instance (pairs : List (Text × Text)) : Decidable (Unambiguous pairs) :=
  decidable_of_iff ((pairs.map Prod.fst).Nodup ∧
      ∀ flag ∈ Flag.all, (valuesOf flag.spellings pairs).length ≤ 1)
    ⟨fun h => ⟨h.1, h.2⟩, fun h => ⟨h.distinct, h.one_spelling⟩⟩

/-- The value that is given under one of some names. -/
def value? (names : List Text) (pairs : List (Text × Text)) : Option Text :=
  (valuesOf names pairs).head?

/-- The draft shows each value in its field, and the default in a field for which there is none. -/
structure Draft.Shows (draft : Draft) (pairs : List (Text × Text)) : Prop where
  className : draft.className = value? ["class"] pairs
  index : draft.index = (value? ["index"] pairs).bind fun value => Text.uint32? (Text.trim value)
  resourceId : draft.resourceId = (value? ["resource-id"] pairs).getD []
  text : draft.text = (value? ["text"] pairs).getD []
  description : draft.description = (value? ["content-desc"] pairs).getD []
  package : draft.package = (value? ["package"] pairs).getD []
  bounds : draft.bounds = ((value? ["bounds"] pairs).bind Bounds.parse?).getD .zero
  flags : ∀ flag, draft.flags.get flag =
    ((value? flag.spellings pairs).bind truth?).getD flag.defaultValue
  extras : draft.extras.Perm (pairs.filter fun pair => isExtra pair.1)

theorem length_valuesOf_le (h : (pairs.map Prod.fst).Nodup) (name : Text) :
    (valuesOf [name] pairs).length ≤ 1 := by
  induction pairs with
  | nil => exact Nat.zero_le 1
  | cons pair pairs ih =>
    rw [List.map_cons, List.nodup_cons] at h
    rw [valuesOf_cons]
    split
    · rename_i hName
      obtain rfl := List.mem_singleton.mp hName
      rw [valuesOf_eq_nil_iff.mpr h.1]
      exact Nat.le_refl 1
    · exact ih h.2

theorem foldl_of_length_le {β : Type} {values : List Text} (h : values.length ≤ 1)
    (update : β → Text → β) (start : β) :
    values.foldl update start = (values.head?.map (update start)).getD start := by
  match values, h with
  | [], _ => rfl
  | [_], _ => rfl

/-- **Attributes that leave no choice are shown as they are.** -/
theorem shows_ofPairs (h : Unambiguous pairs) : (Draft.ofPairs pairs).Shows pairs := by
  have hField : ∀ {β : Type} (name : Text) (update : β → Text → β) (start : β),
      (valuesOf [name] pairs).foldl update start =
        ((value? [name] pairs).map (update start)).getD start :=
    fun name update start => foldl_of_length_le (length_valuesOf_le h.distinct name) update start
  unfold Draft.ofPairs
  rw [Draft.foldl_apply_eq]
  constructor
  case className =>
    simp only [Draft.gather, hField]
    cases value? ["class"] pairs <;> rfl
  case index =>
    simp only [Draft.gather, hField]
    cases value? ["index"] pairs <;> rfl
  case resourceId =>
    simp only [Draft.gather, hField]
    cases value? ["resource-id"] pairs <;> rfl
  case text =>
    simp only [Draft.gather, hField]
    cases value? ["text"] pairs <;> rfl
  case description =>
    simp only [Draft.gather, hField]
    cases value? ["content-desc"] pairs <;> rfl
  case package =>
    simp only [Draft.gather, hField]
    cases value? ["package"] pairs <;> rfl
  case bounds =>
    simp only [Draft.gather, hField]
    cases value? ["bounds"] pairs <;> rfl
  case flags =>
    intro flag
    have hOne : (valuesOf flag.spellings pairs).length ≤ 1 :=
      h.one_spelling flag (by cases flag <;> decide)
    simp only [Draft.gather, Flags.get_ofFunction, foldl_of_length_le hOne]
    have hDefault : Draft.blank.flags.get flag = flag.defaultValue := Flags.get_ofFunction _ flag
    rw [hDefault]
    unfold value?
    cases (valuesOf flag.spellings pairs).head? <;> rfl
  case extras =>
    have hNodup : ((pairs.filter fun pair => isExtra pair.1).map Prod.fst).Nodup :=
      h.distinct.sublist (List.filter_sublist.map Prod.fst)
    exact Dictionary.perm_foldl_insert hNodup

end Dump

end ScreenQuery
