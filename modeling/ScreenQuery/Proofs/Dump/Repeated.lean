import ScreenQuery.Proofs.Dump.Draft

/-!
# Attributes that are given again

The attributes of a tag may repeat a name. `lastOfEach` keeps the last attribute of each name.

* `ofPairs_eq` says what a draft holds after all attributes: in every field the last value under the
  name of the field, read by itself. So what was given before does not matter, also when the last
  value cannot be read.
* The flags are the exception. A value that is neither `true` nor `false` leaves a flag as it is,
  and so the flag shows the latest truth value that any spelling of it was given (`latestTruth?`),
  not the last value.
* Hence an element is the one that the last attributes make by themselves, but for its flags, and
  these too where the last value of a name is a truth value or no value of it is one
  (`toNode_lastOfEach`).

About `apply_attribute` and `push_node`.
-/

namespace ScreenQuery

namespace Dictionary

variable {α : Type} {key key' : Text} {value : α} {dictionary : Dictionary α}
  {entries : List (Text × α)}

theorem get?_insert (dictionary : Dictionary α) (key : Text) (value : α) (other : Text) :
    (dictionary.insert key value).get? other =
      if other = key then some value else dictionary.get? other := by
  induction dictionary with
  | nil => grind [insert, get?]
  | cons entry rest ih => grind [insert, get?]

/-- A later value of a key replaces the earlier one. -/
theorem insert_insert (dictionary : Dictionary α) (key : Text) (value value' : α) :
    (dictionary.insert key value).insert key value' = dictionary.insert key value' := by
  induction dictionary with
  | nil => simp [insert]
  | cons entry rest ih => grind [insert]

/-- The values of two keys may come in either order. -/
theorem insert_comm (h : key ≠ key') (dictionary : Dictionary α) (value value' : α) :
    (dictionary.insert key value).insert key' value' =
      (dictionary.insert key' value').insert key value := by
  -- the order of the keys decides where each of the two goes
  induction dictionary with
  | nil => grind [insert]
  | cons entry rest ih => grind [insert]

/-- What is inserted before a later value of the same key leaves no trace. -/
theorem foldl_insert_of_mem (h : key ∈ entries.map Prod.fst) (dictionary : Dictionary α)
    (value : α) :
    entries.foldl (fun dictionary entry => dictionary.insert entry.1 entry.2)
        (dictionary.insert key value) =
      entries.foldl (fun dictionary entry => dictionary.insert entry.1 entry.2) dictionary := by
  induction entries generalizing dictionary with
  | nil => exact absurd h List.not_mem_nil
  | cons entry entries ih =>
    rw [List.foldl_cons, List.foldl_cons]
    by_cases hKey : key = entry.1
    · rw [hKey, insert_insert]
    · rw [insert_comm hKey]
      exact ih ((List.mem_cons.mp h).resolve_left hKey) _

end Dictionary

namespace Dump

open Markup (Tag)

variable {α : Type} {pairs : List (Text × Text)} {name : Text}

/-! ## The last attribute of each name -/

/-- Of each name the last attribute only, in their order. -/
def lastOfEach : List (Text × α) → List (Text × α)
  | [] => []
  | pair :: rest =>
    if pair.1 ∈ rest.map Prod.fst then lastOfEach rest else pair :: lastOfEach rest

theorem lastOfEach_cons (pair : Text × α) (rest : List (Text × α)) : lastOfEach (pair :: rest) =
    if pair.1 ∈ rest.map Prod.fst then lastOfEach rest else pair :: lastOfEach rest := rfl

/-- The last value that is given under a name. -/
def lastValue? (name : Text) (pairs : List (Text × Text)) : Option Text :=
  (valuesOf [name] pairs).getLast?

/-- The latest truth value that a spelling of a flag is given. -/
def latestTruth? (flag : Flag) (pairs : List (Text × Text)) : Option Bool :=
  ((valuesOf flag.spellings pairs).filterMap truth?).getLast?

theorem mem_valuesOf_iff {names : List Text} {value : Text} :
    value ∈ valuesOf names pairs ↔ ∃ name ∈ names, (name, value) ∈ pairs := by
  unfold valuesOf
  simp only [List.mem_map, List.mem_filter, List.contains_iff_mem]
  constructor
  · rintro ⟨⟨name, _⟩, ⟨hPair, hName⟩, rfl⟩
    exact ⟨name, hName, hPair⟩
  · rintro ⟨name, hName, hPair⟩
    exact ⟨(name, value), ⟨hPair, hName⟩, rfl⟩

theorem exists_lastValue? (h : name ∈ pairs.map Prod.fst) :
    ∃ value, lastValue? name pairs = some value := by
  rw [← Option.ne_none_iff_exists', lastValue?, Ne, List.getLast?_eq_none_iff, valuesOf_eq_nil_iff]
  exact not_not_intro h

theorem lastValue?_cons (name : Text) (pair : Text × Text) (pairs : List (Text × Text)) :
    lastValue? name (pair :: pairs) =
      if pair.1 = name then some ((lastValue? name pairs).getD pair.2)
      else lastValue? name pairs := by
  unfold lastValue?
  rw [valuesOf_cons]
  by_cases h : pair.1 = name
  · rw [if_pos (List.mem_singleton.mpr h), if_pos h, List.getLast?_cons]
  · rw [if_neg (fun hMem => h (List.mem_singleton.mp hMem)), if_neg h]

theorem lastValue?_lastOfEach (name : Text) (pairs : List (Text × Text)) :
    lastValue? name (lastOfEach pairs) = lastValue? name pairs := by
  induction pairs with
  | nil => rfl
  | cons pair rest ih =>
    rw [lastOfEach_cons]
    split
    · rename_i hAgain
      rw [ih, lastValue?_cons]
      split
      · rename_i hName
        rw [hName] at hAgain
        obtain ⟨value, hValue⟩ := exists_lastValue? hAgain
        rw [hValue, Option.getD_some]
      · rfl
    · rw [lastValue?_cons, lastValue?_cons, ih]

/-- Names are passed over or kept as a whole, before or after the choice of the last. -/
theorem filter_lastOfEach (p : Text → Bool) (pairs : List (Text × α)) :
    (lastOfEach pairs).filter (fun pair => p pair.1) =
      lastOfEach (pairs.filter fun pair => p pair.1) := by
  induction pairs with
  | nil => rfl
  | cons pair rest ih =>
    by_cases hp : p pair.1 = true
    · have hMem : pair.1 ∈ (rest.filter fun pair => p pair.1).map Prod.fst ↔
          pair.1 ∈ rest.map Prod.fst := by
        refine ⟨fun h => List.map_subset _ List.filter_sublist.subset h, fun h => ?_⟩
        obtain ⟨other, hOther, hName⟩ := List.mem_map.mp h
        exact List.mem_map.mpr ⟨other, List.mem_filter.mpr ⟨hOther, hName ▸ hp⟩, hName⟩
      rw [List.filter_cons, if_pos hp]
      rw [lastOfEach_cons, lastOfEach_cons]
      simp only [hMem]
      split
      · exact ih
      · rw [List.filter_cons, if_pos hp, ih]
    · rw [List.filter_cons (x := pair), if_neg hp, ← ih]
      rw [lastOfEach_cons]
      split
      · rfl
      · rw [List.filter_cons, if_neg hp]

theorem ofList_lastOfEach (entries : List (Text × α)) :
    Dictionary.ofList (lastOfEach entries) = Dictionary.ofList entries := by
  have hAll : ∀ dictionary : Dictionary α,
      (lastOfEach entries).foldl (fun dictionary entry => dictionary.insert entry.1 entry.2)
          dictionary =
        entries.foldl (fun dictionary entry => dictionary.insert entry.1 entry.2) dictionary := by
    induction entries with
    | nil => exact fun dictionary => rfl
    | cons entry rest ih =>
      intro dictionary
      rw [lastOfEach_cons]
      split
      · rename_i hAgain
        rw [ih, List.foldl_cons, Dictionary.foldl_insert_of_mem hAgain]
      · exact ih _
  exact hAll []

/-! ## The fields of a draft -/

theorem foldl_overwrite {β : Type} (read : Text → β) (start : β) (values : List Text) :
    values.foldl (fun _ value => read value) start = (values.getLast?.map read).getD start := by
  induction values generalizing start with
  | nil => rfl
  | cons value values ih =>
    rw [List.foldl_cons, ih, List.getLast?_cons]
    cases values.getLast? <;> rfl

theorem foldl_truth (start : Bool) (values : List Text) :
    values.foldl (fun truth value => (truth? value).getD truth) start =
      ((values.filterMap truth?).getLast?).getD start := by
  induction values generalizing start with
  | nil => rfl
  | cons value values ih =>
    rw [List.foldl_cons, ih]
    cases hTruth : truth? value with
    | none => rw [List.filterMap_cons_none hTruth, Option.getD_none]
    | some truth =>
      rw [List.filterMap_cons_some hTruth, List.getLast?_cons, Option.getD_some, Option.getD_some]

/-- **A field shows the last value under its name**, and a flag the latest truth value. -/
theorem ofPairs_eq (pairs : List (Text × Text)) : Draft.ofPairs pairs =
    { className := lastValue? "class" pairs
      index := (lastValue? "index" pairs).bind fun value => Text.uint32? (Text.trim value)
      resourceId := (lastValue? "resource-id" pairs).getD []
      text := (lastValue? "text" pairs).getD []
      description := (lastValue? "content-desc" pairs).getD []
      package := (lastValue? "package" pairs).getD []
      bounds := ((lastValue? "bounds" pairs).bind Bounds.parse?).getD .zero
      flags := .ofFunction fun flag => (latestTruth? flag pairs).getD flag.defaultValue
      extras := .ofList (pairs.filter fun pair => isExtra pair.1) } := by
  have hField : ∀ {β : Type} (name : Text) (read : Text → β) (start : β),
      (valuesOf [name] pairs).foldl (fun _ value => read value) start =
        ((lastValue? name pairs).map read).getD start :=
    fun name read start => foldl_overwrite read start (valuesOf [name] pairs)
  have hFlags : ∀ flag : Flag, Draft.blank.flags.get flag = flag.defaultValue :=
    Flags.get_ofFunction _
  unfold Draft.ofPairs
  rw [Draft.foldl_apply_eq]
  simp only [Draft.gather, hField, foldl_truth, hFlags]
  rw [Draft.mk.injEq]
  refine ⟨?_, ?_, ?_, ?_, ?_, ?_, ?_, rfl, rfl⟩
  all_goals
    generalize lastValue? _ pairs = value
    cases value <;> rfl

/-! ## Flags -/

/-- If the last value of a name is no truth value, no value of it is one. -/
def LastDecides (name : Text) (pairs : List (Text × Text)) : Prop :=
  (lastValue? name pairs).bind truth? = none → ∀ value ∈ valuesOf [name] pairs, truth? value = none

instance (name : Text) (pairs : List (Text × Text)) : Decidable (LastDecides name pairs) :=
  inferInstanceAs (Decidable (_ → _))

theorem latestTruth?_cons (flag : Flag) (pair : Text × Text) (pairs : List (Text × Text)) :
    latestTruth? flag (pair :: pairs) =
      if pair.1 ∈ flag.spellings then
        ((truth? pair.2).map (latestTruth? flag pairs).getD).orElse fun _ => latestTruth? flag pairs
      else latestTruth? flag pairs := by
  unfold latestTruth?
  rw [valuesOf_cons]
  split
  · cases hTruth : truth? pair.2 with
    | none => rw [List.filterMap_cons_none hTruth]; rfl
    | some truth => rw [List.filterMap_cons_some hTruth, List.getLast?_cons]; rfl
  · rfl

theorem latestTruth?_ne_none {flag : Flag} {value : Text} (hName : name ∈ flag.spellings)
    (hPair : (name, value) ∈ pairs) (hTruth : truth? value ≠ none) :
    latestTruth? flag pairs ≠ none := by
  obtain ⟨truth, hTruth⟩ := Option.ne_none_iff_exists'.mp hTruth
  have hMem : truth ∈ (valuesOf flag.spellings pairs).filterMap truth? :=
    List.mem_filterMap.mpr ⟨value, mem_valuesOf_iff.mpr ⟨name, hName, hPair⟩, hTruth⟩
  rw [latestTruth?, Ne, List.getLast?_eq_none_iff]
  exact List.ne_nil_of_mem hMem

theorem LastDecides.of_cons {pair : Text × Text} (h : LastDecides name (pair :: pairs)) :
    LastDecides name pairs := by
  intro hLast value hValue
  have hAgain : name ∈ pairs.map Prod.fst := by
    by_contra hNot
    rw [valuesOf_eq_nil_iff.mpr hNot] at hValue
    cases hValue
  obtain ⟨last, hSome⟩ := exists_lastValue? hAgain
  have hSame : lastValue? name (pair :: pairs) = some last := by
    rw [lastValue?_cons, hSome]
    exact ite_self _
  rw [hSome] at hLast
  rw [LastDecides, hSame] at h
  obtain ⟨other, hOther, hPair⟩ := mem_valuesOf_iff.mp hValue
  exact h hLast value (mem_valuesOf_iff.mpr ⟨other, hOther, List.mem_cons_of_mem _ hPair⟩)

/-- Where last values settle the matter, the last attributes have the latest truth value. -/
theorem latestTruth?_lastOfEach {flag : Flag}
    (h : ∀ name ∈ flag.spellings, LastDecides name pairs) :
    latestTruth? flag (lastOfEach pairs) = latestTruth? flag pairs := by
  induction pairs with
  | nil => rfl
  | cons pair rest ih =>
    have ih := ih fun name hName => (h name hName).of_cons
    rw [lastOfEach_cons]
    split
    · rename_i hAgain
      rw [ih, latestTruth?_cons]
      split
      · rename_i hName
        cases hTruth : truth? pair.2 with
        | none => rfl
        | some truth =>
          -- the value that is given again later is a truth value, too
          obtain ⟨last, hLast⟩ := exists_lastValue? hAgain
          have hSame : lastValue? pair.1 (pair :: rest) = some last := by
            rw [lastValue?_cons, if_pos rfl, hLast, Option.getD_some]
          have hDecides := h pair.1 hName
          rw [LastDecides, hSame] at hDecides
          have hLastTruth : truth? last ≠ none := fun hNone => by
            have hPair := hDecides hNone pair.2
              (mem_valuesOf_iff.mpr ⟨pair.1, List.mem_singleton_self _, List.mem_cons_self⟩)
            rw [hTruth] at hPair
            cases hPair
          obtain ⟨name, hEq, hPair⟩ := mem_valuesOf_iff.mp (List.mem_of_getLast? hLast)
          obtain rfl := List.mem_singleton.mp hEq
          obtain ⟨latest, hLatest⟩ :=
            Option.ne_none_iff_exists'.mp (latestTruth?_ne_none hName hPair hLastTruth)
          rw [hLatest]
          rfl
      · rfl
    · rw [latestTruth?_cons, latestTruth?_cons, ih]

/-! ## Elements -/

/-- All of a draft but its flags comes from the last attribute of each name. -/
theorem ofPairs_lastOfEach (pairs : List (Text × Text)) : Draft.ofPairs (lastOfEach pairs) =
    { Draft.ofPairs pairs with flags := (Draft.ofPairs (lastOfEach pairs)).flags } := by
  simp only [ofPairs_eq, lastValue?_lastOfEach, filter_lastOfEach isExtra, ofList_lastOfEach]

theorem get_flags_ofPairs (pairs : List (Text × Text)) (flag : Flag) :
    (Draft.ofPairs pairs).flags.get flag = (latestTruth? flag pairs).getD flag.defaultValue := by
  rw [ofPairs_eq]
  exact Flags.get_ofFunction _ flag

/-- **Of an attribute that is given again, the last value counts**, for everything but the flags. A
flag shows the latest truth value that it is given, and passes over other values. So the last
attributes make the same element when the last value under each name of a flag is a truth value, or
none under that name is. -/
theorem toNode_lastOfEach (pairs : List (Text × Text)) (tag : Tag) (slot : Slot) :
    let whole := (Draft.ofPairs pairs).toNode tag slot
    let last := (Draft.ofPairs (lastOfEach pairs)).toNode tag slot
    last = { whole with flags := last.flags } ∧
    (∀ flag, whole.flag flag = (latestTruth? flag pairs).getD flag.defaultValue ∧
      last.flag flag = (latestTruth? flag (lastOfEach pairs)).getD flag.defaultValue) ∧
    ((∀ flag : Flag, ∀ name ∈ flag.spellings, LastDecides name pairs) → last = whole) := by
  intro whole last
  have hRest : last = { whole with flags := last.flags } := by
    show (Draft.ofPairs (lastOfEach pairs)).toNode tag slot = _
    rw [ofPairs_lastOfEach]
    rfl
  have hFlags : ∀ flag, whole.flag flag = (latestTruth? flag pairs).getD flag.defaultValue ∧
      last.flag flag = (latestTruth? flag (lastOfEach pairs)).getD flag.defaultValue :=
    fun flag => ⟨get_flags_ofPairs pairs flag, get_flags_ofPairs (lastOfEach pairs) flag⟩
  refine ⟨hRest, hFlags, fun hDecides => ?_⟩
  have hSame : last.flags = whole.flags := by
    refine Flags.ext_get fun flag => ?_
    calc last.flag flag
      _ = (latestTruth? flag (lastOfEach pairs)).getD flag.defaultValue := (hFlags flag).2
      _ = (latestTruth? flag pairs).getD flag.defaultValue := by
        rw [latestTruth?_lastOfEach (hDecides flag)]
      _ = whole.flag flag := (hFlags flag).1.symm
  rw [hRest, hSame]

/-- Values of all kinds are given again, some of them unreadable. -/
def manyTimes : List (Text × Text) :=
  [("text", "a"), ("index", "7"), ("visible", "false"), ("clickable", "no"),
    ("bounds", "[0,0][4,2]"), ("text", "b"), ("hint", "x"), ("bounds", "[0,0]"),
    ("clickable", "yes"), ("hint", "y"), ("visible-to-user", "x"), ("index", "-"),
    ("visible", "true")]

theorem toNode_lastOfEach_manyTimes :
    (∀ flag : Flag, ∀ name ∈ flag.spellings, LastDecides name manyTimes) ∧
      (Draft.ofPairs (lastOfEach manyTimes)).toNode ⟨"a", []⟩ .root =
        (Draft.ofPairs manyTimes).toNode ⟨"a", []⟩ .root := by
  have hDecides : ∀ flag : Flag, ∀ name ∈ flag.spellings, LastDecides name manyTimes := by
    intro flag
    cases flag <;> decide +kernel
  exact ⟨hDecides, (toNode_lastOfEach manyTimes ⟨"a", []⟩ .root).2.2 hDecides⟩

/-- A later value that is no truth value does not count: the flag stays as it was set before, and
not at its default, which the last attribute by itself leaves it at. -/
theorem clickable_of_unread_value :
    let pairs : List (Text × Text) := [("clickable", "true"), ("clickable", "yes")]
    lastOfEach pairs = ([("clickable", "yes")] : List (Text × Text)) ∧
      ((Draft.ofPairs pairs).toNode ⟨"a", []⟩ .root).flag .clickable = true ∧
      ((Draft.ofPairs (lastOfEach pairs)).toNode ⟨"a", []⟩ .root).flag .clickable = false ∧
      (parse 1 "<a clickable=\"true\" clickable=\"yes\"/>").nodes.map (Node.flag · .clickable) =
        #[true] ∧
      (parse 1 "<a clickable=\"yes\"/>").nodes.map (Node.flag · .clickable) = #[false] := by
  decide +kernel

end Dump

end ScreenQuery
