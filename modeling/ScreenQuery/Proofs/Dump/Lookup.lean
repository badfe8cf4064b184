import ScreenQuery.Proofs.Dump.Rectangles
import ScreenQuery.Proofs.Dump.Repeated
import ScreenQuery.Selector.Shorthand

/-!
# The attributes of a dump, looked up by name

A dump has one name for each attribute. A lookup has further names for the description, the resource
id and the class, and takes them before it turns to the attributes that have no field.

* `furtherNames` lists them, each with the name in a dump of what a lookup finds under it
  (`dumpName`). What it finds is the last value under that name, or what an element shows without
  one (`attribute?_toNode`).
* So any other name leads to the value that the tag gives it. A value that a tag gives under a
  further name is kept among the extra attributes, where no lookup gets to it (`Answers`,
  `answers_push`).

About `apply_attribute` and `attribute` of `Node`.
-/

namespace ScreenQuery.Dump

open Markup (Event Tag Attribute)

variable {nodes after : Array Node} {opened : List NodeId} {tag : Tag} {draft : Draft}
  {pairs : List (Text × Text)} {name value : Text}

/-! ## Extra attributes -/

theorem get?_ofList (entries : List (Text × Text)) (key : Text) :
    (Dictionary.ofList entries).get? key = lastValue? key entries := by
  have hAll : ∀ dictionary : Dictionary Text,
      Dictionary.get? (entries.foldl (fun dictionary entry => dictionary.insert entry.1 entry.2)
          dictionary) key =
        (lastValue? key entries).or (dictionary.get? key) := by
    induction entries with
    | nil => exact fun dictionary => rfl
    | cons entry rest ih =>
      intro dictionary
      rw [List.foldl_cons, ih, Dictionary.get?_insert, lastValue?_cons]
      by_cases hKey : entry.1 = key
      · rw [if_pos hKey, if_pos hKey.symm]
        cases lastValue? key rest <;> rfl
      · rw [if_neg hKey, if_neg (Ne.symm hKey)]
  exact (hAll []).trans Option.or_none

theorem lastValue?_filter {p : Text → Bool} (h : p name = true) (pairs : List (Text × Text)) :
    lastValue? name (pairs.filter fun pair => p pair.1) = lastValue? name pairs := by
  induction pairs with
  | nil => rfl
  | cons pair rest ih =>
    rw [List.filter_cons]
    split
    · rw [lastValue?_cons, lastValue?_cons, ih]
    · rename_i hNot
      have hName : pair.1 ≠ name := fun hEq => hNot (hEq ▸ h)
      rw [lastValue?_cons, if_neg hName, ih]

theorem isExtra_of_not_mem (hFlag : Flag.ofName? name = none) (hField : name ∉ fieldNames) :
    isExtra name = true := by
  rw [isExtra, hFlag]
  simpa using hField

/-- An attribute without a field is kept under its name. -/
theorem get?_extras_ofPairs (h : isExtra name = true) (pairs : List (Text × Text)) :
    (Draft.ofPairs pairs).extras.get? name = lastValue? name pairs := by
  rw [ofPairs_eq]
  exact (get?_ofList _ name).trans (lastValue?_filter h pairs)

/-! ## The two tables of names -/

/-- The name in a dump of what a lookup finds under a name. -/
def dumpName (name : Text) : Text :=
  if Node.descriptionNames.contains name then "content-desc"
  else if Node.resourceIdNames.contains name then "resource-id"
  else if Node.classNames.contains name then "class"
  else name

/-- The further names of a lookup, each with the name that a dump has for the attribute. -/
def furtherNames : List (Text × Text) :=
  [("contentDesc", "content-desc"), ("description", "content-desc"), ("desc", "content-desc"),
    ("resourceId", "resource-id"), ("id", "resource-id"), ("className", "class")]

theorem dumpName_of_mem : ∀ entry ∈ furtherNames, dumpName entry.1 = entry.2 := by
  decide +kernel

/-- What is no further name has its own place in a dump. -/
theorem dumpName_of_not_mem (h : name ∉ furtherNames.map Prod.fst) : dumpName name = name := by
  simp only [furtherNames, List.map_cons, List.map_nil, List.mem_cons, List.not_mem_nil, or_false,
    not_or] at h
  obtain ⟨hContentDesc, hDescription, hDesc, hResourceId, hId, hClassName⟩ := h
  unfold dumpName Node.descriptionNames Node.resourceIdNames Node.classNames
  simp only [List.contains_eq_mem, List.mem_cons, List.not_mem_nil, or_false, decide_eq_true_eq,
    hContentDesc, hDescription, hDesc, hResourceId, hId, hClassName]
  split
  · rename_i hEq
    exact hEq.symm
  split
  · rename_i hEq
    exact hEq.symm
  split
  · rename_i hEq
    exact hEq.symm
  rfl

/-- The names of attributes that are empty when they are left out. -/
def emptyNames : List Text := ["text", "content-desc", "resource-id", "package"]

/-- What an element shows under the name of an attribute that its tag leaves out. -/
def leftOut? (tag : Tag) (name : Text) : Option Text :=
  if name = "class" then some tag.name
  else if emptyNames.contains name then some []
  else none

theorem leftOut?_eq_none (h : name ∉ fieldNames) : leftOut? tag name = none := by
  have hAll : ∀ name ∈ emptyNames, name ∈ fieldNames := by decide +kernel
  have hClass : name ≠ "class" := fun hEq => h (hEq ▸ List.mem_cons_self)
  rw [leftOut?, if_neg hClass, if_neg fun hEmpty => h (hAll name (List.contains_iff_mem.mp hEmpty))]

/-- A name that stands for another one has no field in a dump. -/
theorem not_mem_fieldNames_of_dumpName (h : dumpName name ≠ name) : name ∉ fieldNames := by
  have hAll : ∀ name ∈ fieldNames, dumpName name = name := by decide +kernel
  exact fun hField => h (hAll name hField)

/-- **What a lookup finds in an element**: the last value under the name that a dump has for it, or
what the element shows without one. -/
theorem attribute?_toNode (hFlag : Flag.ofName? name = none) (hIndex : name ≠ "index")
    (hBounds : name ≠ "bounds") (pairs : List (Text × Text)) (tag : Tag) (slot : Slot) :
    ((Draft.ofPairs pairs).toNode tag slot).attribute? name =
      (lastValue? (dumpName name) pairs).or (leftOut? tag (dumpName name)) := by
  have hDefault : ∀ dumped, emptyNames.contains dumped = true → dumped ≠ "class" →
      (lastValue? dumped pairs).or (leftOut? tag dumped) =
        some ((lastValue? dumped pairs).getD []) := by
    intro dumped hEmpty hClass
    rw [leftOut?, if_neg hClass, if_pos hEmpty, Option.or_some]
  unfold Node.attribute? dumpName
  rw [hFlag]
  simp only [Draft.toNode]
  by_cases hText : name = "text"
  · subst hText
    rw [ofPairs_eq]
    exact (hDefault "text" rfl (by decide)).symm
  by_cases hDescription : Node.descriptionNames.contains name = true
  · rw [if_neg hText, if_pos hDescription, if_pos hDescription, hDefault _ rfl (by decide),
      ofPairs_eq]
  by_cases hResource : Node.resourceIdNames.contains name = true
  · rw [if_neg hText, if_neg hDescription, if_pos hResource, if_neg hDescription, if_pos hResource,
      hDefault _ rfl (by decide), ofPairs_eq]
  by_cases hClass : Node.classNames.contains name = true
  · simp only [if_neg hText, if_neg hDescription, if_neg hResource, if_pos hClass]
    rw [leftOut?, if_pos rfl, Option.or_some, ofPairs_eq]
  by_cases hPackage : name = "package"
  · subst hPackage
    rw [ofPairs_eq]
    exact (hDefault "package" rfl (by decide)).symm
  simp only [if_neg hText, if_neg hDescription, if_neg hResource, if_neg hClass, if_neg hPackage,
    if_neg hIndex, if_neg hBounds]
  have hField : name ∉ fieldNames := by
    simp only [fieldNames, List.mem_cons, List.not_mem_nil, or_false, not_or]
    exact ⟨fun h => hClass (h ▸ rfl), fun h => hResource (h ▸ rfl), hText,
      fun h => hDescription (h ▸ rfl), hPackage, hIndex, hBounds⟩
  rw [get?_extras_ofPairs (isExtra_of_not_mem hFlag hField), leftOut?_eq_none hField,
    Option.or_none]

/-! ## The element of a tag -/

/-- A tag whose attributes can be read is refused for a fault of the arena only. -/
theorem internal_of_push_eq_error {fault : Fault} (hDraft : Draft.ofTag tag = .ok draft)
    (h : push nodes opened tag = .error fault) : fault.Internal := by
  unfold push at h
  simp only [hDraft, bind, Except.bind] at h
  cases opened with
  | nil =>
    simp only at h
    split at h
    · cases h
    · cases h
      exact .inl rfl
  | cons p outer =>
    simp only at h
    split at h
    · cases h
      exact .inr rfl
    · cases h

/-- A tag whose attributes can be read is always taken. -/
theorem exists_push {arena : Arena} (hSound : arena.Sound) (hOpen : arena.rootClosed = false)
    (hDraft : Draft.ofTag tag = .ok draft) :
    ∃ after, push arena.nodes arena.opened tag = .ok after := by
  have hSafe := hSound.push hOpen tag
  cases hPush : push arena.nodes arena.opened tag with
  | ok after => exact ⟨after, rfl⟩
  | error fault =>
    rw [hPush] at hSafe
    exact absurd (internal_of_push_eq_error hDraft hPush) hSafe

/-- The element of a tag comes last. -/
theorem back?_push (hDraft : Draft.ofTag tag = .ok draft)
    (h : push nodes opened tag = .ok after) :
    ∃ slot, after.back? = some (draft.toNode tag slot) := by
  obtain ⟨draft', slot, hDraft', hAfter⟩ := push_cases h
  rw [hDraft, Except.ok.injEq] at hDraft'
  subst hDraft'
  rcases hAfter with rfl | ⟨p, parent, -, rfl⟩
  · exact ⟨slot, Array.back?_push⟩
  · exact ⟨slot, Array.back?_push⟩

/-- What lookups find in the element of a tag. -/
structure Answers (node : Node) (tag : Tag) (pairs : List (Text × Text)) : Prop where
  /-- Under its own name the last value that the tag gives. -/
  own : ∀ name value : Text, Flag.ofName? name = none → name ≠ "index" → name ≠ "bounds" →
    name ∉ furtherNames.map Prod.fst → lastValue? name pairs = some value →
    node.attribute? name = some value ∧ (Shorthand.equals name value).picks node = true
  /-- Under a further name what it stands for, whatever the tag gives under that name itself. -/
  further : ∀ name dumped : Text, (name, dumped) ∈ furtherNames →
    node.attribute? name = (lastValue? dumped pairs).or (leftOut? tag dumped) ∧
      node.extras.get? name = lastValue? name pairs

/-- A further name is none of a flag, an index or a rectangle. -/
theorem plain_of_dumpName (h : dumpName name ≠ name) :
    Flag.ofName? name = none ∧ name ≠ "index" ∧ name ≠ "bounds" := by
  have hIndex : dumpName "index" = "index" := by decide
  have hBounds : dumpName "bounds" = "bounds" := by decide
  have hFlags : ∀ flag ∈ Flag.all, ∀ name ∈ flag.spellings, dumpName name = name := by
    decide +kernel
  refine ⟨?_, fun hEq => h (hEq ▸ hIndex), fun hEq => h (hEq ▸ hBounds)⟩
  cases hFlag : Flag.ofName? name with
  | none => rfl
  | some flag =>
    have hMem : flag ∈ Flag.all := List.mem_of_find?_eq_some hFlag
    exact absurd (hFlags flag hMem name (Flag.ofName?_eq_some_iff.mp hFlag)) h

theorem answers_toNode (pairs : List (Text × Text)) (tag : Tag) (slot : Slot) :
    Answers ((Draft.ofPairs pairs).toNode tag slot) tag pairs where
  own := fun name value hFlag hIndex hBounds hOwn hValue => by
    have hAttribute := attribute?_toNode hFlag hIndex hBounds pairs tag slot
    rw [dumpName_of_not_mem hOwn, hValue, Option.some_or] at hAttribute
    exact ⟨hAttribute, beq_iff_eq.mpr hAttribute⟩
  further := fun name dumped hFurther => by
    have hDumped : dumpName name = dumped := dumpName_of_mem _ hFurther
    have hOther : ∀ entry ∈ furtherNames, entry.2 ≠ entry.1 := by decide +kernel
    have hNe : dumpName name ≠ name := hDumped ▸ hOther _ hFurther
    obtain ⟨hFlag, hIndex, hBounds⟩ := plain_of_dumpName hNe
    have hAttribute := attribute?_toNode hFlag hIndex hBounds pairs tag slot
    rw [hDumped] at hAttribute
    have hExtra := isExtra_of_not_mem hFlag (not_mem_fieldNames_of_dumpName hNe)
    exact ⟨hAttribute, get?_extras_ofPairs hExtra pairs⟩

/-- **An attribute can be asked for under the name that its tag has for it**, and the value is the
last that the tag gives; unless a lookup takes the name for another attribute. In that case the
value is kept as an extra attribute, and the lookup shows the other attribute. Whatever has been
read before, a tag whose attributes can be read makes such an element. -/
theorem answers_push {attributes : List Attribute}
    (hRead : Attribute.readAll tag.name tag.rest = .ok attributes) {events : List Event}
    {arena : Arena} (hArena : events.foldlM Arena.step .empty = .ok arena)
    (hOpen : arena.rootClosed = false) :
    ∃ after node, push arena.nodes arena.opened tag = .ok after ∧ after.back? = some node ∧
      Answers node tag (pairsOf attributes) := by
  have hDraft := ofTag_eq_ok hRead
  have hSafe := Arena.Sound.empty.foldlM events
  rw [hArena] at hSafe
  obtain ⟨after, hPush⟩ := exists_push hSafe hOpen hDraft
  obtain ⟨slot, hNode⟩ := back?_push hDraft hPush
  exact ⟨after, _, hPush, hNode, answers_toNode _ tag slot⟩

/-- A tag with a hint that is given twice and with an `id` of its own. -/
def hinted : Tag := ⟨"a", " hint='x' id='y' resource-id='z' hint='w'"⟩

/-- The hint shows its last value, and `id` the resource id. -/
theorem answers_push_hinted :
    ∃ after node, push #[] [] hinted = .ok after ∧ after.back? = some node ∧
      node.attribute? "hint" = some ("w" : Text) ∧
      (Shorthand.equals "hint" "w").picks node = true ∧
      node.attribute? "id" = some ("z" : Text) ∧ node.extras.get? "id" = some ("y" : Text) := by
  have hRead : Attribute.readAll hinted.name hinted.rest =
      .ok [⟨"hint", "x"⟩, ⟨"id", "y"⟩, ⟨"resource-id", "z"⟩, ⟨"hint", "w"⟩] := by decide +kernel
  have hStart : ([] : List Event).foldlM Arena.step .empty = .ok .empty := rfl
  obtain ⟨after, node, hPush, hNode, hAnswers⟩ := answers_push hRead hStart rfl
  obtain ⟨hHint, hPicks⟩ := hAnswers.own "hint" "w" (by decide) (by decide) (by decide) (by decide)
    (by decide +kernel)
  obtain ⟨hId, hExtra⟩ := hAnswers.further "id" "resource-id" (by decide)
  exact ⟨after, node, hPush, hNode, hHint, hPicks, hId.trans (by decide +kernel),
    hExtra.trans (by decide +kernel)⟩

/-- An element that has an `id` of its own in the dump is not found by it: a lookup takes the name
for the resource id, which is empty. -/
theorem attribute?_of_shadowed :
    Attribute.readAll "a" " id=\"x\"" = .ok [⟨"id", "x"⟩] ∧
      lastValue? "id" (pairsOf [⟨"id", "x"⟩]) = some "x" ∧
      (parse 1 "<a id=\"x\"/>").nodes.map (Node.attribute? · "id") = #[some []] ∧
      (parse 1 "<a id=\"x\"/>").nodes.map (Shorthand.equals "id" "x").picks = #[false] := by
  decide +kernel

end ScreenQuery.Dump
