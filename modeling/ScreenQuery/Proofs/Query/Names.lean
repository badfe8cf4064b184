import ScreenQuery.Proofs.Text.Parts
import ScreenQuery.Selector.Predicate

/-!
# One name, two ways to ask for it

`[name=value]` looks an attribute up by its name; a predicate first makes a field of the name and
then compares what the field stands for. Each way has a table of spellings of its own.

* `Field.value?` is the text of an element that a field stands for. Under every name but those of
  the search for a part, the attribute is the value of the field (`attribute?_eq_value?`), so the
  two tables agree on all names.
* What is left of a difference lies in how a resource id is compared: a predicate also takes the
  name behind the separator (`Shorthand.matchesId_iff`).

About `from_name` of `Field`, `clause_matches`, `attribute` of `Node` and `matches` of `Shorthand`.
-/

namespace ScreenQuery

/-- The text of an element that a field stands for; the search for a part stands for none. -/
def Field.value? (field : Field) (node : Node) : Option Text :=
  match field with
  | .text => some node.text
  | .description => some node.description
  | .contains => none
  | .resourceId => some node.resourceId
  | .className => some node.className
  | .flag which => some (Node.truthText (node.flag which))
  | .index => some (Text.ofNat node.index.toNat)
  | .bounds => some node.bounds.toText
  | .package => some node.package
  | .extra name => node.extras.get? name

/-- The predicate that asks for an exact value under a name. -/
def Predicate.asking (name value : Text) : Predicate :=
  Predicate.always.and (Field.ofName name) (.exact value)

variable {node : Node} {name value : Text} {field : Field}

/-! ## The two tables -/

/-- What a name spells as a field. -/
theorem Field.ofName_cases (name : Text) :
    (∃ flag, Flag.ofName? name = some flag ∧ Field.ofName name = .flag flag) ∨
    (Flag.ofName? name = none ∧ ∃ entry ∈ Field.spellings,
      name ∈ entry.2 ∧ Field.ofName name = entry.1) ∨
    (Flag.ofName? name = none ∧ (∀ entry ∈ Field.spellings, name ∉ entry.2) ∧
      Field.ofName name = .extra name) := by
  unfold Field.ofName
  cases hFlag : Flag.ofName? name with
  | some flag => exact .inl ⟨flag, rfl, rfl⟩
  | none =>
    cases hFind : Field.spellings.find? fun entry => entry.2.contains name with
    | some entry =>
      have hName := List.find?_some hFind
      exact .inr (.inl ⟨rfl, entry, List.mem_of_find?_eq_some hFind, by simpa using hName, rfl⟩)
    | none =>
      refine .inr (.inr ⟨rfl, fun entry hEntry => ?_, rfl⟩)
      simpa using List.find?_eq_none.mp hFind entry hEntry

/-- **An attribute is what the field of the same name stands for.** -/
theorem attribute?_eq_value? (node : Node) (h : Field.ofName name ≠ .contains) :
    node.attribute? name = (Field.ofName name).value? node := by
  unfold Node.attribute?
  rcases Field.ofName_cases name with ⟨flag, hFlag, hField⟩ |
    ⟨hFlag, entry, hEntry, hName, hField⟩ | ⟨hFlag, hNone, hField⟩
  · rw [hFlag, hField]
    rfl
  · rw [hField] at h ⊢
    simp only [Field.spellings, List.mem_cons, List.not_mem_nil, or_false] at hEntry
    rcases hEntry with rfl | rfl | rfl | rfl | rfl | rfl | rfl | rfl
    all_goals
      simp only [List.mem_cons, List.not_mem_nil, or_false] at hName
    · subst hName; rfl
    · rcases hName with rfl | rfl | rfl | rfl <;> rfl
    · exact absurd rfl h
    · rcases hName with rfl | rfl | rfl <;> rfl
    · rcases hName with rfl | rfl <;> rfl
    · subst hName; rfl
    · subst hName; rfl
    · subst hName; rfl
  · rw [hFlag, hField]
    simp only [Field.spellings, List.forall_mem_cons] at hNone
    simp only [List.mem_cons, List.not_mem_nil, or_false, not_or] at hNone
    obtain ⟨hText, ⟨hDescription, hDesc, hContentDesc, hContentDesc'⟩, -,
      ⟨hResourceId, hResourceId', hId⟩, ⟨hClassName, hClass⟩, hIndex, hBounds, hPackage, -⟩ := hNone
    simp only [Node.descriptionNames, Node.resourceIdNames, Node.classNames, List.contains_eq_mem,
      List.mem_cons, List.not_mem_nil, hText, hDescription, hDesc, hContentDesc, hContentDesc',
      hResourceId, hResourceId', hId, hClassName, hClass, hIndex, hBounds, hPackage, or_false,
      decide_false, Bool.false_eq_true, if_false]
    rfl

/-! ## What a predicate asks -/

theorem Shorthand.equals_picks_iff :
    (Shorthand.equals name value).picks node = true ↔ node.attribute? name = some value :=
  beq_iff_eq

theorem Predicate.asking_picks (name value : Text) (node : Node) :
    (Predicate.asking name value).picks node =
      Clause.holds ⟨Field.ofName name, .exact value⟩ node := by
  simp [Predicate.asking, Predicate.always, Predicate.and, Predicate.picks]

/-- An exact clause compares what its field stands for. -/
theorem Clause.holds_exact_iff (hContains : field ≠ .contains) (hResource : field ≠ .resourceId) :
    Clause.holds ⟨field, .exact value⟩ node = true ↔ field.value? node = some value := by
  cases field with
  | contains => exact absurd rfl hContains
  | resourceId => exact absurd rfl hResource
  | extra name =>
    show (node.extras.get? name).any (· == value) = true ↔ node.extras.get? name = some value
    cases node.extras.get? name <;> simp
  | text | description | className | flag | index | bounds | package =>
    exact beq_iff_eq.trans (Option.some.injEq _ _ ▸ Iff.rfl)

/-- A resource id is wanted by itself, or by what ends it behind the separator. -/
theorem Shorthand.matchesId_iff {actual wanted : Text} :
    matchesId actual wanted = true ↔ actual = wanted ∨ idSeparator ++ wanted <:+ actual := by
  unfold matchesId
  rw [Bool.or_eq_true, beq_iff_eq]
  refine or_congr Iff.rfl ?_
  cases hDrop : Text.dropSuffix? wanted actual with
  | none =>
    refine ⟨fun h => absurd h Bool.false_ne_true, fun ⟨before, hActual⟩ => ?_⟩
    have hSome : Text.dropSuffix? wanted actual = some (before ++ idSeparator) :=
      Text.dropSuffix?_eq_some_iff.mpr (by rw [List.append_assoc, hActual])
    rw [hDrop] at hSome
    cases hSome
  | some before =>
    rw [Text.dropSuffix?_eq_some_iff.mp hDrop, Text.endsWith_iff]
    exact List.suffix_append_self_iff.symm

/-- What ends behind the separator is longer than what is wanted. -/
theorem Shorthand.ne_of_suffix {actual wanted : Text} (h : idSeparator ++ wanted <:+ actual) :
    actual ≠ wanted := by
  rintro rfl
  have hLength := h.length_le
  rw [List.length_append] at hLength
  have hSeparator : idSeparator.length = 4 := rfl
  omega

/-! ## Both ways of asking -/

/-- Under a name of the resource id, `[name=value]` looks at the whole id only. -/
theorem Shorthand.equals_picks_resourceId (hField : Field.ofName name = .resourceId) :
    (Shorthand.equals name value).picks node = true ↔ node.resourceId = value := by
  have hNone : Field.ofName name ≠ .contains := by
    rw [hField]
    exact Field.noConfusion
  rw [equals_picks_iff, attribute?_eq_value? node hNone, hField]
  exact Option.some_inj

theorem Predicate.asking_picks_resourceId (hField : Field.ofName name = .resourceId) :
    (Predicate.asking name value).picks node = true ↔
      node.resourceId = value ∨ Shorthand.idSeparator ++ value <:+ node.resourceId := by
  rw [asking_picks, hField]
  exact Shorthand.matchesId_iff

/-- **A name means the same to `[name=value]` and to a predicate**, whatever the element and the
value, unless it is a name of the search for a part or of the resource id. Under a name of the
resource id the predicate picks more, and that just where the id ends with the value behind the
separator. What `[name=value]` picks has the attribute, and its value is a part of itself. -/
theorem Shorthand.equals_iff_asking (node : Node) (name value : Text) :
    (Field.ofName name ≠ .contains → Field.ofName name ≠ .resourceId →
      ((Shorthand.equals name value).picks node = true ↔
        (Predicate.asking name value).picks node = true)) ∧
    (Field.ofName name = .resourceId →
      ((Shorthand.equals name value).picks node = true →
        (Predicate.asking name value).picks node = true) ∧
      ((Predicate.asking name value).picks node = true ∧
          (Shorthand.equals name value).picks node = false ↔
        Shorthand.idSeparator ++ value <:+ node.resourceId)) ∧
    ((Shorthand.equals name value).picks node = true → value ≠ [] →
      (Shorthand.containing name value).picks node = true ∧
        (Shorthand.present name).picks node = true) := by
  refine ⟨fun hContains hResource => ?_, fun hField => ⟨fun h => ?_, ?_⟩, fun h hValue => ?_⟩
  · rw [equals_picks_iff, attribute?_eq_value? node hContains, Predicate.asking_picks,
      Clause.holds_exact_iff hContains hResource]
  · exact (Predicate.asking_picks_resourceId hField).mpr
      (.inl ((equals_picks_resourceId hField).mp h))
  · rw [Predicate.asking_picks_resourceId hField, ← Bool.not_eq_true,
      equals_picks_resourceId hField]
    exact ⟨fun ⟨hEither, hNe⟩ => hEither.resolve_left hNe,
      fun hSuffix => ⟨.inr hSuffix, ne_of_suffix hSuffix⟩⟩
  · have hAttribute := equals_picks_iff.mp h
    constructor
    · show (node.attribute? name).any (Text.contains value) = true
      rw [hAttribute]
      exact Text.contains_iff.mpr (List.infix_refl value)
    · show ((node.attribute? name).any fun value => !value.isEmpty) = true
      rw [hAttribute]
      simpa using hValue

/-- Of the id `app:id/login` the last part is enough for a predicate only; a class is picked by both
ways. -/
theorem Shorthand.equals_iff_asking_login :
    let login := { Node.bare "b" with resourceId := "app:id/login" }
    Field.ofName "id" = .resourceId ∧ (Predicate.asking "id" "login").picks login = true ∧
      (Shorthand.equals "id" "login").picks login = false ∧
      ((Shorthand.equals "class" "b").picks login = true ↔
        (Predicate.asking "class" "b").picks login = true) ∧
      (Shorthand.containing "class" "b").picks login = true := by
  intro login
  obtain ⟨-, hResource, -⟩ := equals_iff_asking login "id" "login"
  obtain ⟨hSame, -, hPart⟩ := equals_iff_asking login "class" "b"
  have hSuffix : idSeparator ++ ("login" : Text) <:+ login.resourceId := ⟨"app", rfl⟩
  have hField : Field.ofName "id" = .resourceId := by decide +kernel
  obtain ⟨hAsks, hNot⟩ := (hResource hField).2.mpr hSuffix
  exact ⟨hField, hAsks, hNot, hSame (by decide +kernel) (by decide +kernel),
    (hPart (by decide +kernel) (by decide +kernel)).1⟩

end ScreenQuery
