import ScreenQuery.Json.Term
import ScreenQuery.Proofs.Json.Token

/-!
# A written value is read as its term

The reader keeps a stack of containers that are not yet complete. A value that stands where an item
may stand leaves that stack as it is, so long as it is not nested deeper than allowed.

* `Json.toTerm` is the term that a value should be read as: the same tree, every key, string and
  number present.
* `steps` runs the reader over some tokens, within a limit for the stack. Over the tokens of a value
  it hands the term of the value to the innermost container (`steps_tokens`). The limit is met when
  it has room for as many containers as there are tokens.
* `Term.read?_compact` joins that with the way a text is cut: a plain value is read back from its
  text.
-/

namespace ScreenQuery

namespace Json

/-! ## Terms of values -/

mutual

/-- The term of a value. -/
def toTerm : Json → Term
  | .null => .null
  | .bool value => .bool value
  | .number value => .number (some value)
  | .string value => .string (some value)
  | .array items => .array (itemTerms items)
  | .object fields => .object (fieldTerms fields)

/-- The terms of some values. -/
def itemTerms : List Json → List Term
  | [] => []
  | item :: rest => toTerm item :: itemTerms rest

/-- The fields of an object with their terms. -/
def fieldTerms : List (Text × Json) → List (Option Text × Term)
  | [] => []
  | (key, value) :: rest => (some key, toTerm value) :: fieldTerms rest

end

theorem itemTerms_eq (items : List Json) : itemTerms items = items.map toTerm := by
  induction items with
  | nil => rfl
  | cons item rest ih => rw [itemTerms, ih, List.map_cons]

theorem fieldTerms_eq (fields : List (Text × Json)) :
    fieldTerms fields = fields.map fun field => (some field.1, field.2.toTerm) := by
  induction fields with
  | nil => rfl
  | cons field rest ih => rw [fieldTerms, ih, List.map_cons]

/-! ## Runs of the reader -/

/-- One step of the reader, with at most `limit` containers open behind it. -/
def stepWithin (limit : Nat) (reader : Reader) (token : Token) : Option Reader := do
  let next ← reader.step token
  if next.frames.length ≤ limit then some next else none

/-- The state after some tokens. -/
def steps (limit : Nat) (reader : Reader) (tokens : List Token) : Option Reader :=
  tokens.foldlM (stepWithin limit) reader

theorem Term.read?_eq (limit : Nat) (text : Text) : Term.read? limit text =
    (Token.readAll text).bind fun tokens => (steps limit .start tokens).bind Reader.done := rfl

variable {limit : Nat}

theorem steps_append (reader : Reader) (tokens tokens' : List Token) :
    steps limit reader (tokens ++ tokens') =
      (steps limit reader tokens).bind fun next => steps limit next tokens' :=
  List.foldlM_append

theorem steps_cons {reader next : Reader} {token : Token} (h : reader.step token = some next)
    (hLimit : next.frames.length ≤ limit) (tokens : List Token) :
    steps limit reader (token :: tokens) = steps limit next tokens := by
  have hStep : stepWithin limit reader token = some next := by
    rw [stepWithin, h]
    exact if_pos hLimit
  rw [steps, List.foldlM_cons, hStep]
  rfl

theorem steps_single {reader next : Reader} {token : Token} (h : reader.step token = some next)
    (hLimit : next.frames.length ≤ limit) : steps limit reader [token] = some next :=
  steps_cons h hLimit []

/-- The phases in which a value may stand. -/
def Phase.TakesItem (phase : Phase) : Prop := phase = .item ∨ phase = .firstItem

theorem step_item {phase : Phase} (hPhase : phase.TakesItem) {token : Token}
    (hToken : token ≠ .closeArray) (frames : List Frame) :
    Reader.step ⟨frames, phase, none⟩ token = Reader.item frames token := by
  rcases hPhase with rfl | rfl
  · rfl
  · unfold Reader.step
    split
    case h_1 => exact absurd rfl hToken
    case h_4 => rfl
    all_goals simp_all only [reduceCtorEq, not_true_eq_false, imp_false]

/-- A value goes into a container and opens none. -/
theorem length_receive {term : Term} {frames : List Frame} {next : Reader}
    (h : Reader.receive term frames = some next) : next.frames.length = frames.length := by
  unfold Reader.receive at h
  split at h
  all_goals cases h
  all_goals rfl

/-- The tokens of a value are taken where a value may stand. -/
def Takes (limit : Nat) (value : Json) : Prop :=
  ∀ {frames : List Frame} {phase : Phase} {next : Reader}, phase.TakesItem →
    Reader.receive value.toTerm frames = some next →
    frames.length + value.tokens.length ≤ limit →
    steps limit ⟨frames, phase, none⟩ value.tokens = some next

theorem takes_of_token {value : Json} {token : Token} (hTokens : value.tokens = [token])
    (hToken : token ≠ .closeArray)
    (hItem : ∀ frames, Reader.item frames token = Reader.receive value.toTerm frames) :
    Takes limit value := by
  intro frames phase next hPhase hReceive hLimit
  rw [hTokens] at hLimit ⊢
  refine steps_single ?_ ((length_receive hReceive).le.trans (Nat.le_of_add_right_le hLimit))
  rw [step_item hPhase hToken, hItem, hReceive]

section

variable {outer : List Frame}

theorem steps_items {items : List Json} (hItems : ∀ item ∈ items, Takes limit item)
    (hSome : items ≠ []) (read : List Term) {phase : Phase} (hPhase : phase.TakesItem)
    (hLimit : outer.length + 1 + (itemTokens items).length ≤ limit) :
    steps limit ⟨.array read :: outer, phase, none⟩ (itemTokens items) =
      some ⟨.array ((itemTerms items).reverse ++ read) :: outer, .separator, none⟩ := by
  match items with
  | [] => exact absurd rfl hSome
  | [item] => exact hItems item List.mem_cons_self hPhase rfl hLimit
  | item :: next :: others =>
    rw [itemTokens, List.length_append, List.length_cons] at hLimit
    have hItem : steps limit ⟨.array read :: outer, phase, none⟩ (tokens item) =
        some ⟨.array (toTerm item :: read) :: outer, .separator, none⟩ :=
      hItems item List.mem_cons_self hPhase rfl (by rw [List.length_cons]; omega)
    have hOthers := steps_items (fun item hItem => hItems item (List.mem_cons_of_mem _ hItem))
      (List.cons_ne_nil next others) (toTerm item :: read) (.inl rfl) (by omega)
    rw [itemTokens, steps_append, hItem, Option.bind_some, steps_cons rfl (by simp; omega), hOthers]
    rw [itemTerms.eq_2 item, List.reverse_cons, List.append_assoc]
    rfl

/-- The phases in which a key may stand. -/
def Phase.TakesKey (phase : Phase) : Prop := phase = .key ∨ phase = .firstKey

theorem step_key {fields : List (Option Text × Term)} {phase : Phase} (hPhase : phase.TakesKey)
    (key : Text) : Reader.step ⟨.object fields :: outer, phase, none⟩ (.string (some key)) =
      some ⟨.field fields (some key) :: outer, .colon, none⟩ := by
  rcases hPhase with rfl | rfl
  · rfl
  · cases fields <;> rfl

theorem steps_field {value : Json} (hValue : Takes limit value) (key : Text)
    (read : List (Option Text × Term)) {phase : Phase} (hPhase : phase.TakesKey)
    (hLimit : outer.length + 1 + (tokens value).length ≤ limit) :
    steps limit ⟨.object read :: outer, phase, none⟩
        (.string (some key) :: .colon :: tokens value) =
      some ⟨.object ((some key, toTerm value) :: read) :: outer, .separator, none⟩ := by
  have hOpen : outer.length + 1 ≤ limit := by omega
  rw [steps_cons (step_key hPhase key) hOpen, steps_cons rfl hOpen]
  exact hValue (.inl rfl) rfl hLimit

theorem steps_fields {fields : List (Text × Json)} (hFields : ∀ field ∈ fields, Takes limit field.2)
    (hSome : fields ≠ []) (read : List (Option Text × Term)) {phase : Phase}
    (hPhase : phase.TakesKey)
    (hLimit : outer.length + 1 + (fieldTokens fields).length ≤ limit) :
    steps limit ⟨.object read :: outer, phase, none⟩ (fieldTokens fields) =
      some ⟨.object ((fieldTerms fields).reverse ++ read) :: outer, .separator, none⟩ := by
  match fields with
  | [] => exact absurd rfl hSome
  | [(key, value)] =>
    rw [fieldTokens, List.length_cons, List.length_cons] at hLimit
    exact steps_field (hFields (key, value) List.mem_cons_self) key read hPhase
      (show outer.length + 1 + (tokens value).length ≤ limit by omega)
  | (key, value) :: next :: others =>
    simp only [fieldTokens, List.length_append, List.length_cons] at hLimit
    have hField := steps_field (hFields _ List.mem_cons_self) key read hPhase
      (show outer.length + 1 + (tokens value).length ≤ limit by omega)
    have hOthers := steps_fields (fun field hField => hFields field (List.mem_cons_of_mem _ hField))
      (List.cons_ne_nil next others) ((some key, toTerm value) :: read) (.inl rfl) (by omega)
    rw [fieldTokens, steps_append, hField, Option.bind_some, steps_cons rfl (by simp; omega),
      hOthers, fieldTerms.eq_2 key, List.reverse_cons, List.append_assoc]
    rfl

/-- Behind its opening, an array is read to its close. -/
theorem steps_array {items : List Json} (hItems : ∀ item ∈ items, Takes limit item) {next : Reader}
    (hReceive : Reader.receive (.array (itemTerms items)) outer = some next)
    (hLimit : outer.length + 1 + (itemTokens items).length ≤ limit) :
    steps limit ⟨.array [] :: outer, .firstItem, none⟩ (itemTokens items ++ [.closeArray]) =
      some next := by
  have hNext := length_receive hReceive
  by_cases hNone : items = []
  · subst hNone
    exact steps_single hReceive (by omega)
  · rw [steps_append, steps_items hItems hNone [] (.inr rfl) hLimit, Option.bind_some,
      List.append_nil]
    refine steps_single ?_ (by omega)
    show Reader.receive (.array (itemTerms items).reverse.reverse) outer = some next
    rw [List.reverse_reverse, hReceive]

/-- Behind its opening, an object is read to its close. -/
theorem steps_object {fields : List (Text × Json)} (hFields : ∀ field ∈ fields, Takes limit field.2)
    {next : Reader} (hReceive : Reader.receive (.object (fieldTerms fields)) outer = some next)
    (hLimit : outer.length + 1 + (fieldTokens fields).length ≤ limit) :
    steps limit ⟨.object [] :: outer, .firstKey, none⟩ (fieldTokens fields ++ [.closeObject]) =
      some next := by
  have hNext := length_receive hReceive
  by_cases hNone : fields = []
  · subst hNone
    exact steps_single hReceive (by omega)
  · rw [steps_append, steps_fields hFields hNone [] (.inr rfl) hLimit, Option.bind_some,
      List.append_nil]
    refine steps_single ?_ (by omega)
    show Reader.receive (.object (fieldTerms fields).reverse.reverse) outer = some next
    rw [List.reverse_reverse, hReceive]

end

/-- **A plain value is taken with all its tokens.** -/
theorem Plain.takes {value : Json} (h : Plain value) : Takes limit value := by
  induction h with
  | null => exact takes_of_token rfl Token.noConfusion fun _ => rfl
  | bool value =>
    cases value with
    | true => exact takes_of_token rfl Token.noConfusion fun _ => rfl
    | false => exact takes_of_token rfl Token.noConfusion fun _ => rfl
  | integer => exact takes_of_token rfl Token.noConfusion fun _ => rfl
  | string text => exact takes_of_token rfl Token.noConfusion fun _ => rfl
  | array _ ih =>
    intro frames phase next hPhase hReceive hLimit
    rw [tokens, List.length_append, List.length_cons] at hLimit
    have hOpen : frames.length + 1 ≤ limit := by omega
    rw [tokens, List.cons_append, steps_cons (step_item hPhase Token.noConfusion frames) hOpen]
    exact steps_array ih hReceive (by omega)
  | object _ ih =>
    intro frames phase next hPhase hReceive hLimit
    rw [tokens, List.length_append, List.length_cons] at hLimit
    have hOpen : frames.length + 1 ≤ limit := by omega
    rw [tokens, List.cons_append, steps_cons (step_item hPhase Token.noConfusion frames) hOpen]
    exact steps_object ih hReceive (by omega)

/-- **A plain value is read back from its text** where containers may be nested as deep as the text
is long. -/
theorem Plain.read?_compact {value : Json} (h : Plain value) :
    Term.read? value.compact.length value.compact = some value.toTerm := by
  have hCut := h.cutInto Ends.nil
  rw [List.append_nil] at hCut
  have hLength := hCut.length_le
  have hSteps : steps value.compact.length .start value.tokens =
      some ⟨[], .separator, some value.toTerm⟩ := h.takes (.inl rfl) rfl (by simpa using hLength)
  rw [Term.read?_eq, hCut.readAll_eq, Option.bind_some, hSteps]
  rfl

end Json

end ScreenQuery
