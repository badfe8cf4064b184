import ScreenQuery.Record.Encode
import ScreenQuery.Record.Decode
import ScreenQuery.Proofs.Json.Term
import ScreenQuery.Proofs.Text.Dictionary

/-!
# Records are read back

A record is written with its fields in one order, and some of them are left out when there is
nothing to say. It is read by the names of its fields, in any order, and what is missing has a
default.

* `fields?_object`: an object with some fields of a record, none of them twice, is read as these
  fields; what each of them denotes does not depend on the others (`getD?_append_left`,
  `getD?_append_right`).
* The fields of an element are those that are always there (`Node.leading`) and the three that may
  be left out (`Node.trailing`). What is left out has just the value that a missing field stands
  for, so the element comes back (`Node.ofTerm?_toJson`).
* `Node.Storable` says which elements there are to be written: their numbers have 64 bits, and their
  extra attributes make a dictionary. No others are read either (`Node.storable_of_ofTerm?`).
* Together with the reading of texts, an element or a failure is what its text denotes
  (`Record.read?_written`).

About the derived readers and writers of `Node`, `Flags`, `ErrorCode` and `ApiError`.
-/

namespace ScreenQuery

open Json (Term Plain Fits fits_natCast fits_toInt)

namespace Record

/-! ## Values -/

section

variable {α : Type} {read : Term → Option α} {write : α → Json}

theorem int?_ofInt {low high i : Int} (hLow : low ≤ i) (hHigh : i ≤ high) :
    int? low high (Json.ofInt i).toTerm = some i :=
  if_pos ⟨hLow, hHigh⟩

theorem int32?_ofInt32 (i : Int32) : int32? (Json.ofInt32 i).toTerm = some i := by
  have hInt := int?_ofInt (Int32.le_iff_toInt_le.mp i.minValue_le)
    (Int32.le_iff_toInt_le.mp i.le_maxValue)
  rw [int32?, Json.ofInt32, hInt, Option.map_some, Int32.ofInt_toInt]

theorem uint32?_ofNat (n : UInt32) : uint32? (Json.ofNat n.toNat).toTerm = some n := by
  have hInt : int? 0 (UInt32.size - 1) (Json.ofNat n.toNat).toTerm = some (n.toNat : Int) := by
    have hSize := n.toNat_lt_size
    exact int?_ofInt (by omega) (by omega)
  rw [uint32?, hInt, Option.map_some, Int.toNat_natCast, UInt32.ofNat_toNat]

theorem nat64?_ofNat {n : Nat} (h : n ≤ Text.uint64Limit) :
    nat64? (Json.ofNat n).toTerm = some n := by
  have hInt : int? 0 Text.uint64Limit (Json.ofNat n).toTerm = some (n : Int) :=
    int?_ofInt (by omega) (by omega)
  rw [nat64?, hInt, Option.map_some, Int.toNat_natCast]

theorem le_of_nat64? {term : Term} {n : Nat} (h : nat64? term = some n) :
    n ≤ Text.uint64Limit := by
  obtain ⟨i, hInt, rfl⟩ := Option.map_eq_some_iff.mp h
  unfold int? at hInt
  split at hInt
  · split at hInt
    · cases hInt
      omega
    · cases hInt
  · cases hInt

theorem exists_of_nullable? {term : Term} {value : α}
    (h : nullable? read term = some (some value)) : ∃ term, read term = some value := by
  unfold nullable? at h
  split at h
  · cases h
  · obtain ⟨_, hRead, hValue⟩ := Option.map_eq_some_iff.mp h
    cases hValue
    exact ⟨_, hRead⟩

theorem exists_of_mapM {α β : Type} {f : α → Option β} {l : List α} {values : List β}
    (h : l.mapM f = some values) : ∀ value ∈ values, ∃ a, f a = some value := by
  induction l generalizing values with
  | nil =>
    cases h
    exact List.forall_mem_nil _
  | cons a l ih =>
    rw [List.mapM_cons] at h
    obtain ⟨first, hFirst, hRest⟩ := Option.bind_eq_some_iff.mp h
    obtain ⟨rest, hMap, hValues⟩ := Option.bind_eq_some_iff.mp hRest
    cases hValues
    exact List.forall_mem_cons.mpr ⟨⟨a, hFirst⟩, ih hMap⟩

theorem exists_of_list? {term : Term} {values : List α} (h : list? read term = some values) :
    ∀ value ∈ values, ∃ term, read term = some value := by
  unfold list? at h
  split at h
  · exact exists_of_mapM h
  · cases h

theorem ordered_of_dictionary? {term : Term} {dictionary : Dictionary α}
    (h : dictionary? read term = some dictionary) : dictionary.Ordered := by
  unfold dictionary? at h
  split at h
  · obtain ⟨entries, -, hEntries⟩ := Option.bind_eq_some_iff.mp h
    cases hEntries
    exact Dictionary.ordered_ofList entries
  · cases h

theorem mapM_eq_some {α β : Type} {f : α → Option β} {g : α → β} {l : List α}
    (h : ∀ a ∈ l, f a = some (g a)) : l.mapM f = some (l.map g) := by
  induction l with
  | nil => rfl
  | cons a l ih =>
    rw [List.mapM_cons, h a List.mem_cons_self, ih fun b hb => h b (List.mem_cons_of_mem a hb)]
    rfl

theorem list?_array {items : List α} (h : ∀ item ∈ items, read (write item).toTerm = some item) :
    list? read (Json.array (items.map write)).toTerm = some items := by
  show (Json.itemTerms (items.map write)).mapM read = some items
  rw [Json.itemTerms_eq, List.map_map, List.mapM_map]
  exact (mapM_eq_some h).trans (congrArg some (List.map_id items))

theorem dictionary?_object {entries : Dictionary α} (hOrdered : entries.Ordered)
    (h : ∀ entry ∈ entries, read (write entry.2).toTerm = some entry.2) :
    dictionary? read (Json.object (entries.map fun entry => (entry.1, write entry.2))).toTerm =
      some entries := by
  have hEntries : (entries.map fun entry => (some entry.1, (write entry.2).toTerm)).mapM
      (fun field => do return (← field.1, ← read field.2)) = some (entries.map id) := by
    rw [List.mapM_map]
    refine mapM_eq_some fun entry hEntry => ?_
    simp only [Function.comp_apply, h entry hEntry]
    rfl
  show (Json.fieldTerms _).mapM _ >>= _ = _
  rw [Json.fieldTerms_eq, List.map_map]
  refine (congrArg (· >>= _) hEntries).trans ?_
  rw [List.map_id]
  exact congrArg some (Dictionary.ofList_eq_self_iff.mpr hOrdered)

end

/-! ## Fields -/

/-- The fields of a record as they are read. -/
def written (fields : List (Text × Json)) : Fields :=
  fields.map fun field => (field.1, field.2.toTerm)

/-- The fields of a record. -/
def fieldsOf : Json → List (Text × Json)
  | .object fields => fields
  | _ => []

section

variable {fields : List (Text × Json)} {names : List Text}

theorem map_fst_fieldIf (present : Bool) (name : Text) (value : Json) :
    ((Json.fieldIf present name value).map Prod.fst).Sublist [name] := by
  cases present with
  | false => exact List.nil_sublist _
  | true => exact List.Sublist.refl _

theorem plain_fieldIf (present : Bool) (name : Text) {value : Json} (h : Plain value) :
    ∀ field ∈ Json.fieldIf present name value, Plain field.2 := by
  cases present with
  | false => exact List.forall_mem_nil _
  | true => exact List.forall_mem_singleton.mpr h

/-- An object with some of the fields of a record, in their order, has these fields. -/
theorem fields?_object (hFields : (fields.map Prod.fst).Sublist names) (hNames : names.Nodup)
    (needed : Nat) : fields? names needed (Json.object fields).toTerm = some (written fields) := by
  have hEntries : (fields.map fun field => (some field.1, field.2.toTerm)).mapM
      (fun field => do return (← field.1, field.2)) = some (written fields) := by
    rw [List.mapM_map]
    exact mapM_eq_some fun field _ => rfl
  have hKnown : (written fields).filter (fun entry => names.contains entry.1) = written fields := by
    refine List.filter_eq_self.mpr fun entry hEntry => ?_
    obtain ⟨field, hField, rfl⟩ := List.mem_map.mp hEntry
    exact List.contains_iff_mem.mpr (hFields.subset (List.mem_map_of_mem hField))
  have hNodup : ((written fields).map Prod.fst).Nodup := by
    rw [written, List.map_map]
    exact hNames.sublist hFields
  show fieldsOfObject? names (Json.fieldTerms fields) = _
  rw [Json.fieldTerms_eq, fieldsOfObject?, hEntries]
  show (if (((written fields).filter _).map Prod.fst).Nodup then _ else _) = _
  rw [hKnown, if_pos hNodup]

section

variable {α : Type} {read : Term → Option α} {missing : α} {a b : List (Text × Json)} {name : Text}

theorem bind_of_eq_some {β : Type} {value? : Option α} {value : α} (h : value? = some value)
    (f : α → Option β) : (value? >>= f) = f value := by
  rw [h]
  rfl

theorem get?_eq {fields : Fields} {term : Term} (h : term? fields name = some term) :
    get? fields name read = read term := by
  rw [get?, h]
  rfl

theorem exists_of_get? {fields : Fields} {value : α} (h : get? fields name read = some value) :
    ∃ term, read term = some value := by
  obtain ⟨term, -, hRead⟩ := Option.bind_eq_some_iff.mp h
  exact ⟨term, hRead⟩

theorem eq_or_exists_of_getD? {fields : Fields} {value : α}
    (h : getD? fields name read missing = some value) :
    value = missing ∨ ∃ term, read term = some value := by
  unfold getD? at h
  split at h
  · exact .inr ⟨_, h⟩
  · exact .inl (Option.some.inj h).symm

theorem term?_append : term? (written (a ++ b)) name =
    (term? (written a) name).or (term? (written b) name) := by
  rw [written, List.map_append, term?, List.find?_append, Option.map_or]
  rfl

theorem getD?_append_left (h : term? (written b) name = none) :
    getD? (written (a ++ b)) name read missing = getD? (written a) name read missing := by
  rw [getD?, term?_append, h, Option.or_none]
  rfl

theorem getD?_append_right (h : term? (written a) name = none) :
    getD? (written (a ++ b)) name read missing = getD? (written b) name read missing := by
  rw [getD?, term?_append, h, Option.none_or]
  rfl

theorem getD?_fieldIf (present : Bool) (value : Json) :
    getD? (written (Json.fieldIf present name value)) name read missing =
      if present then read value.toTerm else some missing := by
  cases present with
  | false => rfl
  | true =>
    have hTerm : term? (written [(name, value)]) name = some value.toTerm := by
      show (List.find? _ [(name, value.toTerm)]).map Prod.snd = _
      rw [List.find?_cons, beq_self_eq_true]
      rfl
    show getD? (written [(name, value)]) name read missing = read value.toTerm
    rw [getD?, hTerm]

theorem term?_fieldIf_of_ne {other : Text} (h : name ≠ other) (present : Bool) (value : Json) :
    term? (written (Json.fieldIf present name value)) other = none := by
  cases present with
  | false => rfl
  | true =>
    show (List.find? _ [(name, value.toTerm)]).map Prod.snd = _
    rw [List.find?_cons, beq_eq_false_iff_ne.mpr h]
    rfl

end

end

end Record

open Record

/-! ## Rectangles and flags -/

namespace Bounds

theorem ofTerm?_toJson (b : Bounds) : Bounds.ofTerm? b.toJson.toTerm = some b := by
  have hFields : fields? ["x1", "y1", "x2", "y2"] 4 b.toJson.toTerm =
      some (written (fieldsOf b.toJson)) := by
    refine fields?_object ?_ (by decide) 4
    exact List.Sublist.refl _
  have hx1 : get? (written (fieldsOf b.toJson)) "x1" int32? = some b.x1 :=
    (get?_eq rfl).trans (int32?_ofInt32 b.x1)
  have hy1 : get? (written (fieldsOf b.toJson)) "y1" int32? = some b.y1 :=
    (get?_eq rfl).trans (int32?_ofInt32 b.y1)
  have hx2 : get? (written (fieldsOf b.toJson)) "x2" int32? = some b.x2 :=
    (get?_eq rfl).trans (int32?_ofInt32 b.x2)
  have hy2 : get? (written (fieldsOf b.toJson)) "y2" int32? = some b.y2 :=
    (get?_eq rfl).trans (int32?_ofInt32 b.y2)
  rw [Bounds.ofTerm?, bind_of_eq_some hFields, bind_of_eq_some hx1, bind_of_eq_some hy1,
    bind_of_eq_some hx2, bind_of_eq_some hy2]
  rfl

theorem plain_toJson (b : Bounds) : Plain b.toJson := by
  refine .object ?_
  simp only [List.forall_mem_cons]
  exact ⟨.integer (fits_toInt b.x1), .integer (fits_toInt b.y1), .integer (fits_toInt b.x2),
    .integer (fits_toInt b.y2), List.forall_mem_nil _⟩

end Bounds

namespace Flags

theorem get?_fieldName (flags : Flags) (flag : Flag) :
    get? (written (fieldsOf flags.toJson)) flag.fieldName bool? = some (flags.get flag) := by
  cases flag <;> rfl

theorem ofTerm?_toJson (flags : Flags) : Flags.ofTerm? flags.toJson.toTerm = some flags := by
  have hFields : fields? (Flag.all.map Flag.fieldName) 11 flags.toJson.toTerm =
      some (written (fieldsOf flags.toJson)) := by
    refine fields?_object ?_ (by decide) 11
    exact List.Sublist.refl _
  have hRead (flag : Flag) (f : Bool → Option Flags) :
      (get? (written (fieldsOf flags.toJson)) flag.fieldName bool? >>= f) = f (flags.get flag) :=
    bind_of_eq_some (flags.get?_fieldName flag) f
  rw [Flags.ofTerm?, bind_of_eq_some hFields]
  simp only [hRead]
  rfl

theorem plain_toJson (flags : Flags) : Plain flags.toJson := by
  refine .object fun field hField => ?_
  obtain ⟨flag, -, rfl⟩ := List.mem_map.mp hField
  exact .bool (flags.get flag)

end Flags

/-! ## Elements -/

namespace Node

/-- Numbers within 64 bits, and extra attributes in the order of a dictionary. -/
structure Storable (node : Node) : Prop where
  id_le : node.id ≤ Text.uint64Limit
  depth_le : node.depth ≤ Text.uint64Limit
  parent_le : ∀ parent ∈ node.parent, parent ≤ Text.uint64Limit
  children_le : ∀ child ∈ node.children, child ≤ Text.uint64Limit
  extras_ordered : node.extras.Ordered

variable {node : Node}

/-- The fields that are always there. -/
def leading (node : Node) : List (Text × Json) := (fieldsOf node.toJson).take 11

/-- The fields behind them, each of which may be left out. -/
def trailing (node : Node) : List (Text × Json) :=
  Json.fieldIf (!node.extras.isEmpty) "extras"
      (.object (node.extras.map fun entry => (entry.1, .string entry.2))) ++
    (Json.fieldIf node.parent.isSome "parent" (NodeId.toJson (node.parent.getD rootId)) ++
      Json.fieldIf (!node.children.isEmpty) "children" (.array (node.children.map NodeId.toJson)))

theorem toJson_eq (node : Node) : node.toJson = .object (node.leading ++ node.trailing) := by
  have hParent : (node.parent.toList.map fun parent => (("parent" : Text), NodeId.toJson parent)) =
      Json.fieldIf node.parent.isSome "parent" (NodeId.toJson (node.parent.getD rootId)) := by
    cases node.parent <;> rfl
  show Json.object (node.leading ++ (_ ++ (_ ++ (_ ++ [])))) = _
  rw [hParent, List.append_nil]
  rfl

/-- The fields of an element as they are read. -/
def readFields (node : Node) : Fields := written (node.leading ++ node.trailing)

theorem fields?_toJson (node : Node) :
    fields? fieldNames 13 node.toJson.toTerm = some node.readFields := by
  rw [toJson_eq]
  refine fields?_object ?_ (by decide) 13
  rw [trailing, List.map_append, List.map_append, List.map_append]
  exact (List.Sublist.refl (fieldNames.take 11)).append
    ((map_fst_fieldIf _ _ _).append ((map_fst_fieldIf _ _ _).append (map_fst_fieldIf _ _ _)))

theorem getD?_extras (h : node.extras.Ordered) :
    getD? node.readFields "extras" (dictionary? text?) [] = some node.extras := by
  have hBehind : term? (written (Json.fieldIf node.parent.isSome "parent"
      (NodeId.toJson (node.parent.getD rootId)) ++ Json.fieldIf (!node.children.isEmpty) "children"
      (.array (node.children.map NodeId.toJson)))) "extras" = none := by
    rw [term?_append, term?_fieldIf_of_ne (by decide), term?_fieldIf_of_ne (by decide)]
    rfl
  rw [readFields, getD?_append_right rfl, trailing, getD?_append_left hBehind, getD?_fieldIf]
  cases hExtras : node.extras with
  | nil => rfl
  | cons entry rest => exact dictionary?_object (hExtras ▸ h) fun _ _ => rfl

theorem getD?_parent (h : ∀ parent ∈ node.parent, parent ≤ Text.uint64Limit) :
    getD? node.readFields "parent" (nullable? NodeId.ofTerm?) none = some node.parent := by
  rw [readFields, getD?_append_right rfl, trailing,
    getD?_append_right (term?_fieldIf_of_ne (by decide) _ _),
    getD?_append_left (term?_fieldIf_of_ne (by decide) _ _), getD?_fieldIf]
  cases hParent : node.parent with
  | none => rfl
  | some parent => exact congrArg (Option.map some) (nat64?_ofNat (h parent hParent))

theorem getD?_children (h : ∀ child ∈ node.children, child ≤ Text.uint64Limit) :
    getD? node.readFields "children" (list? NodeId.ofTerm?) [] = some node.children := by
  rw [readFields, getD?_append_right rfl, trailing,
    getD?_append_right (term?_fieldIf_of_ne (by decide) _ _),
    getD?_append_right (term?_fieldIf_of_ne (by decide) _ _), getD?_fieldIf]
  cases hChildren : node.children with
  | nil => rfl
  | cons child rest =>
    exact list?_array fun other hOther => nat64?_ofNat (h other (hChildren ▸ hOther))

/-- **An element is read back from its record**, whichever fields were left out. -/
theorem ofTerm?_toJson (h : node.Storable) : Node.ofTerm? node.toJson.toTerm = some node := by
  have hId : get? node.readFields "id" NodeId.ofTerm? = some node.id :=
    (get?_eq rfl).trans (nat64?_ofNat h.id_le)
  have hPath : get? node.readFields "path" text? = some node.path := rfl
  have hDepth : get? node.readFields "depth" nat64? = some node.depth :=
    (get?_eq rfl).trans (nat64?_ofNat h.depth_le)
  have hClass : get? node.readFields "class_name" text? = some node.className := rfl
  have hResource : get? node.readFields "resource_id" text? = some node.resourceId := rfl
  have hText : get? node.readFields "text" text? = some node.text := rfl
  have hDescription : get? node.readFields "description" text? = some node.description := rfl
  have hPackage : get? node.readFields "package" text? = some node.package := rfl
  have hIndex : get? node.readFields "index" uint32? = some node.index :=
    (get?_eq rfl).trans (uint32?_ofNat node.index)
  have hBounds : get? node.readFields "bounds" Bounds.ofTerm? = some node.bounds :=
    (get?_eq rfl).trans (Bounds.ofTerm?_toJson node.bounds)
  have hFlags : get? node.readFields "flags" Flags.ofTerm? = some node.flags :=
    (get?_eq rfl).trans (Flags.ofTerm?_toJson node.flags)
  rw [Node.ofTerm?, bind_of_eq_some (fields?_toJson node), bind_of_eq_some hId,
    bind_of_eq_some hPath, bind_of_eq_some hDepth, bind_of_eq_some hClass,
    bind_of_eq_some hResource, bind_of_eq_some hText, bind_of_eq_some hDescription,
    bind_of_eq_some hPackage, bind_of_eq_some hIndex, bind_of_eq_some hBounds,
    bind_of_eq_some hFlags, bind_of_eq_some (getD?_extras h.extras_ordered),
    bind_of_eq_some (getD?_parent h.parent_le), bind_of_eq_some (getD?_children h.children_le)]
  rfl

/-- Only storable elements are read. -/
theorem storable_of_ofTerm? {term : Term} (h : Node.ofTerm? term = some node) : node.Storable := by
  unfold Node.ofTerm? at h
  obtain ⟨fields, -, h⟩ := Option.bind_eq_some_iff.mp h
  obtain ⟨id, hId, h⟩ := Option.bind_eq_some_iff.mp h
  obtain ⟨path, -, h⟩ := Option.bind_eq_some_iff.mp h
  obtain ⟨depth, hDepth, h⟩ := Option.bind_eq_some_iff.mp h
  obtain ⟨className, -, h⟩ := Option.bind_eq_some_iff.mp h
  obtain ⟨resourceId, -, h⟩ := Option.bind_eq_some_iff.mp h
  obtain ⟨text, -, h⟩ := Option.bind_eq_some_iff.mp h
  obtain ⟨description, -, h⟩ := Option.bind_eq_some_iff.mp h
  obtain ⟨package, -, h⟩ := Option.bind_eq_some_iff.mp h
  obtain ⟨index, -, h⟩ := Option.bind_eq_some_iff.mp h
  obtain ⟨bounds, -, h⟩ := Option.bind_eq_some_iff.mp h
  obtain ⟨flags, -, h⟩ := Option.bind_eq_some_iff.mp h
  obtain ⟨extras, hExtras, h⟩ := Option.bind_eq_some_iff.mp h
  obtain ⟨parent, hParent, h⟩ := Option.bind_eq_some_iff.mp h
  obtain ⟨children, hChildren, h⟩ := Option.bind_eq_some_iff.mp h
  cases h
  constructor
  case id_le =>
    obtain ⟨_, hRead⟩ := exists_of_get? hId
    exact le_of_nat64? hRead
  case depth_le =>
    obtain ⟨_, hRead⟩ := exists_of_get? hDepth
    exact le_of_nat64? hRead
  case parent_le =>
    rintro id rfl
    rcases eq_or_exists_of_getD? hParent with hNone | ⟨_, hRead⟩
    · cases hNone
    · obtain ⟨_, hId⟩ := exists_of_nullable? hRead
      exact le_of_nat64? hId
  case children_le =>
    intro id hMem
    rcases eq_or_exists_of_getD? hChildren with rfl | ⟨_, hRead⟩
    · exact absurd hMem List.not_mem_nil
    · obtain ⟨_, hId⟩ := exists_of_list? hRead id hMem
      exact le_of_nat64? hId
  case extras_ordered =>
    rcases eq_or_exists_of_getD? hExtras with rfl | ⟨_, hRead⟩
    · exact List.Pairwise.nil
    · exact ordered_of_dictionary? hRead

theorem plain_leading (h : node.Storable) : ∀ field ∈ node.leading, Plain field.2 := by
  have hIndex : Fits node.index.toNat :=
    fits_natCast (node.index.toNat_lt_size.le.trans (by decide))
  simp only [leading, toJson, Json.ofGroups, fieldsOf, List.flatten_cons, List.cons_append,
    List.take_succ_cons, List.take_zero, List.forall_mem_cons]
  exact ⟨.integer (fits_natCast h.id_le), .string _, .integer (fits_natCast h.depth_le), .string _,
    .string _, .string _, .string _, .string _, .integer hIndex, node.bounds.plain_toJson,
    node.flags.plain_toJson, List.forall_mem_nil _⟩

theorem plain_trailing (h : node.Storable) : ∀ field ∈ node.trailing, Plain field.2 := by
  have hExtras : Plain (.object (node.extras.map fun entry => (entry.1, .string entry.2))) := by
    refine .object fun field hField => ?_
    obtain ⟨entry, -, rfl⟩ := List.mem_map.mp hField
    exact .string entry.2
  have hParent : Plain (NodeId.toJson (node.parent.getD rootId)) := by
    cases hParent : node.parent with
    | none => exact .integer (fits_natCast (Nat.zero_le _))
    | some parent => exact .integer (fits_natCast (h.parent_le parent hParent))
  have hChildren : Plain (.array (node.children.map NodeId.toJson)) := by
    refine .array fun item hItem => ?_
    obtain ⟨child, hChild, rfl⟩ := List.mem_map.mp hItem
    exact .integer (fits_natCast (h.children_le child hChild))
  rw [trailing, List.forall_mem_append, List.forall_mem_append]
  exact ⟨plain_fieldIf _ _ hExtras, plain_fieldIf _ _ hParent, plain_fieldIf _ _ hChildren⟩

theorem plain_toJson (h : node.Storable) : Plain node.toJson := by
  rw [toJson_eq]
  exact .object (List.forall_mem_append.mpr ⟨plain_leading h, plain_trailing h⟩)

end Node

/-! ## Failures -/

theorem FailureCode.ofTerm?_toJson (code : FailureCode) :
    FailureCode.ofTerm? code.toJson.toTerm = some code := by
  cases code <;> rfl

theorem Failure.ofTerm?_toJson (failure : Failure) :
    Failure.ofTerm? failure.toJson.toTerm = some failure := by
  have hFields : fields? ["code", "message", "suggestion"] 3 failure.toJson.toTerm =
      some (written (fieldsOf failure.toJson)) := by
    refine fields?_object ?_ (by decide) 3
    exact List.Sublist.refl _
  have hCode : get? (written (fieldsOf failure.toJson)) "code" FailureCode.ofTerm? =
      some failure.code := (get?_eq rfl).trans (FailureCode.ofTerm?_toJson failure.code)
  have hMessage : get? (written (fieldsOf failure.toJson)) "message" text? =
      some failure.message := rfl
  have hSuggestion : getD? (written (fieldsOf failure.toJson)) "suggestion" (nullable? text?) none =
      some failure.suggestion := by
    obtain ⟨code, message, suggestion⟩ := failure
    cases suggestion <;> rfl
  rw [Failure.ofTerm?, bind_of_eq_some hFields, bind_of_eq_some hCode, bind_of_eq_some hMessage,
    bind_of_eq_some hSuggestion]
  rfl

theorem Failure.plain_toJson (failure : Failure) : Plain failure.toJson := by
  obtain ⟨code, message, suggestion⟩ := failure
  refine .object ?_
  simp only [List.forall_mem_cons]
  refine ⟨.string _, .string _, ?_, List.forall_mem_nil _⟩
  cases suggestion with
  | none => exact .null
  | some suggestion => exact .string suggestion

/-! ## Texts -/

namespace Record

theorem read?_compact {α : Type} (ofTerm? : Term → Option α) {value : Json} (h : Plain value) :
    read? ofTerm? value.compact = ofTerm? value.toTerm := by
  rw [read?, h.read?_compact]
  rfl

theorem read?_toJson {node : Node} (h : node.Storable) :
    read? Node.ofTerm? node.toJson.compact = some node := by
  rw [read?_compact _ (Node.plain_toJson h), Node.ofTerm?_toJson h]

/-- **Elements and failures are read back from their JSON texts.** Whatever characters the strings
of an element hold, and whether it has extra attributes, a parent or children or none of them, its
text denotes the element again. So does the text of a failure, with a suggestion or without. No text
at all denotes an element that could not be stored. -/
theorem read?_written :
    (∀ node : Node, node.Storable → read? Node.ofTerm? node.toJson.compact = some node) ∧
      (∀ failure : Failure, read? Failure.ofTerm? failure.toJson.compact = some failure) ∧
      ∀ (text : Text) (node : Node), read? Node.ofTerm? text = some node → node.Storable := by
  refine ⟨fun node => read?_toJson, fun failure => ?_, fun text node h => ?_⟩
  · rw [read?_compact _ failure.plain_toJson, Failure.ofTerm?_toJson]
  · obtain ⟨term, -, hTerm⟩ := Option.bind_eq_some_iff.mp h
    exact Node.storable_of_ofTerm? hTerm

/-- An element whose strings need escapes, with extra attributes, a parent and a child. -/
def quotedNode : Node where
  id := 7
  path := "0.1"
  depth := 1
  className := "a.\"B\\"
  resourceId := ['\x00', '\x1f', '\x7f']
  text := "line\n\ttab\r"
  description := ['\x08', '\x0c', '\u2028', Char.ofNat 0x1f600]
  package := []
  index := 4294967295
  bounds := ⟨-2147483648, 0, 2147483647, -1⟩
  flags := .default
  extras := [([], "/"), ("k\"", [])]
  parent := some 0
  children := [18446744073709551615]

theorem read?_written_quotedNode :
    read? Node.ofTerm? quotedNode.toJson.compact = some quotedNode ∧
      read? Node.ofTerm? (Node.bare "B").toJson.compact = some (Node.bare "B") ∧
      read? Failure.ofTerm? (Failure.notFound "#a\"").toJson.compact =
        some (Failure.notFound "#a\"") :=
  ⟨read?_written.1 quotedNode ⟨by decide, by decide, by decide, by decide, by decide⟩,
    read?_written.1 (Node.bare "B") ⟨by decide, by decide, by decide, by decide, by decide⟩,
    read?_written.2.1 (Failure.notFound "#a\"")⟩

end Record

end ScreenQuery
