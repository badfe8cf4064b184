import ScreenQuery.Json.Term
import ScreenQuery.Failure
import ScreenQuery.Node

/-!
# Reading records

* A record is an object whose keys are the names of its fields, in any order. Other keys are passed
  over; a field that is given twice or is missing makes the record unreadable.
* A record may also be an array of the values of its fields, in their order.
* A missing parent or suggestion is the same as `null`, and missing extra attributes or children are
  none; in an array only children may be missing.

These are the derived readers of `Node`, `Flags`, `Bounds`, `ErrorCode`, `ApiError` and what they
consist of. Out of scope: the wording of faults. Snapshots and handles are only written.
-/

namespace ScreenQuery.Record

open Json (Term)

/-! ## Values -/

/-- An integer from `low` to `high`. -/
def int? (low high : Int) : Term → Option Int
  | .number (some (.integer i)) => if low ≤ i ∧ i ≤ high then some i else none
  | _ => none

/-- A signed 32-bit integer. -/
def int32? (term : Term) : Option Int32 :=
  (int? Int32.minValue.toInt Int32.maxValue.toInt term).map Int32.ofInt

/-- An unsigned 32-bit integer. -/
def uint32? (term : Term) : Option UInt32 :=
  (int? 0 (UInt32.size - 1) term).map fun i => UInt32.ofNat i.toNat

/-- An unsigned 64-bit integer. -/
def nat64? (term : Term) : Option Nat := (int? 0 Text.uint64Limit term).map Int.toNat

/-- A truth value. -/
def bool? : Term → Option Bool
  | .bool value => some value
  | _ => none

/-- A text. -/
def text? : Term → Option Text
  | .string value => value
  | _ => none

/-- A value, or `null` for none. -/
def nullable? {α : Type} (read : Term → Option α) : Term → Option (Option α)
  | .null => some none
  | term => (read term).map some

/-- A list of values. -/
def list? {α : Type} (read : Term → Option α) : Term → Option (List α)
  | .array items => items.mapM read
  | _ => none

/-- An object whose values are all of one kind; of a repeated key the last value counts. -/
def dictionary? {α : Type} (read : Term → Option α) : Term → Option (Dictionary α)
  | .object fields => do
    let entries ← fields.mapM fun (key, term) => do return (← key, ← read term)
    return Dictionary.ofList entries
  | _ => none

/-- The name of a variant: a string, or an object with that only key and the value `null`. -/
def variant? : Term → Option Text
  | .string name => name
  | .object [(name, .null)] => name
  | _ => none

/-! ## Fields -/

/-- The fields of a record by name. -/
abbrev Fields := List (Text × Term)

/-- The fields of an object that have one of the names, if none is given twice. -/
def fieldsOfObject? (names : List Text) (fields : List (Option Text × Term)) : Option Fields := do
  let entries ← fields.mapM fun (key, term) => do return (← key, term)
  let known := entries.filter fun entry => names.contains entry.1
  if (known.map Prod.fst).Nodup then some known else none

/-- The fields of a record with the given names; an array has to give the first `needed`. -/
def fields? (names : List Text) (needed : Nat) : Term → Option Fields
  | .object fields => fieldsOfObject? names fields
  | .array items =>
    if needed ≤ items.length ∧ items.length ≤ names.length then some (names.zip items) else none
  | _ => none

/-- The term of a field. -/
def term? (fields : Fields) (name : Text) : Option Term :=
  (fields.find? fun entry => entry.1 == name).map Prod.snd

/-- The value of a field that has to be there. -/
def get? {α : Type} (fields : Fields) (name : Text) (read : Term → Option α) : Option α :=
  term? fields name >>= read

/-- The value of a field, or another one when the field is missing. -/
def getD? {α : Type} (fields : Fields) (name : Text) (read : Term → Option α) (missing : α) :
    Option α :=
  match term? fields name with
  | some term => read term
  | none => some missing

end Record

open Json (Term)
open Record

/-! ## Records -/

/-- The place that a record denotes. -/
def Point.ofTerm? (term : Term) : Option Point := do
  let fields ← fields? ["x", "y"] 2 term
  return ⟨← get? fields "x" int32?, ← get? fields "y" int32?⟩

/-- The size that a record denotes. -/
def Size.ofTerm? (term : Term) : Option Size := do
  let fields ← fields? ["width", "height"] 2 term
  return ⟨← get? fields "width" int32?, ← get? fields "height" int32?⟩

/-- The rectangle that a record denotes. -/
def Bounds.ofTerm? (term : Term) : Option Bounds := do
  let fields ← fields? ["x1", "y1", "x2", "y2"] 4 term
  return ⟨← get? fields "x1" int32?, ← get? fields "y1" int32?, ← get? fields "x2" int32?,
    ← get? fields "y2" int32?⟩

/-- The id that a value denotes. -/
def NodeId.ofTerm? (term : Term) : Option NodeId := nat64? term

/-- The flag that a value denotes. -/
def Flag.ofTerm? (term : Term) : Option Flag := variant? term >>= Flag.ofFieldName?

/-- The flags that a record denotes. -/
def Flags.ofTerm? (term : Term) : Option Flags := do
  let fields ← fields? (Flag.all.map Flag.fieldName) 11 term
  let read := fun (flag : Flag) => get? fields flag.fieldName bool?
  return {
    clickable := ← read .clickable
    longClickable := ← read .longClickable
    enabled := ← read .enabled
    selected := ← read .selected
    focused := ← read .focused
    focusable := ← read .focusable
    scrollable := ← read .scrollable
    checkable := ← read .checkable
    checked := ← read .checked
    password := ← read .password
    visibleToUser := ← read .visibleToUser }

/-- The names of the fields of an element. -/
def Node.fieldNames : List Text :=
  ["id", "path", "depth", "class_name", "resource_id", "text", "description", "package", "index",
    "bounds", "flags", "extras", "parent", "children"]

/-- The element that a record denotes. -/
def Node.ofTerm? (term : Term) : Option Node := do
  let fields ← fields? Node.fieldNames 13 term
  return {
    id := ← get? fields "id" NodeId.ofTerm?
    path := ← get? fields "path" text?
    depth := ← get? fields "depth" nat64?
    className := ← get? fields "class_name" text?
    resourceId := ← get? fields "resource_id" text?
    text := ← get? fields "text" text?
    description := ← get? fields "description" text?
    package := ← get? fields "package" text?
    index := ← get? fields "index" uint32?
    bounds := ← get? fields "bounds" Bounds.ofTerm?
    flags := ← get? fields "flags" Flags.ofTerm?
    extras := ← getD? fields "extras" (dictionary? text?) []
    parent := ← getD? fields "parent" (nullable? NodeId.ofTerm?) none
    children := ← getD? fields "children" (list? NodeId.ofTerm?) [] }

/-- The failure code that a value denotes. -/
def FailureCode.ofTerm? (term : Term) : Option FailureCode :=
  variant? term >>= FailureCode.ofName?

/-- The failure that a record denotes. -/
def Failure.ofTerm? (term : Term) : Option Failure := do
  let fields ← fields? ["code", "message", "suggestion"] 3 term
  return ⟨← get? fields "code" FailureCode.ofTerm?, ← get? fields "message" text?,
    ← getD? fields "suggestion" (nullable? text?) none⟩

/-- The value that a JSON text denotes; what a record passes over may be nested to any depth. -/
def Record.read? {α : Type} (ofTerm? : Term → Option α) (text : Text) : Option α :=
  Term.read? text.length text >>= ofTerm?

end ScreenQuery
