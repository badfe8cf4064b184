import ScreenQuery.ContentHash
import ScreenQuery.Proofs.Geometry
import ScreenQuery.Proofs.Text.Utf8
import Mathlib.Algebra.Group.Nat.Defs
import Mathlib.Data.List.Forall2

/-!
# What the content hash is about

* The bytes that the hash is taken of spell out a screen without ambiguity: two screens with the
  same bytes show the same, element by element (`ContentHash.encoding_and_hash`).
* A field has no separator in it (`not_mem_field`), so what two screens write can be cut into the
  same fields (`frames_inj`), and every field is told by its bytes (`fields_inj`). An element has a
  fixed number of fields, so the cuts fall between the same elements.
* The hash is FNV-1a as it is published, in numbers below `2 ^ 64` (`toNat_fnv1a`).

About `compute_content_hash`.
-/

namespace ScreenQuery

/-- Both elements show the user the same. Nothing is said of their ids, depths, packages, indices,
further attributes, parents and children. -/
structure Node.ShowsSame (a b : Node) : Prop where
  path : a.path = b.path
  className : a.className = b.className
  resourceId : a.resourceId = b.resourceId
  text : a.text = b.text
  description : a.description = b.description
  bounds : a.bounds = b.bounds
  flag : ∀ flag, a.flag flag = b.flag flag

namespace ContentHash

/-! ## The fields of an element -/

theorem not_mem_bytes (text : Text) : separator ∉ Text.bytes text := by
  intro h
  exact absurd (Text.lt_of_mem_bytes h) (by decide)

theorem not_mem_flagBytes (node : Node) : separator ∉ flagBytes node := by
  intro h
  obtain ⟨flag, -, hByte⟩ := List.mem_map.mp h
  cases hValue : node.flag flag <;> rw [hValue] at hByte <;> exact absurd hByte (by decide)

theorem not_mem_field {node : Node} {field : List UInt8} (h : field ∈ fields node) :
    separator ∉ field := by
  simp only [fields, List.mem_cons, List.not_mem_nil, or_false] at h
  rcases h with rfl | rfl | rfl | rfl | rfl | rfl | rfl
  case inr.inr.inr.inr.inr.inr => exact not_mem_flagBytes node
  all_goals exact not_mem_bytes _

theorem mem_all (flag : Flag) : flag ∈ Flag.all := by
  cases flag <;> decide

theorem flagBytes_inj {a b : Node} :
    flagBytes a = flagBytes b ↔ ∀ flag, a.flag flag = b.flag flag := by
  unfold flagBytes
  rw [List.map_inj_left]
  refine ⟨fun h flag => ?_, fun h flag _ => by rw [h flag]⟩
  have hByte := h flag (mem_all flag)
  cases ha : a.flag flag <;> cases hb : b.flag flag <;> simp [ha, hb] at hByte ⊢

theorem length_fields (node : Node) : (fields node).length = 7 := rfl

theorem fields_inj {a b : Node} : fields a = fields b ↔ a.ShowsSame b := by
  simp only [fields, List.cons.injEq, and_true, Text.bytes_inj, Bounds.toText_inj, flagBytes_inj]
  constructor
  · rintro ⟨hPath, hClass, hId, hText, hDescription, hBounds, hFlag⟩
    exact ⟨hPath, hClass, hId, hText, hDescription, hBounds, hFlag⟩
  · rintro ⟨hPath, hClass, hId, hText, hDescription, hBounds, hFlag⟩
    exact ⟨hPath, hClass, hId, hText, hDescription, hBounds, hFlag⟩

/-! ## The bytes of a screen -/

/-- As many fields on both sides, each ended by a separator, with anything behind them. -/
theorem frames_inj {these those : List (List UInt8)} {rest rest' : List UInt8}
    (hLength : these.length = those.length) (hThese : ∀ field ∈ these, separator ∉ field)
    (hThose : ∀ field ∈ those, separator ∉ field) :
    these.flatMap (· ++ [separator]) ++ rest = those.flatMap (· ++ [separator]) ++ rest' ↔
      these = those ∧ rest = rest' := by
  induction these generalizing those with
  | nil =>
    obtain rfl := List.length_eq_zero_iff.mp hLength.symm
    simp
  | cons field these ih =>
    cases those with
    | nil => cases hLength
    | cons field' those =>
      have hRest := ih (Nat.succ.inj hLength)
        (fun f hf => hThese f (List.mem_cons_of_mem field hf))
        (fun f hf => hThose f (List.mem_cons_of_mem field' hf))
      -- the first separator ends the first field on both sides
      simp only [List.flatMap_cons, List.append_assoc, List.cons_append, List.nil_append,
        List.cons.injEq]
      rw [Text.append_cons_inj (hThese field List.mem_cons_self)
        (hThose field' List.mem_cons_self), hRest, and_assoc]

theorem encoding_cons (node : Node) (nodes : List Node) :
    encoding (node :: nodes) = (fields node).flatMap (· ++ [separator]) ++ encoding nodes :=
  List.flatMap_cons

theorem encoding_cons_ne_nil {node : Node} {nodes : List Node} : encoding (node :: nodes) ≠ [] := by
  rw [encoding_cons]
  simp [fields]

theorem encoding_inj {a b : List Node} :
    encoding a = encoding b ↔ List.Forall₂ Node.ShowsSame a b := by
  induction a generalizing b with
  | nil =>
    cases b with
    | nil => simp
    | cons node b =>
      rw [List.forall₂_nil_left_iff]
      exact ⟨fun h => absurd h.symm encoding_cons_ne_nil, fun h => by cases h⟩
  | cons node a ih =>
    cases b with
    | nil =>
      rw [List.forall₂_nil_right_iff]
      exact ⟨fun h => absurd h encoding_cons_ne_nil, fun h => by cases h⟩
    | cons node' b =>
      have hLength : (fields node).length = (fields node').length :=
        (length_fields node).trans (length_fields node').symm
      rw [encoding_cons, encoding_cons, List.forall₂_cons,
        frames_inj hLength (fun _ => not_mem_field) (fun _ => not_mem_field), fields_inj, ih]

/-! ## The hash -/

/-- One step of FNV-1a as it is published: a byte is combined into the lowest bits by exclusive or,
then the whole is multiplied by the prime. -/
def publishedStep (hash : Nat) (byte : UInt8) : Nat :=
  (hash ^^^ byte.toNat) * 1099511628211 % 2 ^ 64

/-- 64-bit FNV-1a as it is published. -/
def publishedFnv1a (bytes : List UInt8) : Nat := bytes.foldl publishedStep 14695981039346656037

theorem toNat_step (hash : UInt64) (byte : UInt8) :
    (step hash byte).toNat = publishedStep hash.toNat byte := by
  have hPrime : (0x00000100000001b3 : UInt64).toNat = 1099511628211 := by decide
  unfold step publishedStep
  rw [UInt64.toNat_mul, UInt64.toNat_xor, UInt8.toNat_toUInt64, hPrime]

theorem toNat_fnv1a (bytes : List UInt8) : (fnv1a bytes).toNat = publishedFnv1a bytes := by
  have hOffset : (0xcbf29ce484222325 : UInt64).toNat = 14695981039346656037 := by decide
  unfold fnv1a publishedFnv1a
  rw [← hOffset]
  exact (List.foldl_hom UInt64.toNat fun hash byte => (toNat_step hash byte).symm).symm

/-- **The hash is taken of an unambiguous encoding.** Two screens are spelled out by the same bytes
just when they have equally many elements that show the same one by one. The hash is plain FNV-1a of
these bytes, so it depends on nothing else. -/
theorem encoding_and_hash (a b : List Node) :
    (encoding a = encoding b ↔ List.Forall₂ Node.ShowsSame a b) ∧
      (ofNodes a).toNat = publishedFnv1a (encoding a) ∧
      (List.Forall₂ Node.ShowsSame a b → ofNodes a = ofNodes b) := by
  have hHash : (ofNodes a).toNat = publishedFnv1a (encoding a) := toNat_fnv1a (encoding a)
  refine ⟨encoding_inj, hHash, fun h => ?_⟩
  unfold ofNodes
  rw [encoding_inj.mpr h]

/-- A package and an index make no difference. -/
theorem encoding_and_hash_packaged :
    let plain := Node.bare "a"
    let packaged := { plain with package := "p", index := 3 }
    List.Forall₂ Node.ShowsSame [plain] [packaged] ∧ ofNodes [plain] = ofNodes [packaged] := by
  intro plain packaged
  have hSame : plain.ShowsSame packaged := ⟨rfl, rfl, rfl, rfl, rfl, rfl, fun _ => rfl⟩
  have hAll := List.Forall₂.cons hSame .nil
  exact ⟨hAll, (encoding_and_hash [plain] [packaged]).2.2 hAll⟩

end ContentHash

end ScreenQuery
