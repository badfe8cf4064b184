import ScreenQuery.Text.Utf8

/-!
# Texts as bytes

Different texts have different bytes in UTF-8, and the byte 0xff is never one of them. The texts are
put together like their bytes, and an ASCII character is one byte.
-/

namespace ScreenQuery.Text

theorem utf8Encode_eq (text : Text) : text.utf8Encode = (bytes text).toByteArray := rfl

theorem bytes_inj {a b : Text} : bytes a = bytes b ↔ a = b := by
  refine ⟨fun h => String.ofList_injective (String.toByteArray_inj.mp ?_), congrArg bytes⟩
  rw [String.toByteArray_ofList, String.toByteArray_ofList, utf8Encode_eq, utf8Encode_eq, h]

theorem bytes_append (a b : Text) : bytes (a ++ b) = bytes a ++ bytes b := List.flatMap_append

/-- An ASCII character is a single byte. -/
theorem bytes_cons_ascii {c : Char} (h : c.toNat < 128) (text : Text) :
    bytes (c :: text) = UInt8.ofNat c.toNat :: bytes text := by
  have hLe : c.val.toNat ≤ 127 := Nat.le_of_lt_succ h
  unfold bytes
  rw [List.flatMap_cons, String.utf8EncodeChar]
  simp only [if_pos hLe]
  rfl

theorem lt_of_mem_utf8EncodeChar {c : Char} {b : UInt8} (h : b ∈ String.utf8EncodeChar c) :
    b.toNat < 0xf8 := by
  unfold String.utf8EncodeChar at h
  simp only at h
  split at h
  · simp only [List.mem_singleton] at h
    rw [h, UInt8.toNat_ofNat']
    omega
  · split at h
    · simp only [List.mem_cons, List.not_mem_nil, or_false] at h
      rcases h with rfl | rfl <;> (rw [UInt8.toNat_ofNat']; omega)
    · split at h
      · simp only [List.mem_cons, List.not_mem_nil, or_false] at h
        rcases h with rfl | rfl | rfl <;> (rw [UInt8.toNat_ofNat']; omega)
      · simp only [List.mem_cons, List.not_mem_nil, or_false] at h
        rcases h with rfl | rfl | rfl | rfl <;> (rw [UInt8.toNat_ofNat']; omega)

theorem lt_of_mem_bytes {text : Text} {b : UInt8} (h : b ∈ bytes text) : b.toNat < 0xf8 := by
  obtain ⟨c, -, hb⟩ := List.mem_flatMap.mp h
  exact lt_of_mem_utf8EncodeChar hb

end ScreenQuery.Text
