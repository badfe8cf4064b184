import ScreenQuery.Text.Basic

/-!
# UTF-8

* `byteLength` and `bytes` are the length and the bytes of a text in UTF-8; positions in a dump
  are counted in bytes.
* `ofBytes` reads bytes as UTF-8. A part that is not valid becomes one U+FFFD: the longest start
  of a well-formed sequence, or else a single byte.

`ofBytes` is how the output of a program and a saved dump become a text.
-/

namespace ScreenQuery.Text

/-- The number of bytes of a text. -/
def byteLength (text : Text) : Nat := text.foldl (fun n c => n + c.utf8Size) 0

/-- The bytes of a text. -/
def bytes (text : Text) : List UInt8 := text.flatMap String.utf8EncodeChar

/-- What a leading byte announces: how many bytes follow it, the range of the first of them, and
the bits that the leading byte contributes. -/
structure Lead where
  followers : Nat
  low : UInt8
  high : UInt8
  bits : Nat

/-- The shape of the sequence that a byte from 0x80 up starts. -/
def lead? (b : UInt8) : Option Lead :=
  if 0xc2 ≤ b ∧ b ≤ 0xdf then some ⟨1, 0x80, 0xbf, b.toNat - 0xc0⟩
  else if b = 0xe0 then some ⟨2, 0xa0, 0xbf, 0⟩
  else if b = 0xed then some ⟨2, 0x80, 0x9f, 0xd⟩
  else if 0xe1 ≤ b ∧ b ≤ 0xef then some ⟨2, 0x80, 0xbf, b.toNat - 0xe0⟩
  else if b = 0xf0 then some ⟨3, 0x90, 0xbf, 0⟩
  else if 0xf1 ≤ b ∧ b ≤ 0xf3 then some ⟨3, 0x80, 0xbf, b.toNat - 0xf0⟩
  else if b = 0xf4 then some ⟨3, 0x80, 0x8f, 4⟩
  else none

/-- Reads the `missing` bytes that a sequence still needs, the first of them from `low` to `high`:
the code point, or nothing when a byte does not fit, and the bytes that were not used. -/
def readTail (value : Nat) (low high : UInt8) : (missing : Nat) → List UInt8 →
    Option Nat × List UInt8
  | 0, rest => (some value, rest)
  | missing + 1, b :: rest =>
    if low ≤ b ∧ b ≤ high then readTail (value * 64 + (b.toNat - 0x80)) 0x80 0xbf missing rest
    else (none, b :: rest)
  | _ + 1, [] => (none, [])

theorem readTail_length_le (value : Nat) (low high : UInt8) (missing : Nat) (rest : List UInt8) :
    (readTail value low high missing rest).2.length ≤ rest.length := by
  fun_induction readTail value low high missing rest with
  | case1 => exact Nat.le_refl _
  | case2 value low high missing b rest _ ih => exact Nat.le_trans ih (Nat.le_succ _)
  | case3 => exact Nat.le_refl _
  | case4 => exact Nat.le_refl _

/-- The work of `ofBytes`: what has been read, reversed, and the bytes to come. -/
def ofBytesFrom (read : Text) : List UInt8 → Text
  | [] => read.reverse
  | b :: rest =>
    if b < 0x80 then ofBytesFrom (Char.ofNat b.toNat :: read) rest
    else match lead? b with
      | none => ofBytesFrom ('\ufffd' :: read) rest
      | some lead =>
        match h : readTail lead.bits lead.low lead.high lead.followers rest with
        | (some code, rest') =>
          have : rest'.length ≤ rest.length := by
            have := readTail_length_le lead.bits lead.low lead.high lead.followers rest
            rw [h] at this
            exact this
          ofBytesFrom (Char.ofNat code :: read) rest'
        | (none, rest') =>
          have : rest'.length ≤ rest.length := by
            have := readTail_length_le lead.bits lead.low lead.high lead.followers rest
            rw [h] at this
            exact this
          ofBytesFrom ('\ufffd' :: read) rest'
termination_by rest => rest.length
decreasing_by all_goals simp_wf; try omega

/-- The text that bytes denote, with U+FFFD for what is not valid. -/
def ofBytes (raw : List UInt8) : Text := ofBytesFrom [] raw

end ScreenQuery.Text
