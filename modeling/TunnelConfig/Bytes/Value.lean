import Mathlib.Algebra.Group.Nat.Even
import TunnelConfig.Bytes.Word

/-!
# The values of written numbers

A number that is written and read back is the same up to what does not fit into the width
(`littleValue_littleEndian`, `bigValue_bigEndian`), and every number that is read fits into the
width it is read from (`littleValue_lt`).
-/

namespace TunnelConfig.Bytes

theorem littleValue_littleEndian (width value : Nat) :
    littleValue (littleEndian width value) = value % 256 ^ width := by
  induction width generalizing value with
  | zero => simp [littleEndian, littleValue, Nat.mod_one]
  | succ width ih =>
    have low : (UInt8.ofNat value).toNat = value % 256 := by simp
    simp only [littleEndian, littleValue, ih, low]
    rw [Nat.pow_succ, Nat.mul_comm (256 ^ width) 256, Nat.mod_mul]

theorem littleValue_lt (bs : Bytes) : littleValue bs < 256 ^ bs.length := by
  induction bs with
  | nil => simp [littleValue]
  | cons b rest ih =>
    have hb : b.toNat < 256 := b.toNat_lt
    simp only [littleValue, List.length_cons, Nat.pow_succ]
    omega

theorem bigValue_bigEndian (width value : Nat) :
    bigValue (bigEndian width value) = value % 256 ^ width := by
  simp [bigValue, bigEndian, littleValue_littleEndian]

end TunnelConfig.Bytes
