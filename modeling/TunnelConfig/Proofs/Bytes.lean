import TunnelConfig.Bytes.Block
import TunnelConfig.Bytes.Value

/-!
# Pieces of byte strings

What is read from a byte string and written back is the same byte string, and a byte string that
was put together gives back its parts.

* **Numbers.** `littleEndian_littleValue` and `bigEndian_bigValue` are the converses of the laws
  about values: the digits of the value of some bytes are those bytes.
* **Parts.** `take_drop_append` looks for a piece of an appended string behind its first half. A
  record is an appended string of its fields, so this finds any field of a written record.
* **Pieces.** A `piece` of a block is a slice that needs no proof that it fits. Neighbouring pieces
  make one piece (`toList_piece_append`).
* **Runs.** `exists_blocks` cuts a run of bytes into blocks of equal size.
-/

namespace TunnelConfig

namespace Bytes

/-! ## Numbers -/

theorem littleEndian_littleValue (bs : Bytes) : littleEndian bs.length (littleValue bs) = bs := by
  induction bs with
  | nil => rfl
  | cons b rest ih =>
    have hb : b.toNat < 256 := b.toNat_lt
    have low : UInt8.ofNat (b.toNat + 256 * littleValue rest) = b := by
      apply UInt8.toNat_inj.mp
      rw [UInt8.toNat_ofNat']
      omega
    have high : (b.toNat + 256 * littleValue rest) / 256 = littleValue rest := by omega
    rw [List.length_cons, littleValue, littleEndian, low, high, ih]

theorem bigEndian_bigValue (bs : Bytes) : bigEndian bs.length (bigValue bs) = bs := by
  rw [bigEndian, bigValue, ← List.length_reverse, littleEndian_littleValue, List.reverse_reverse]

theorem littleEndian_zero (width : Nat) : littleEndian width 0 = zeros width := by
  induction width with
  | zero => rfl
  | succ width ih => rw [littleEndian, Nat.zero_div, ih]; rfl

theorem littleValue_littleEndian_of_lt {width value : Nat} (h : value < 256 ^ width) :
    littleValue (littleEndian width value) = value := by
  rw [littleValue_littleEndian, Nat.mod_eq_of_lt h]

theorem bigValue_bigEndian_of_lt {width value : Nat} (h : value < 256 ^ width) :
    bigValue (bigEndian width value) = value := by
  rw [bigValue_bigEndian, Nat.mod_eq_of_lt h]

theorem bigValue_lt (bs : Bytes) : bigValue bs < 256 ^ bs.length := by
  rw [← List.length_reverse]
  exact littleValue_lt bs.reverse

/-! ## Parts -/

theorem take_drop_append {xs ys : Bytes} {offset : Nat} (width : Nat)
    (h : xs.length ≤ offset) :
    ((xs ++ ys).drop offset).take width = (ys.drop (offset - xs.length)).take width := by
  rw [List.drop_append, List.drop_eq_nil_of_le h, List.nil_append]

end Bytes

namespace Block

variable {n : Nat}

theorem little_lt (b : Block n) (offset width : Nat) : b.little offset width < 256 ^ width := by
  refine Nat.lt_of_lt_of_le (Bytes.littleValue_lt _) (Nat.pow_le_pow_right (by decide) ?_)
  exact List.length_take_le _ _

theorem big_lt (b : Block n) (offset width : Nat) : b.big offset width < 256 ^ width := by
  refine Nat.lt_of_lt_of_le (Bytes.bigValue_lt _) (Nat.pow_le_pow_right (by decide) ?_)
  exact List.length_take_le _ _

/-! ## Pieces -/

/-- The `width` bytes that start at `offset`, or zeros if the block ends before. -/
def piece (b : Block n) (offset width : Nat) : Block width :=
  if fits : offset + width ≤ n then b.slice offset width fits else zero

theorem piece_eq_slice (b : Block n) {offset width : Nat} (fits : offset + width ≤ n) :
    b.piece offset width = b.slice offset width fits :=
  dif_pos fits

theorem littleEndian_little (b : Block n) {offset width : Nat} (fits : offset + width ≤ n) :
    Bytes.littleEndian width (b.little offset width) = (b.piece offset width).toList := by
  have h := Bytes.littleEndian_littleValue (b.slice offset width fits).toList
  rw [(b.slice offset width fits).length_toList] at h
  rw [b.piece_eq_slice fits]
  exact h

theorem bigEndian_big (b : Block n) {offset width : Nat} (fits : offset + width ≤ n) :
    Bytes.bigEndian width (b.big offset width) = (b.piece offset width).toList := by
  have h := Bytes.bigEndian_bigValue (b.slice offset width fits).toList
  rw [(b.slice offset width fits).length_toList] at h
  rw [b.piece_eq_slice fits]
  exact h

theorem slice_slice (b : Block n) {start size offset width : Nat} (fits : start + size ≤ n)
    (h : offset + width ≤ size) :
    (b.slice start size fits).slice offset width h = b.slice (start + offset) width (by omega) := by
  apply ext
  rw [toList_slice, toList_slice, toList_slice, List.drop_take, List.drop_drop, List.take_take,
    Nat.min_eq_left (by omega)]

/-- Neighbouring pieces make one piece. -/
theorem toList_piece_append (b : Block n) {offset width more : Nat}
    (fits : offset + width + more ≤ n) :
    (b.piece offset width).toList ++ (b.piece (offset + width) more).toList =
      (b.piece offset (width + more)).toList := by
  rw [b.piece_eq_slice (by omega), b.piece_eq_slice fits, b.piece_eq_slice (by omega), toList_slice,
    toList_slice, toList_slice, List.take_add, List.drop_drop]

/-- All bytes are one piece. -/
theorem toList_piece_zero (b : Block n) : (b.piece 0 n).toList = b.toList := by
  rw [b.piece_eq_slice (by omega), toList_slice, List.drop_zero,
    List.take_of_length_le (Nat.le_of_eq b.length_toList)]

/-! ## Fields of a fixed width -/

theorem toNat_little_one (b : Block n) (offset : Nat) :
    (UInt8.ofNat (b.little offset 1)).toNat = b.little offset 1 := by
  rw [UInt8.toNat_ofNat']
  exact Nat.mod_eq_of_lt (b.little_lt offset 1)

theorem toNat_little_two (b : Block n) (offset : Nat) :
    (UInt16.ofNat (b.little offset 2)).toNat = b.little offset 2 := by
  rw [UInt16.toNat_ofNat']
  exact Nat.mod_eq_of_lt (b.little_lt offset 2)

theorem toNat_little_four (b : Block n) (offset : Nat) :
    (UInt32.ofNat (b.little offset 4)).toNat = b.little offset 4 := by
  rw [UInt32.toNat_ofNat']
  exact Nat.mod_eq_of_lt (b.little_lt offset 4)

theorem toNat_little_eight (b : Block n) (offset : Nat) :
    (UInt64.ofNat (b.little offset 8)).toNat = b.little offset 8 := by
  rw [UInt64.toNat_ofNat']
  exact Nat.mod_eq_of_lt (b.little_lt offset 8)

theorem toNat_big_two (b : Block n) (offset : Nat) :
    (UInt16.ofNat (b.big offset 2)).toNat = b.big offset 2 := by
  rw [UInt16.toNat_ofNat']
  exact Nat.mod_eq_of_lt (b.big_lt offset 2)

theorem toNat_big_four (b : Block n) (offset : Nat) :
    (UInt32.ofNat (b.big offset 4)).toNat = b.big offset 4 := by
  rw [UInt32.toNat_ofNat']
  exact Nat.mod_eq_of_lt (b.big_lt offset 4)

/-! ## Runs -/

/-- A run of the right length is a row of blocks. -/
theorem exists_blocks (size count : Nat) (bs : Bytes) (h : bs.length = count * size) :
    ∃ blocks : List (Block size), blocks.length = count ∧ blocks.flatMap toList = bs := by
  induction count generalizing bs with
  | zero => exact ⟨[], rfl, (List.eq_nil_of_length_eq_zero (by omega)).symm⟩
  | succ count ih =>
    rw [Nat.succ_mul] at h
    have hfirst : (bs.take size).length = size := by rw [List.length_take]; omega
    obtain ⟨blocks, hcount, hrest⟩ := ih (bs.drop size) (by rw [List.length_drop]; omega)
    refine ⟨⟨bs.take size, hfirst⟩ :: blocks, by simp [hcount], ?_⟩
    rw [List.flatMap_cons, hrest, List.take_append_drop]

theorem length_flatMap_toList {size : Nat} (blocks : List (Block size)) :
    (blocks.flatMap toList).length = blocks.length * size := by
  induction blocks with
  | nil => simp
  | cons b blocks ih =>
    rw [List.flatMap_cons, List.length_append, b.length_toList, ih, List.length_cons,
      Nat.succ_mul, Nat.add_comm]

end Block

end TunnelConfig
