import TunnelConfig.Bytes.Word

/-!
# Blocks

A block is a byte string of known length: a key, an address field, a whole record. Cutting a piece
out of a block at a fixed place gives a block again, so a record reader never has to ask whether
its bytes are there.
-/

namespace TunnelConfig

/-- A byte string of exactly `n` bytes. -/
structure Block (n : Nat) where
  /-- The bytes in order. -/
  toList : Bytes
  /-- There are `n` of them. -/
  length_toList : toList.length = n
  deriving DecidableEq

namespace Block

variable {n : Nat}

/-- The block of `n` zero bytes. -/
def zero : Block n := ⟨Bytes.zeros n, Bytes.length_zeros n⟩

instance : Inhabited (Block n) := ⟨zero⟩

/-- The given bytes as a block, if there are exactly `n`. -/
def ofList? (bs : Bytes) : Option (Block n) :=
  if h : bs.length = n then some ⟨bs, h⟩ else none

/-- The bytes in opposite order. -/
def reverse (b : Block n) : Block n := ⟨b.toList.reverse, by simp [b.length_toList]⟩

/-- The `width` bytes that start at `offset`. -/
def slice (b : Block n) (offset width : Nat) (fits : offset + width ≤ n) : Block width :=
  ⟨(b.toList.drop offset).take width, by simp [b.length_toList]; omega⟩

/-- The little-endian number in the `width` bytes that start at `offset`. -/
def little (b : Block n) (offset width : Nat) : Nat :=
  Bytes.littleValue ((b.toList.drop offset).take width)

/-- The big-endian number in the `width` bytes that start at `offset`. -/
def big (b : Block n) (offset width : Nat) : Nat :=
  Bytes.bigValue ((b.toList.drop offset).take width)

@[ext] theorem ext {a b : Block n} (h : a.toList = b.toList) : a = b := by
  cases a; cases b; simp_all

@[simp] theorem toList_zero : (zero : Block n).toList = Bytes.zeros n := rfl

@[simp] theorem toList_reverse (b : Block n) : b.reverse.toList = b.toList.reverse := rfl

@[simp] theorem toList_slice (b : Block n) (offset width : Nat) (fits : offset + width ≤ n) :
    (b.slice offset width fits).toList = (b.toList.drop offset).take width := rfl

theorem ofList?_toList (b : Block n) : ofList? b.toList = some b := by
  simp [ofList?, b.length_toList]

end Block

end TunnelConfig
