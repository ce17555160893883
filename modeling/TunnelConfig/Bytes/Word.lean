/-!
# Byte strings and the numbers they spell

A number of a fixed width is written as its base-256 digits, either lowest digit first
(*little-endian*) or highest digit first (*big-endian*). Writing always yields exactly the width
asked for and drops what does not fit; reading takes whatever it is given.
-/

namespace TunnelConfig

abbrev Bytes := List UInt8

namespace Bytes

def zeros (n : Nat) : Bytes := List.replicate n 0

/-! ## Little-endian numbers -/

/-- The `width` lowest base-256 digits of `value`, lowest first. -/
def littleEndian : (width : Nat) → (value : Nat) → Bytes
  | 0, _ => []
  | width + 1, value => UInt8.ofNat value :: littleEndian width (value / 256)

/-- The number whose base-256 digits, lowest first, are the given bytes. -/
def littleValue : Bytes → Nat
  | [] => 0
  | b :: rest => b.toNat + 256 * littleValue rest

@[simp] theorem length_zeros (n : Nat) : (zeros n).length = n := by
  simp [zeros]

@[simp] theorem length_littleEndian (width value : Nat) :
    (littleEndian width value).length = width := by
  induction width generalizing value with
  | zero => rfl
  | succ width ih => simp [littleEndian, ih]

/-! ## Big-endian numbers -/

/-- The `width` lowest base-256 digits of `value`, highest first. -/
def bigEndian (width value : Nat) : Bytes := (littleEndian width value).reverse

/-- The number whose base-256 digits, highest first, are the given bytes. -/
def bigValue (bs : Bytes) : Nat := littleValue bs.reverse

@[simp] theorem length_bigEndian (width value : Nat) : (bigEndian width value).length = width := by
  simp [bigEndian]

end Bytes

end TunnelConfig
