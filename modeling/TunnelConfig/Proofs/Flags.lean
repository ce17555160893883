import Mathlib.Algebra.Group.Nat.Even
import TunnelConfig.Wire.Flags

/-!
# Flags as sets of bits

A word of flags is a set of bit numbers below 32. `has` tells whether a bit is in the set, and every
operation on flags is known by what it does to the bits: `has_union`, `has_remove`, `has_put`. The
question `contains` is inclusion (`contains_iff`) and `intersects` is a common bit
(`intersects_iff`). A named flag is a `single` bit, so asking for it is asking for that bit.
-/

namespace TunnelConfig.Wire

namespace Flags

variable {owner : FlagOwner}

/-- Whether bit `k` is set. -/
def has (f : Flags owner) (k : Nat) : Bool := f.bits.toNat.testBit k

/-- The flags with only bit `k` set. -/
def single (k : Nat) : Flags owner := ⟨UInt32.ofNat (2 ^ k)⟩

theorem has_eq_getLsbD (f : Flags owner) (k : Nat) : f.has k = f.bits.toBitVec.getLsbD k := rfl

theorem has_of_ge (f : Flags owner) {k : Nat} (h : 32 ≤ k) : f.has k = false :=
  BitVec.getLsbD_of_ge f.bits.toBitVec k h

/-! ## Operations -/

@[simp] theorem has_empty (k : Nat) : (empty : Flags owner).has k = false := Nat.zero_testBit k

@[simp] theorem has_union (f g : Flags owner) (k : Nat) :
    (f.union g).has k = (f.has k || g.has k) := by
  rw [has, union, UInt32.toNat_or, Nat.testBit_or]
  rfl

theorem has_remove (f g : Flags owner) (k : Nat) :
    (f.remove g).has k = (f.has k && !g.has k) := by
  by_cases hk : k < 32
  · rw [has_eq_getLsbD, remove, UInt32.toBitVec_and, UInt32.toBitVec_not, BitVec.getLsbD_and,
      BitVec.getLsbD_not, decide_eq_true hk, Bool.true_and]
    rfl
  · rw [has_of_ge _ (Nat.le_of_not_lt hk), has_of_ge f (Nat.le_of_not_lt hk), Bool.false_and]

@[simp] theorem has_put (f g : Flags owner) (present : Bool) (k : Nat) :
    (f.put g present).has k = if g.has k then present else f.has k := by
  cases present with
  | true => cases hg : g.has k <;> simp [put, hg]
  | false => cases hg : g.has k <;> simp [put, has_remove, hg]

@[simp] theorem has_when (present : Bool) (g : Flags owner) (k : Nat) :
    (when present g).has k = (present && g.has k) := by
  cases present <;> simp [when]

/-! ## Questions -/

theorem contains_iff (f g : Flags owner) :
    f.contains g = true ↔ ∀ k, g.has k = true → f.has k = true := by
  rw [contains, beq_iff_eq]
  constructor
  · intro h k hk
    rw [has, ← h, UInt32.toNat_and, Nat.testBit_and, Bool.and_eq_true] at hk
    exact hk.1
  · intro h
    apply UInt32.toNat_inj.mp
    apply Nat.eq_of_testBit_eq
    intro k
    rw [UInt32.toNat_and, Nat.testBit_and]
    cases hg : g.bits.toNat.testBit k with
    | false => rw [Bool.and_false]
    | true => rw [Bool.and_true]; exact h k hg

theorem intersects_iff (f g : Flags owner) :
    f.intersects g = true ↔ ∃ k, f.has k = true ∧ g.has k = true := by
  rw [intersects, bne_iff_ne]
  constructor
  · intro h
    have hne : (f.bits &&& g.bits).toNat ≠ 0 := fun h0 => h (UInt32.toNat_inj.mp h0)
    obtain ⟨k, hk⟩ := Nat.exists_testBit_of_ne_zero hne
    rw [UInt32.toNat_and, Nat.testBit_and, Bool.and_eq_true] at hk
    exact ⟨k, hk⟩
  · rintro ⟨k, hf, hg⟩ h0
    have hk : (f.bits &&& g.bits).toNat.testBit k = true := by
      rw [UInt32.toNat_and, Nat.testBit_and, Bool.and_eq_true]
      exact ⟨hf, hg⟩
    rw [h0] at hk
    simp at hk

/-! ## Single flags -/

theorem toNat_single {k : Nat} (hk : k < 32) : (single k : Flags owner).bits.toNat = 2 ^ k := by
  rw [single, UInt32.toNat_ofNat']
  exact Nat.mod_eq_of_lt (Nat.pow_lt_pow_right (by decide) hk)

theorem has_single {k : Nat} (hk : k < 32) (i : Nat) :
    (single k : Flags owner).has i = decide (k = i) := by
  rw [has, toNat_single hk, Nat.testBit_two_pow]

theorem contains_single (f : Flags owner) {k : Nat} (hk : k < 32) :
    f.contains (single k) = f.has k := by
  rw [Bool.eq_iff_iff, contains_iff]
  constructor
  · intro h
    exact h k (by rw [has_single hk, decide_eq_true rfl])
  · intro h i hi
    rw [has_single hk, decide_eq_true_eq] at hi
    exact hi ▸ h

end Flags

/-! ## Named flags -/

namespace PeerFlags

@[simp] theorem has_publicKey (k : Nat) : publicKey.has k = decide (0 = k) :=
  Flags.has_single (k := 0) (by decide) k

@[simp] theorem has_removal (k : Nat) : removal.has k = decide (6 = k) :=
  Flags.has_single (k := 6) (by decide) k

@[simp] theorem has_update (k : Nat) : update.has k = decide (7 = k) :=
  Flags.has_single (k := 7) (by decide) k

/-- A removal is refused for any of the bits 1, 2, 3, 5 and 7. -/
theorem intersects_notOnRemoval (f : PeerFlags) :
    f.intersects notOnRemoval = true ↔
      f.has 7 ∨ f.has 5 ∨ f.has 1 ∨ f.has 2 ∨ f.has 3 := by
  have hbits : ∀ k, notOnRemoval.has k = true ↔ 7 = k ∨ 5 = k ∨ 1 = k ∨ 2 = k ∨ 3 = k := by
    intro k
    show (((Flags.single 7).union (Flags.single 5)).union
      (((Flags.single 1).union (Flags.single 2)).union (Flags.single 3)) : PeerFlags).has k ↔ _
    simp [Flags.has_single, or_assoc]
  rw [Flags.intersects_iff]
  simp only [hbits]
  constructor
  · rintro ⟨k, hk, rfl | rfl | rfl | rfl | rfl⟩ <;> simp [hk]
  · rintro (h | h | h | h | h)
    · exact ⟨7, h, by simp⟩
    · exact ⟨5, h, by simp⟩
    · exact ⟨1, h, by simp⟩
    · exact ⟨2, h, by simp⟩
    · exact ⟨3, h, by simp⟩

end PeerFlags

end TunnelConfig.Wire
