import TunnelConfig.Number.Binary64
import TunnelConfig.Text.Number

/-!
# Numbers in JSON text

A number without fraction and exponent that fits 64 bits, with or without a sign, is an integer.
Every other number is a floating-point number, minus zero among them.

**Rounding.** The first digits of a number, as many as fit 64 bits without a sign, make up its
significand. Of the digits that do not fit, those before the point count as zeros and those after
it are dropped. The significand and the power of ten are each rounded to a floating-point number
and then multiplied or divided, so the result need not be the nearest one.
-/

namespace TunnelConfig.Json

inductive Number where
  | integer (value : Int)
  | real (value : Binary64)
  deriving DecidableEq

/-- The parts of a number as it is written. -/
structure Numeral where
  negative : Bool
  /-- The digits before the point. -/
  whole : List Char
  /-- The digits after the point, if there is one. -/
  fraction : Option (List Char)
  /-- Whether the exponent is negative, and its digits, if there is one. -/
  exponent : Option (Bool × List Char)
  deriving DecidableEq

namespace Numeral

/-! ## Form -/

/-- Takes the digits before the point off the front of a text: a lone zero or digits that do not
start with one. -/
def takeWhole (cs : List Char) : Option (List Char × List Char) :=
  match Text.takeDigits 10 cs with
  | ([], _) => none
  | (['0'], rest) => some (['0'], rest)
  | ('0' :: _, _) => none
  | (digits, rest) => some (digits, rest)

/-- Takes at least one digit off the front of a text. -/
def takeSome (cs : List Char) : Option (List Char × List Char) :=
  match Text.takeDigits 10 cs with
  | ([], _) => none
  | (digits, rest) => some (digits, rest)

/-- Takes a point and digits off the front of a text, if a point is there. -/
def takeFraction : List Char → Option (Option (List Char) × List Char)
  | '.' :: cs => (takeSome cs).map fun (digits, rest) => (some digits, rest)
  | cs => some (none, cs)

/-- Takes a sign off the front of a text, if one is there; tells whether it is a minus. -/
def takeSign : List Char → Bool × List Char
  | '-' :: cs => (true, cs)
  | '+' :: cs => (false, cs)
  | cs => (false, cs)

/-- Takes the digits of an exponent off the front of a text, with a sign if one is there. -/
def takeExponentDigits (cs : List Char) : Option (Option (Bool × List Char) × List Char) :=
  let sign := takeSign cs
  (takeSome sign.2).map fun (digits, rest) => (some (sign.1, digits), rest)

/-- Takes an exponent off the front of a text, if its letter is there. -/
def takeExponent : List Char → Option (Option (Bool × List Char) × List Char)
  | 'e' :: cs => takeExponentDigits cs
  | 'E' :: cs => takeExponentDigits cs
  | cs => some (none, cs)

/-- Takes a minus sign off the front of a text, if one is there. -/
def takeMinus : List Char → Bool × List Char
  | '-' :: cs => (true, cs)
  | cs => (false, cs)

/-- Takes a number off the front of a text. -/
def take (cs : List Char) : Option (Numeral × List Char) := do
  let (negative, cs) := takeMinus cs
  let (whole, cs) ← takeWhole cs
  let (fraction, cs) ← takeFraction cs
  let (exponent, cs) ← takeExponent cs
  return (⟨negative, whole, fraction, exponent⟩, cs)

/-! ### What is left gets shorter -/

theorem length_takeSome_lt {cs digits rest : List Char} (h : takeSome cs = some (digits, rest)) :
    rest.length < cs.length := by
  unfold takeSome at h
  split at h
  · simp at h
  · next ds tail hne htake =>
    have hlen := Text.length_takeDigits htake
    simp only [Option.some.injEq, Prod.mk.injEq] at h
    obtain ⟨rfl, rfl⟩ := h
    have : 0 < ds.length := List.length_pos_iff.2 (by rintro rfl; exact hne rfl)
    omega

theorem length_takeWhole_lt {cs digits rest : List Char} (h : takeWhole cs = some (digits, rest)) :
    rest.length < cs.length := by
  unfold takeWhole at h
  split at h
  · simp at h
  · next tail htake =>
    have hlen := Text.length_takeDigits htake
    simp only [Option.some.injEq, Prod.mk.injEq] at h
    obtain ⟨rfl, rfl⟩ := h
    simp only [List.length_cons, List.length_nil] at hlen
    omega
  · simp at h
  · next ds tail hne _ _ htake =>
    have hlen := Text.length_takeDigits htake
    simp only [Option.some.injEq, Prod.mk.injEq] at h
    obtain ⟨rfl, rfl⟩ := h
    have : 0 < ds.length := List.length_pos_iff.2 (by rintro rfl; exact hne rfl)
    omega

theorem length_takeFraction_le {cs rest : List Char} {f : Option (List Char)}
    (h : takeFraction cs = some (f, rest)) : rest.length ≤ cs.length := by
  unfold takeFraction at h
  split at h
  · obtain ⟨⟨digits, tail⟩, htake, heq⟩ := Option.map_eq_some_iff.1 h
    have := length_takeSome_lt htake
    simp only [Prod.mk.injEq] at heq
    simp only [List.length_cons, ← heq.2]
    omega
  · simp only [Option.some.injEq, Prod.mk.injEq] at h
    simp [← h.2]

theorem length_takeSign_le (cs : List Char) : (takeSign cs).2.length ≤ cs.length := by
  unfold takeSign
  split <;> simp

theorem length_takeMinus_le (cs : List Char) : (takeMinus cs).2.length ≤ cs.length := by
  unfold takeMinus
  split <;> simp

theorem length_takeExponentDigits_le {cs rest : List Char} {e : Option (Bool × List Char)}
    (h : takeExponentDigits cs = some (e, rest)) : rest.length ≤ cs.length := by
  obtain ⟨⟨digits, tail⟩, htake, heq⟩ := Option.map_eq_some_iff.1 h
  have := length_takeSome_lt htake
  have := length_takeSign_le cs
  simp only [Prod.mk.injEq] at heq
  rw [← heq.2]
  omega

theorem length_takeExponent_le {cs rest : List Char} {e : Option (Bool × List Char)}
    (h : takeExponent cs = some (e, rest)) : rest.length ≤ cs.length := by
  unfold takeExponent at h
  split at h
  · have := length_takeExponentDigits_le h
    simp only [List.length_cons]
    omega
  · have := length_takeExponentDigits_le h
    simp only [List.length_cons]
    omega
  · simp only [Option.some.injEq, Prod.mk.injEq] at h
    simp [← h.2]

theorem length_take_lt {cs rest : List Char} {n : Numeral} (h : take cs = some (n, rest)) :
    rest.length < cs.length := by
  simp only [take, Option.bind_eq_bind, Option.bind_eq_some_iff, Option.pure_def,
    Option.some.injEq, Prod.mk.injEq, Prod.exists] at h
  obtain ⟨whole, cs₁, hwhole, fraction, cs₂, hfraction, exponent, cs₃, hexponent, -, rfl⟩ := h
  have h₀ := length_takeMinus_le cs
  have h₁ := length_takeWhole_lt hwhole
  have h₂ := length_takeFraction_le hfraction
  have h₃ := length_takeExponent_le hexponent
  omega

/-! ## Value -/

/-- The greatest significand. -/
def greatest : Nat := 18446744073709551615

/-- Reads digits onto a significand as long as it fits. The rest are the digits that did not. -/
def accumulate : (significand : Nat) → List Char → Nat × List Char
  | significand, [] => (significand, [])
  | significand, c :: rest =>
    let next := significand * 10 + (Text.digit? 10 c).getD 0
    if next ≤ greatest then accumulate next rest else (significand, c :: rest)

/-- Divides by a power of ten, by `10 ^ 308` at a time. -/
def divideByPower (x : Binary64) (power : Nat) : Option Binary64 :=
  if x.significand = 0 then some x
  else if h : power ≤ 308 then
    (Binary64.ofNat (Binary64.tenTo power)).bind x.div
  else
    (Binary64.ofNat (Binary64.tenTo 308)).bind fun step =>
      (x.div step).bind fun x => divideByPower x (power - 308)
termination_by power

/-- The significand times a power of ten; none if it is too large. -/
def scaleByPower (significand : Nat) (power : Int) : Option Binary64 :=
  (Binary64.ofNat significand).bind fun x =>
    if power < 0 then divideByPower x power.natAbs
    else if x.significand = 0 then some x
    else if 308 < power then none
    else (Binary64.ofNat (Binary64.tenTo power.toNat)).bind x.mul

/-- Whether a significand and a sign make an integer of 64 bits. -/
def isInteger (negative : Bool) (significand : Nat) : Bool :=
  !negative || (0 < significand && significand ≤ 9223372036854775808)

/-- The number; none if it is too large. -/
def value? (n : Numeral) : Option Number :=
  let (significand, dropped) := accumulate 0 n.whole
  if n.fraction = none ∧ n.exponent = none ∧ dropped = [] ∧ isInteger n.negative significand then
    some (.integer (if n.negative then -(significand : Int) else significand))
  else
    let fraction := n.fraction.getD []
    let (significand, cut) := accumulate significand fraction
    let power : Int := dropped.length - (fraction.length - cut.length : Nat)
    let power : Int := match n.exponent with
      | none => power
      | some (true, digits) => power - Text.digitsValue 10 digits
      | some (false, digits) => power + Text.digitsValue 10 digits
    (scaleByPower significand power).map fun x => .real (x.negateIf n.negative)

end Numeral

end TunnelConfig.Json
