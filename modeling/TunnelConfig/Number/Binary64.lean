/-!
# Binary floating point

A finite floating-point number of 64 bits is a sign, a significand below `2 ^ 53` and an exponent
of two from `-1074` on. Products and quotients are formed exactly over the naturals and rounded
once, to the nearest such number and to the even one of two that are equally near.
-/

namespace TunnelConfig

/-- The finite floating-point number `± significand * 2 ^ exponent`. -/
structure Binary64 where
  negative : Bool
  significand : Nat
  exponent : Int
  deriving DecidableEq

namespace Binary64

def minExponent : Int := -1074

def maxExponent : Int := 971

/-- The least significand of 53 bits, which is 2 to the power of 52. -/
def leastFull : Nat := 4503599627370496

def tenTo (power : Nat) : Nat := Nat.pow 10 power

/-- Zero with a sign. -/
def zero (negative : Bool) : Binary64 := ⟨negative, 0, minExponent⟩

/-- The number with the opposite sign if the condition holds. -/
def negateIf (condition : Bool) (x : Binary64) : Binary64 :=
  { x with negative := x.negative != condition }

/-- The quotient rounded to the nearest whole number, of two equally near to the even one. -/
def roundQuotient (num den : Nat) : Nat :=
  let quotient := num / den
  let rest := num % den
  if den < 2 * rest ∨ (2 * rest = den ∧ quotient % 2 = 1) then quotient + 1 else quotient

/-- The quotient `num / den` times `2 ^ exponent`, as a quotient of naturals. -/
def scale (num den : Nat) (exponent : Int) : Nat × Nat :=
  if 0 ≤ exponent then (num <<< exponent.toNat, den) else (num, den <<< (-exponent).toNat)

/-- The exponent at which the quotient has a significand of 53 bits, or the least exponent. -/
def exponentOf (num den : Nat) : Int :=
  let guess : Int := (Nat.log2 num : Int) - Nat.log2 den - 52
  let (n, d) := scale num den (-guess)
  max minExponent (if n / d < leastFull then guess - 1 else guess)

/-- The nearest number to a positive quotient; none if it is too large. -/
def nearest (num den : Nat) : Option Binary64 :=
  let exponent := exponentOf num den
  let (n, d) := scale num den (-exponent)
  let significand := roundQuotient n d
  let (significand, exponent) :=
    if significand = 2 * leastFull then (leastFull, exponent + 1) else (significand, exponent)
  if maxExponent < exponent then none else some ⟨false, significand, exponent⟩

/-- The nearest number to a natural number; none if it is too large. -/
def ofNat (n : Nat) : Option Binary64 := if n = 0 then some (zero false) else nearest n 1

/-- The product of two numbers, of which `y` is positive; none if it is too large. -/
def mul (x y : Binary64) : Option Binary64 :=
  if x.significand = 0 then some x
  else
    let (num, den) := scale (x.significand * y.significand) 1 (x.exponent + y.exponent)
    (nearest num den).map (negateIf x.negative)

/-- The quotient of two numbers, of which `y` is positive; none if it is too large. -/
def div (x y : Binary64) : Option Binary64 :=
  if x.significand = 0 then some x
  else
    let (num, den) := scale x.significand y.significand (x.exponent - y.exponent)
    (nearest num den).map (negateIf x.negative)

end Binary64

end TunnelConfig
