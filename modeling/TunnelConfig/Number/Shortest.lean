import TunnelConfig.Number.Binary64
import TunnelConfig.Text.Number

/-!
# The shortest decimal text of a floating-point number

Every real number in an interval around a floating-point number rounds to it; the ends belong to
the interval iff the significand is even. The digits written are those of a decimal number in the
interval that lies on the coarsest decimal grid which has one, and of these of the nearest.

**Notation.** A number whose first digit stands for `10 ^ -5` to `10 ^ 15` is written with a
decimal point and at least one digit after it. Any other is written with one digit before the
point and an exponent of ten, which always has a sign and no zero in front.
-/

namespace TunnelConfig.Binary64

/-! ## Digits -/

/-- The decimal number `digits * 10 ^ exponent`. -/
structure Decimal where
  digits : Nat
  exponent : Int
  deriving DecidableEq

/-- The distance, in quarters of the last place, from a number down to the end of its
interval; below a power of two the next number is nearer. -/
def quartersBelow (x : Binary64) : Nat :=
  if x.significand = leastFull ∧ minExponent < x.exponent then 1 else 2

/-- The decimal number in the interval of `x` on the grid of multiples of `10 ^ exponent`, the
nearest to `x` if there are several. -/
def onGrid? (x : Binary64) (exponent : Int) : Option Decimal :=
  let (num, den) := scale 1 1 (x.exponent - 2)
  let (num, den) :=
    if 0 ≤ exponent then (num, den * tenTo exponent.toNat)
    else (num * tenTo (-exponent).toNat, den)
  let value := 4 * x.significand * num
  let low := (4 * x.significand - x.quartersBelow) * num
  let high := (4 * x.significand + 2) * num
  let closed := x.significand % 2 == 0
  let below := value / den
  let above := below + 1
  let belowIn := low < below * den || (closed && low == below * den)
  let aboveIn := above * den < high || (closed && above * den == high)
  let gapBelow := value - below * den
  let gapAbove := above * den - value
  if belowIn && (!aboveIn || gapBelow < gapAbove || (gapBelow == gapAbove && below % 2 == 0)) then
    some ⟨below, exponent⟩
  else if aboveIn then some ⟨above, exponent⟩
  else none

/-- Tries the grids from `10 ^ exponent` on, each ten times as fine as the one before. -/
def search (x : Binary64) : (grids : Nat) → (exponent : Int) → Decimal
  | 0, exponent => ⟨0, exponent⟩
  | grids + 1, exponent =>
    match x.onGrid? exponent with
    | some d => d
    | none => search x grids (exponent - 1)

/-- The shortest decimal number that rounds to `x`. The search starts above the first digit of `x`
and seventeen digits always do. -/
def shortest (x : Binary64) : Decimal :=
  if x.significand = 0 then ⟨0, 0⟩
  else
    let guess := Int.fdiv ((Nat.log2 x.significand + x.exponent) * 30103) 100000
    x.search 21 (guess + 2)

/-! ## Text -/

/-- Digits without the zeros at their end. -/
def dropEndZeros (ds : List Char) : List Char := (ds.reverse.dropWhile (· == '0')).reverse

/-- The exponent of ten in text. -/
def exponentChars (exponent : Int) : List Char :=
  (if exponent < 0 then '-' else '+') :: Text.decimal exponent.natAbs

/-- A decimal number in text: `ds` are its digits, of which the first stands for `10 ^ exponent`. -/
def decimalChars (ds : List Char) (exponent : Int) : List Char :=
  if 0 ≤ exponent ∧ exponent ≤ 15 then
    let whole := exponent.toNat + 1
    let fraction := ds.drop whole
    Text.padRight whole '0' (ds.take whole) ++ '.' :: (if fraction.isEmpty then ['0'] else fraction)
  else if -5 ≤ exponent ∧ exponent < 0 then
    '0' :: '.' :: (List.replicate (exponent.natAbs - 1) '0' ++ ds)
  else
    match ds with
    | [] => []
    | d :: rest =>
      d :: ((if rest.isEmpty then [] else '.' :: rest) ++ 'e' :: exponentChars exponent)

def chars (x : Binary64) : List Char :=
  let d := x.shortest
  let written := Text.decimal d.digits
  let body :=
    if d.digits = 0 then ['0', '.', '0']
    else decimalChars (dropEndZeros written) (d.exponent + written.length - 1)
  if x.negative then '-' :: body else body

def text (x : Binary64) : String := String.ofList x.chars

end TunnelConfig.Binary64
