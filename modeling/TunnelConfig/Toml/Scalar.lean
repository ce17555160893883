import TunnelConfig.Number.Binary64
import TunnelConfig.Toml.Blank

/-!
# Numbers and times

Integers are decimal with an optional sign, or hexadecimal, octal or binary with a sign of their
radix in front, and fit 64 bits with a sign. A single underscore may stand between digits.

Floating-point numbers have a fraction or an exponent, or are infinite or no number. One that is
too large for 64 bits is refused, unless it is negative.

A time is a date, a time of day, or both, then also with an offset.
-/

namespace TunnelConfig.Toml

open Reader

/-! ## Integers -/

/-- Digits of a radix, with underscores between them; yields the digits. -/
def digits (radix : Nat) : Reader (List Char) := do
  let first ← satisfying (Text.isDigit radix)
  let rest ← many (satisfying (Text.isDigit radix) <|> do
    char '_'
    satisfying (Text.isDigit radix))
  return first :: rest

/-- Whether a minus sign stands in front; a plus sign may, too. -/
def sign : Reader Bool :=
  (do char '-'; return true) <|> (do char '+'; return false) <|> pure false

/-- A decimal number with an optional sign: a lone zero, or digits that do not start with one. -/
def decimalDigits : Reader (Bool × List Char) := do
  let negative ← sign
  match ← peek with
  | some '0' =>
    char '0'
    return (negative, ['0'])
  | _ => return (negative, ← digits 10)

def boundedInt (n : Int) : Reader Int :=
  if -9223372036854775808 ≤ n ∧ n ≤ 9223372036854775807 then pure n else fail

/-- A number of another radix, after the zero and the letter of its radix. -/
def radixInt (letter : Char) (radix : Nat) : Reader Int := do
  word ['0', letter]
  boundedInt (Text.digitsValue radix (← digits radix))

def integer : Reader Int :=
  radixInt 'x' 16 <|> radixInt 'o' 8 <|> radixInt 'b' 2 <|> do
    let (negative, ds) ← decimalDigits
    let n : Int := Text.digitsValue 10 ds
    boundedInt (if negative then -n else n)

/-! ## Floating-point numbers -/

/-- Whether the number with these digits, times `10 ^ exponent`, is too large. Only numbers near
the limit are looked at closely. -/
def tooLarge (ds : List Char) (exponent : Int) : Bool :=
  let significant := ds.dropWhile (· == '0')
  let size := significant.length + exponent
  if significant.isEmpty || size < 300 then false
  else if 320 < size then true
  else
    let n := Text.digitsValue 10 significant
    let (num, den) :=
      if exponent < 0 then (n, Binary64.tenTo exponent.natAbs)
      else (n * Binary64.tenTo exponent.natAbs, 1)
    (Binary64.nearest num den).isNone

def exponent : Reader Int := do
  let _ ← satisfying fun c => c == 'e' || c == 'E'
  let negative ← sign
  let n : Int := Text.digitsValue 10 (← digits 10)
  return if negative then -n else n

/-- The digits after a point. -/
def fraction : Reader (List Char) := do
  char '.'
  digits 10

/-- A number with a fraction or an exponent. -/
def decimalFloat : Reader Unit := do
  let (negative, whole) ← decimalDigits
  let fractionDigits ← attempt fraction
  let power ← attempt exponent
  if fractionDigits.isNone && power.isNone then fail
  else
    let part := fractionDigits.getD []
    if !negative && tooLarge (whole ++ part) (power.getD 0 - part.length) then fail
    else return ()

/-- An infinite number, or what is no number. -/
def specialFloat : Reader Unit := do
  let _ ← sign
  word ['i', 'n', 'f'] <|> word ['n', 'a', 'n']

def float : Reader Unit := decimalFloat <|> specialFloat

/-! ## Times -/

/-- A number of two digits between two bounds. -/
def twoDigits (low high : Nat) : Reader Nat := do
  let n := Text.digitsValue 10 (← takeExactly 2 (Text.isDigit 10))
  if low ≤ n ∧ n ≤ high then return n else fail

/-- The number of days of a month. -/
def daysOf (year month : Nat) : Nat :=
  if month = 2 then
    if year % 4 = 0 ∧ (year % 100 ≠ 0 ∨ year % 400 = 0) then 29 else 28
  else if month = 4 ∨ month = 6 ∨ month = 9 ∨ month = 11 then 30
  else 31

def date : Reader Unit := do
  let year := Text.digitsValue 10 (← takeExactly 4 (Text.isDigit 10))
  char '-'
  let month ← twoDigits 1 12
  char '-'
  let day ← twoDigits 1 31
  if day ≤ daysOf year month then return () else fail

/-- A time of day. A minute may have a leap second. -/
def timeOfDay : Reader Unit := do
  let _ ← twoDigits 0 23
  char ':'
  let _ ← twoDigits 0 59
  char ':'
  let _ ← twoDigits 0 60
  let _ ← attempt do
    char '.'
    takeSome (Text.isDigit 10)

/-- An offset from universal time. -/
def offset : Reader Unit :=
  (do let _ ← satisfying fun c => c == 'Z' || c == 'z') <|> do
    let _ ← satisfying fun c => c == '+' || c == '-'
    let _ ← twoDigits 0 23
    char ':'
    let _ ← twoDigits 0 59

/-- What may follow a date: a time of day, perhaps with an offset. -/
def timePart : Reader Unit := do
  let _ ← satisfying fun c => c == 'T' || c == 't' || c == ' '
  timeOfDay
  let _ ← attempt offset

def time : Reader Unit := (do date; let _ ← attempt timePart) <|> timeOfDay

end TunnelConfig.Toml
