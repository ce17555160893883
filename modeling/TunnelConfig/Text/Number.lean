/-!
# Whole numbers in text

Reading and writing of natural numbers in a given radix. A run of digits is taken off the front of
a text with `takeDigits`; `readUnsigned` reads a whole text as a number below a bound and says what
is wrong otherwise.
-/

namespace TunnelConfig.Text

/-- The value of a character as a digit of the given radix, letters of either case included. -/
def digit? (radix : Nat) (c : Char) : Option Nat :=
  let value :=
    if '0' ≤ c ∧ c ≤ '9' then some (c.toNat - '0'.toNat)
    else if 'a' ≤ c ∧ c ≤ 'z' then some (c.toNat - 'a'.toNat + 10)
    else if 'A' ≤ c ∧ c ≤ 'Z' then some (c.toNat - 'A'.toNat + 10)
    else none
  value.filter (· < radix)

def isDigit (radix : Nat) (c : Char) : Bool := (digit? radix c).isSome

/-- The digits at the front of a text, and the rest of it. -/
def takeDigits (radix : Nat) (cs : List Char) : List Char × List Char :=
  (cs.takeWhile (isDigit radix), cs.dropWhile (isDigit radix))

theorem length_takeDigits {radix : Nat} {cs digits rest : List Char}
    (h : takeDigits radix cs = (digits, rest)) : digits.length + rest.length = cs.length := by
  rw [takeDigits, Prod.mk.injEq] at h
  rw [← h.1, ← h.2, ← List.length_append, List.takeWhile_append_dropWhile]

/-- The number that a run of digits spells. -/
def digitsValue (radix : Nat) (ds : List Char) : Nat :=
  ds.foldl (fun n c => n * radix + (digit? radix c).getD 0) 0

/-- The decimal digits of a number. -/
def decimal (n : Nat) : List Char := Nat.toDigits 10 n

/-- The lower-case hexadecimal digits of a number. -/
def hexadecimal (n : Nat) : List Char := Nat.toDigits 16 n

/-- The digits of a number, filled up with zeros on the left to at least `width` characters. -/
def padLeft (width : Nat) (fill : Char) (cs : List Char) : List Char :=
  List.replicate (width - cs.length) fill ++ cs

/-- The text, filled up on the right to at least `width` characters. -/
def padRight (width : Nat) (fill : Char) (cs : List Char) : List Char :=
  cs ++ List.replicate (width - cs.length) fill

/-! ## Reading a bounded number -/

/-- Why a text is not a number below the bound. -/
inductive NumberError where
  | empty
  | invalidDigit
  | tooLarge
  deriving DecidableEq

def NumberError.message : NumberError → String
  | empty => "cannot parse integer from empty string"
  | invalidDigit => "invalid digit found in string"
  | tooLarge => "number too large to fit in target type"

/-- Reads digits one by one onto `value`. The first character that is no digit or takes the number
above `greatest` decides. -/
def readDigits (greatest : Nat) : (value : Nat) → List Char → Except NumberError Nat
  | value, [] => .ok value
  | value, c :: rest =>
    match digit? 10 c with
    | none => .error .invalidDigit
    | some d =>
      if value * 10 + d ≤ greatest then readDigits greatest (value * 10 + d) rest
      else .error .tooLarge

/-- Reads a whole text as a decimal number of at most `greatest`. One plus sign may stand in front;
leading zeros are fine. -/
def readUnsigned (greatest : Nat) : List Char → Except NumberError Nat
  | [] => .error .empty
  | ['+'] => .error .invalidDigit
  | '+' :: rest => readDigits greatest 0 rest
  | cs => readDigits greatest 0 cs

end TunnelConfig.Text
