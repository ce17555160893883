import TunnelConfig.Bytes.Word

/-!
# Base64

Three bytes are written as four symbols of the standard alphabet; a last group of one or two bytes
is filled up with `=`. Reading accepts the written form only: padding must be there, and the bits a
short last group leaves over must be zero.

**Order of complaints.** A text one symbol longer than whole groups is refused for that symbol
first, if it is none. Then the groups are read from left to right, and a padding sign counts as a
wrong symbol in all but the last. Only a last group of good symbols is judged by its length, its
padding and its left-over bits, in this order.
-/

namespace TunnelConfig.Base64

/-! ## Alphabet -/

/-- The symbol that stands for six bits. -/
def symbol (value : Nat) : Char :=
  if value < 26 then Char.ofNat (65 + value)
  else if value < 52 then Char.ofNat (71 + value)
  else if value < 62 then Char.ofNat (value - 4)
  else if value = 62 then '+'
  else '/'

/-- The six bits that a symbol, given as a byte of text, stands for. -/
def value? (b : UInt8) : Option Nat :=
  let n := b.toNat
  if 65 ≤ n ∧ n ≤ 90 then some (n - 65)
  else if 97 ≤ n ∧ n ≤ 122 then some (n - 71)
  else if 48 ≤ n ∧ n ≤ 57 then some (n + 4)
  else if n = 43 then some 62
  else if n = 47 then some 63
  else none

/-- The padding sign as a byte of text. -/
def pad : UInt8 := 61

/-! ## Writing -/

/-- The text of a byte string. -/
def encode : Bytes → List Char
  | a :: b :: c :: rest =>
    let n := a.toNat * 65536 + b.toNat * 256 + c.toNat
    symbol (n / 262144) :: symbol (n / 4096 % 64) :: symbol (n / 64 % 64) :: symbol (n % 64)
      :: encode rest
  | [a, b] =>
    let n := a.toNat * 1024 + b.toNat * 4
    [symbol (n / 4096), symbol (n / 64 % 64), symbol (n % 64), '=']
  | [a] =>
    let n := a.toNat * 16
    [symbol (n / 64), symbol (n % 64), '=', '=']
  | [] => []

/-! ## Reading -/

/-- Why a text is not the written form of a byte string. -/
inductive Error where
  | symbol (byte : UInt8) (offset : Nat)
  | length (length : Nat)
  | padding
  | lastSymbol (byte : UInt8) (offset : Nat)
  deriving DecidableEq

def Error.message : Error → String
  | symbol byte offset =>
    "Invalid symbol " ++ toString byte.toNat ++ ", offset " ++ toString offset ++ "."
  | length n => "Invalid input length: " ++ toString n
  | padding => "Invalid padding"
  | lastSymbol byte offset =>
    "Invalid last symbol " ++ toString byte.toNat ++ ", offset " ++ toString offset ++ "."

/-- The six bits of the symbol at `offset`. -/
def valueAt (offset : Nat) (b : UInt8) : Except Error Nat :=
  match value? b with
  | some v => .ok v
  | none => .error (.symbol b offset)

/-- The symbols of the last group and the number of padding signs after them. -/
structure LastGroup where
  values : List Nat
  pads : Nat
  deriving DecidableEq

/-- Reads the padding signs that end the last group; the first of them is at `padOffset`. -/
def readPads (padOffset : Nat) : (pads : Nat) → Bytes → Except Error Nat
  | pads, [] => .ok pads
  | pads, b :: rest =>
    if b = pad then readPads padOffset (pads + 1) rest else .error (.symbol pad padOffset)

/-- Reads the last group. Padding may start at its third place. -/
def readLastGroup (offset : Nat) : (place : Nat) → Bytes → Except Error LastGroup
  | _, [] => .ok ⟨[], 0⟩
  | place, b :: rest =>
    if b = pad then
      if place < 2 then .error (.symbol pad (offset + place))
      else (readPads (offset + place) 1 rest).map fun pads => ⟨[], pads⟩
    else do
      let v ← valueAt (offset + place) b
      let group ← readLastGroup offset (place + 1) rest
      return { group with values := v :: group.values }

/-- The bytes of the last group, which starts at `offset`. -/
def decodeLastGroup (offset : Nat) (bs : Bytes) : Except Error Bytes := do
  let group ← readLastGroup offset 0 bs
  let count := group.values.length
  if bs ≠ [] ∧ count < 2 then
    throw (.length (offset + count))
  if (count + group.pads) % 4 ≠ 0 then
    throw .padding
  match group.values with
  | [v, w, x, y] =>
    let n := v * 262144 + w * 4096 + x * 64 + y
    return [UInt8.ofNat (n / 65536), UInt8.ofNat (n / 256), UInt8.ofNat n]
  | [v, w, x] =>
    if x % 4 ≠ 0 then
      throw (.lastSymbol ((symbol x).toNat.toUInt8) (offset + 2))
    let n := (v * 4096 + w * 64 + x) / 4
    return [UInt8.ofNat (n / 256), UInt8.ofNat n]
  | [v, w] =>
    if w % 16 ≠ 0 then
      throw (.lastSymbol ((symbol w).toNat.toUInt8) (offset + 1))
    return [UInt8.ofNat ((v * 64 + w) / 16)]
  | _ => return []

/-- Reads groups from `offset` on. -/
def decodeFrom (offset : Nat) : Bytes → Except Error Bytes
  | a :: b :: c :: d :: e :: rest => do
    let v ← valueAt offset a
    let w ← valueAt (offset + 1) b
    let x ← valueAt (offset + 2) c
    let y ← valueAt (offset + 3) d
    let n := v * 262144 + w * 4096 + x * 64 + y
    let more ← decodeFrom (offset + 4) (e :: rest)
    return UInt8.ofNat (n / 65536) :: UInt8.ofNat (n / 256) :: UInt8.ofNat n :: more
  | bs => decodeLastGroup offset bs

/-- The byte string that a text, given as bytes, is the written form of. -/
def decode (bs : Bytes) : Except Error Bytes :=
  match bs.getLast? with
  | some last =>
    if bs.length % 4 = 1 ∧ last ≠ pad ∧ value? last = none then
      .error (.symbol last (bs.length - 1))
    else decodeFrom 0 bs
  | none => .ok []

end TunnelConfig.Base64
