import TunnelConfig.Bytes.Block
import TunnelConfig.Text.Number

/-!
# IPv4 addresses

An IPv4 address is four octets, written in decimal with points between them. Reading accepts the
written form only: one to three digits an octet, and no leading zero.
-/

namespace TunnelConfig

/-- An IPv4 address, its octets from left to right. -/
structure IPv4 where
  a : UInt8
  b : UInt8
  c : UInt8
  d : UInt8
  deriving DecidableEq

namespace IPv4

/-- The octets in network order. -/
def octets (ip : IPv4) : Bytes := [ip.a, ip.b, ip.c, ip.d]

def ofBlock (block : Block 4) : IPv4 :=
  match block.toList with
  | [a, b, c, d] => ⟨a, b, c, d⟩
  | _ => ⟨0, 0, 0, 0⟩

@[simp] theorem length_octets (ip : IPv4) : ip.octets.length = 4 := rfl

/-! ## Text -/

def chars (ip : IPv4) : List Char :=
  Text.decimal ip.a.toNat ++ '.' :: (Text.decimal ip.b.toNat ++ '.' ::
    (Text.decimal ip.c.toNat ++ '.' :: Text.decimal ip.d.toNat))

/-- Takes an octet off the front of a text: up to three digits with no leading zero. -/
def readOctet (cs : List Char) : Option (UInt8 × List Char) :=
  let (digits, rest) := Text.takeDigits 10 cs
  let value := Text.digitsValue 10 digits
  if digits.length = 0 ∨ 3 < digits.length ∨ (1 < digits.length ∧ digits.head? = some '0')
      ∨ 255 < value then
    none
  else
    some (UInt8.ofNat value, rest)

/-- Takes a point and then an octet off the front of a text. -/
def readPointOctet : List Char → Option (UInt8 × List Char)
  | '.' :: rest => readOctet rest
  | _ => none

/-- Takes an address off the front of a text. -/
def read (cs : List Char) : Option (IPv4 × List Char) := do
  let (a, cs) ← readOctet cs
  let (b, cs) ← readPointOctet cs
  let (c, cs) ← readPointOctet cs
  let (d, cs) ← readPointOctet cs
  return (⟨a, b, c, d⟩, cs)

end IPv4

end TunnelConfig
