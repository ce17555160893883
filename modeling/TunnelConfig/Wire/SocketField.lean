import TunnelConfig.Net.Endpoint
import TunnelConfig.Wire.Error

/-!
# The endpoint field of a peer record

An endpoint takes 28 bytes: the family (little-endian) at 0 and the port (big-endian) at 2, then
either an IPv4 address at 4, or the flow information (big-endian) at 4, an IPv6 address at 8 and
the scope (little-endian) at 24. Family 0 stands for no endpoint.
-/

namespace TunnelConfig.Wire

/-- The bytes of an endpoint field. -/
structure SocketField where
  block : Block 28
  deriving DecidableEq

namespace SocketField

/-- The field that holds no endpoint. -/
def unspecified : SocketField := ⟨Block.zero⟩

instance : Inhabited SocketField := ⟨unspecified⟩

def bytes (f : SocketField) : Bytes := f.block.toList

def family (f : SocketField) : UInt16 := UInt16.ofNat (f.block.little 0 2)

/-- The field that holds an endpoint. -/
def ofEndpoint : Endpoint → SocketField
  | .v4 ip port =>
    ⟨Bytes.littleEndian 2 Family.ipv4.code.toNat ++ Bytes.bigEndian 2 port.toNat ++ ip.octets
      ++ Bytes.zeros 20, by simp⟩
  | .v6 ip port flow scope =>
    ⟨Bytes.littleEndian 2 Family.ipv6.code.toNat ++ Bytes.bigEndian 2 port.toNat
      ++ Bytes.bigEndian 4 flow.toNat ++ ip.octets ++ Bytes.littleEndian 4 scope.toNat, by simp⟩

/-- Where the field stands in a peer record. -/
def offsetInPeer : Nat := 76

/-- The endpoint that the field holds, if any. The peer record at `peerOffset` owns the field. -/
def endpoint? (peerOffset : Nat) (f : SocketField) : Except Error (Option Endpoint) :=
  let port := UInt16.ofNat (f.block.big 2 2)
  if f.family = 0 then .ok none
  else
    match Family.ofCode? f.family with
    | some .ipv4 => .ok (some (.v4 (IPv4.ofBlock (f.block.slice 4 4 (by decide))) port))
    | some .ipv6 =>
      let flow := UInt32.ofNat (f.block.big 4 4)
      let scope := UInt32.ofNat (f.block.little 24 4)
      .ok (some (.v6 (IPv6.ofBlock (f.block.slice 8 16 (by decide))) port flow scope))
    | none => .error (.unknownFamily (peerOffset + offsetInPeer) f.family)

/-- The field as it stands in a diagnostic. -/
def debug (f : SocketField) : String :=
  let inner := match f.endpoint? 0 with
    | .ok (some e) => e.text
    | .ok none => "unspecified"
    | .error _ => "family=" ++ toString f.family.toNat
  "RawEndpoint(" ++ inner ++ ")"

end SocketField

end TunnelConfig.Wire
