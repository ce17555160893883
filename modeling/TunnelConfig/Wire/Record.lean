import TunnelConfig.Key
import TunnelConfig.Wire.Flags
import TunnelConfig.Wire.SocketField

/-!
# Records

A configuration buffer is a row of records of fixed size: one for the interface, then one for each
peer, each followed by the records of its networks. Numbers are little-endian. Every kind of record
has a table of its fields, a reader that takes a block of the right size and never fails, and a
writer that leaves zeros between the fields.
-/

namespace TunnelConfig.Wire

/-- Where a field stands in a record. -/
structure Field where
  name : String
  offset : Nat
  size : Nat
  deriving DecidableEq

/-! ## Interface -/

/-- What an interface record says. -/
structure InterfaceRecord where
  flags : InterfaceFlags
  listenPort : UInt16
  privateKey : Block 32
  publicKey : Block 32
  peerCount : UInt32
  deriving DecidableEq

namespace InterfaceRecord

def size : Nat := 80

def fields : List Field :=
  [⟨"flags", 0, 4⟩, ⟨"listen_port", 4, 2⟩, ⟨"private_key", 6, 32⟩, ⟨"public_key", 38, 32⟩,
    ⟨"peer_count", 72, 4⟩]

def blank : InterfaceRecord := ⟨.empty, 0, .zero, .zero, 0⟩

def ofBlock (b : Block size) : InterfaceRecord where
  flags := ⟨UInt32.ofNat (b.little 0 4)⟩
  listenPort := UInt16.ofNat (b.little 4 2)
  privateKey := b.slice 6 32 (by decide)
  publicKey := b.slice 38 32 (by decide)
  peerCount := UInt32.ofNat (b.little 72 4)

def bytes (r : InterfaceRecord) : Bytes :=
  Bytes.littleEndian 4 r.flags.bits.toNat ++ Bytes.littleEndian 2 r.listenPort.toNat
    ++ r.privateKey.toList ++ r.publicKey.toList ++ Bytes.zeros 2
    ++ Bytes.littleEndian 4 r.peerCount.toNat ++ Bytes.zeros 4

@[simp] theorem length_bytes (r : InterfaceRecord) : r.bytes.length = size := by
  simp [bytes, size, Block.length_toList]

def toBlock (r : InterfaceRecord) : Block size := ⟨r.bytes, r.length_bytes⟩

end InterfaceRecord

/-! ## Peer -/

/-- What a peer record says. -/
structure PeerRecord where
  flags : PeerFlags
  publicKey : Block 32
  presharedKey : Block 32
  keepalive : UInt16
  endpoint : SocketField
  sent : UInt64
  received : UInt64
  lastHandshake : UInt64
  networkCount : UInt32
  deriving DecidableEq

namespace PeerRecord

def size : Nat := 136

def fields : List Field :=
  [⟨"flags", 0, 4⟩, ⟨"public_key", 8, 32⟩, ⟨"preshared_key", 40, 32⟩,
    ⟨"persistent_keepalive", 72, 2⟩, ⟨"endpoint", SocketField.offsetInPeer, 28⟩,
    ⟨"tx_bytes", 104, 8⟩, ⟨"rx_bytes", 112, 8⟩, ⟨"last_handshake", 120, 8⟩,
    ⟨"allowed_ip_count", 128, 4⟩]

def blank : PeerRecord := ⟨.empty, .zero, .zero, 0, .unspecified, 0, 0, 0, 0⟩

def ofBlock (b : Block size) : PeerRecord where
  flags := ⟨UInt32.ofNat (b.little 0 4)⟩
  publicKey := b.slice 8 32 (by decide)
  presharedKey := b.slice 40 32 (by decide)
  keepalive := UInt16.ofNat (b.little 72 2)
  endpoint := ⟨b.slice SocketField.offsetInPeer 28 (by decide)⟩
  sent := UInt64.ofNat (b.little 104 8)
  received := UInt64.ofNat (b.little 112 8)
  lastHandshake := UInt64.ofNat (b.little 120 8)
  networkCount := UInt32.ofNat (b.little 128 4)

def bytes (r : PeerRecord) : Bytes :=
  Bytes.littleEndian 4 r.flags.bits.toNat ++ Bytes.zeros 4 ++ r.publicKey.toList
    ++ r.presharedKey.toList ++ Bytes.littleEndian 2 r.keepalive.toNat ++ Bytes.zeros 2
    ++ r.endpoint.bytes ++ Bytes.littleEndian 8 r.sent.toNat
    ++ Bytes.littleEndian 8 r.received.toNat ++ Bytes.littleEndian 8 r.lastHandshake.toNat
    ++ Bytes.littleEndian 4 r.networkCount.toNat ++ Bytes.zeros 4

@[simp] theorem length_bytes (r : PeerRecord) : r.bytes.length = size := by
  simp [bytes, size, SocketField.bytes, Block.length_toList]

def toBlock (r : PeerRecord) : Block size := ⟨r.bytes, r.length_bytes⟩

end PeerRecord

/-! ## Network -/

/-- What a network record says. -/
structure NetworkRecord where
  /-- The address; only the first four bytes count for IPv4. -/
  address : Block 16
  family : UInt16
  length : UInt8
  deriving DecidableEq

namespace NetworkRecord

def size : Nat := 24

def fields : List Field := [⟨"address", 0, 16⟩, ⟨"address_family", 16, 2⟩, ⟨"cidr", 18, 1⟩]

def blank : NetworkRecord := ⟨.zero, 0, 0⟩

def ofBlock (b : Block size) : NetworkRecord where
  address := b.slice 0 16 (by decide)
  family := UInt16.ofNat (b.little 16 2)
  length := UInt8.ofNat (b.little 18 1)

def bytes (r : NetworkRecord) : Bytes :=
  r.address.toList ++ Bytes.littleEndian 2 r.family.toNat
    ++ Bytes.littleEndian 1 r.length.toNat ++ Bytes.zeros 5

@[simp] theorem length_bytes (r : NetworkRecord) : r.bytes.length = size := by
  simp [bytes, size, Block.length_toList]

def toBlock (r : NetworkRecord) : Block size := ⟨r.bytes, r.length_bytes⟩

/-- An address as the sixteen bytes of its field. -/
def addressBlock : Address → Block 16
  | .v4 ip => ⟨ip.octets ++ Bytes.zeros 12, by simp⟩
  | .v6 ip => ⟨ip.octets, by simp⟩

/-- The record of an address and a prefix length, which may be too long. -/
def ofAddress (a : Address) (length : UInt8) : NetworkRecord :=
  ⟨addressBlock a, a.family.code, length⟩

/-- The record of a network. -/
def ofNetwork (n : Network) : NetworkRecord := ofAddress n.address n.length

/-- The family, if its number has a meaning. -/
def family? (r : NetworkRecord) : Option Family := Family.ofCode? r.family

/-- The address, if its family has a meaning. -/
def address? (r : NetworkRecord) : Option Address :=
  r.family?.map fun
    | .ipv4 => .v4 (IPv4.ofBlock (r.address.slice 0 4 (by decide)))
    | .ipv6 => .v6 (IPv6.ofBlock r.address)

/-- The network that the record at `offset` describes. -/
def network (offset : Nat) (r : NetworkRecord) : Except Error Network :=
  match r.address? with
  | none => .error (.unknownFamily offset r.family)
  | some a => (Network.make a r.length).mapError .overlongPrefix

end NetworkRecord

end TunnelConfig.Wire
