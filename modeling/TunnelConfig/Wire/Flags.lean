/-!
# Flags of a record

Interface and peer records start with a word of flags. Bits without a name are kept as they are.
-/

namespace TunnelConfig.Wire

/-- The kinds of record that carry flags. -/
inductive FlagOwner where
  | interface
  | peer
  deriving DecidableEq

/-- The flags of a record of one kind. -/
structure Flags (owner : FlagOwner) where
  bits : UInt32
  deriving DecidableEq

namespace Flags

variable {owner : FlagOwner}

def empty : Flags owner := ⟨0⟩

instance : Inhabited (Flags owner) := ⟨empty⟩

/-- The flags of either set. -/
def union (f g : Flags owner) : Flags owner := ⟨f.bits ||| g.bits⟩

instance : Union (Flags owner) := ⟨union⟩

/-- Whether every flag of `g` is in `f`. -/
def contains (f g : Flags owner) : Bool := f.bits &&& g.bits == g.bits

/-- Whether some flag of `g` is in `f`. -/
def intersects (f g : Flags owner) : Bool := f.bits &&& g.bits != 0

/-- The flags of `f` that are not in `g`. -/
def remove (f g : Flags owner) : Flags owner := ⟨f.bits &&& ~~~g.bits⟩

/-- The flags of `f`, with those of `g` added or taken away. -/
def put (f g : Flags owner) (present : Bool) : Flags owner :=
  if present then f.union g else f.remove g

/-- The given flags if the condition holds, otherwise none. -/
def when (present : Bool) (g : Flags owner) : Flags owner := if present then g else empty

end Flags

/-! ## Interface flags -/

abbrev InterfaceFlags := Flags .interface

namespace InterfaceFlags

def publicKey : InterfaceFlags := ⟨1⟩

def privateKey : InterfaceFlags := ⟨2⟩

def listenPort : InterfaceFlags := ⟨4⟩

/-- The peers that follow take the place of all the driver has. -/
def replacePeers : InterfaceFlags := ⟨8⟩

end InterfaceFlags

/-! ## Peer flags -/

abbrev PeerFlags := Flags .peer

namespace PeerFlags

def publicKey : PeerFlags := ⟨1⟩

def presharedKey : PeerFlags := ⟨2⟩

def keepalive : PeerFlags := ⟨4⟩

def endpoint : PeerFlags := ⟨8⟩

/-- The networks that follow take the place of all the peer has. -/
def replaceNetworks : PeerFlags := ⟨0x20⟩

/-- The peer is to go. -/
def removal : PeerFlags := ⟨0x40⟩

/-- Only what is given changes. -/
def update : PeerFlags := ⟨0x80⟩

/-- The flags that announce a field besides the public key. -/
def fields : PeerFlags := (presharedKey.union keepalive).union endpoint

/-- The flags that no removal may have. -/
def notOnRemoval : PeerFlags := (update.union replaceNetworks).union fields

end PeerFlags

end TunnelConfig.Wire
