import TunnelConfig.Configuration.Basic
import TunnelConfig.Wire.Builder

/-!
# Writing a configuration as a buffer

The request for a configuration is the interface record, then each peer record with the records of
its networks right after it. The counts in the records are taken from the lists, so a request is
always consistent. A field that is not given is left zero and its flag is not set; a removal says
nothing but the public key.
-/

namespace TunnelConfig

open Wire

/-- The interface record that announces `peerCount` peers. -/
def Interface.record (i : Interface) (peerCount : UInt32) : InterfaceRecord where
  flags := (((Flags.when i.privateKey.isSome InterfaceFlags.privateKey).union
    (Flags.when i.publicKey.isSome InterfaceFlags.publicKey)).union
    (Flags.when i.listenPort.isSome InterfaceFlags.listenPort)).put
      InterfaceFlags.replacePeers i.replacePeers
  listenPort := i.listenPort.getD 0
  privateKey := (i.privateKey.map Key.block).getD .zero
  publicKey := (i.publicKey.map Key.block).getD .zero
  peerCount := peerCount

/-- The flags of the fields that a profile gives. -/
def Profile.flags (p : Profile) : PeerFlags :=
  (((Flags.when p.presharedKey.isSome PeerFlags.presharedKey).union
    (Flags.when p.keepalive.isSome PeerFlags.keepalive)).union
    (Flags.when p.endpoint.isSome PeerFlags.endpoint)).put
      PeerFlags.replaceNetworks p.replaceNetworks

/-- The record of a peer with a profile; `flags` says what the record is for. -/
def Profile.record (p : Profile) (key : Key) (flags : PeerFlags) (networkCount : UInt32) :
    PeerRecord where
  flags := flags.union p.flags
  publicKey := key.block
  presharedKey := (p.presharedKey.map Key.block).getD .zero
  keepalive := p.keepalive.getD 0
  endpoint := (p.endpoint.map SocketField.ofEndpoint).getD .unspecified
  sent := p.traffic.sent
  received := p.traffic.received
  lastHandshake := p.traffic.lastHandshake
  networkCount := networkCount

/-- The record of a peer that announces `networkCount` networks. -/
def Peer.record (p : Peer) (networkCount : UInt32) : PeerRecord :=
  match p.change with
  | .set profile => profile.record p.publicKey PeerFlags.publicKey networkCount
  | .update profile =>
    profile.record p.publicKey (PeerFlags.publicKey.union PeerFlags.update) networkCount
  | .remove =>
    { PeerRecord.blank with
      flags := PeerFlags.publicKey.union PeerFlags.removal
      publicKey := p.publicKey.block }

/-- The number of bytes that a peer takes up, its networks included. -/
def Peer.size (p : Peer) : Nat := PeerRecord.size + p.networks.length * NetworkRecord.size

namespace Configuration

/-- The size of the request for a configuration. -/
def requestSize (c : Configuration) : Nat :=
  c.peers.foldr (fun p size => p.size + size) InterfaceRecord.size

/-- A count as it stands in a record. -/
def count32 (kind : Counted) (count : Nat) : Except Error UInt32 :=
  if count < 4294967296 then .ok (UInt32.ofNat count) else .error (.countOverflow kind count)

/-- Takes a peer and its networks. -/
def buildPeer (b : Builder) (p : Peer) : Except Error Builder := do
  let count ← count32 .network p.networks.length
  return p.networks.foldl (fun b n => b.network (.ofNetwork n)) (b.peer (p.record count))

/-- The builder that has taken a configuration. Room for all of it was made in advance. -/
def build (c : Configuration) : Except Error Builder := do
  let count ← count32 .peer c.peers.length
  if c.requestSize < 4294967296 then
    let b := (Builder.empty.reserve c.requestSize).interface (c.interface.record count)
    c.peers.foldlM buildPeer b
  else
    throw (.bufferTooLarge c.requestSize)

/-- The request for a configuration. -/
def encode (c : Configuration) : Except Error Buffer := do
  let b ← c.build
  match b.finish? with
  | some buffer => return buffer
  | none => throw (.truncated 0 InterfaceRecord.size 0)

end Configuration

end TunnelConfig
