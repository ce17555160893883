import TunnelConfig.Configuration.Basic
import TunnelConfig.Wire.Walk

/-!
# Reading a configuration from a buffer

The buffer is read record by record. A field whose flag is not set is not given, whatever its bytes
are, and bytes after the last record do not count.

**First fault.** Within a peer the faults are looked for in a fixed order: the peer record and its
networks have to be there, then the public key has to be given, then a removal may not ask for
anything else, then the networks have to be good one after another, and last the endpoint. Reading
stops at the first fault of the first peer that has one.
-/

namespace TunnelConfig

open Wire

/-- The key of a field that counts only if the flag says so. -/
def Key.ofField (present : Bool) (block : Block 32) : Option Key :=
  if present then some ⟨block⟩ else none

def Interface.ofRecord (r : InterfaceRecord) : Interface where
  privateKey := Key.ofField (r.flags.contains InterfaceFlags.privateKey) r.privateKey
  publicKey := Key.ofField (r.flags.contains InterfaceFlags.publicKey) r.publicKey
  listenPort := if r.flags.contains InterfaceFlags.listenPort then some r.listenPort else none
  replacePeers := r.flags.contains InterfaceFlags.replacePeers

/-- Reads `count` networks one after another, after those `read`, which are given newest first. -/
def Network.readRun : (count : Nat) → Cursor → (read : List Network) → Except Error (List Network)
  | 0, _, read => .ok read.reverse
  | count + 1, c, read => do
    let r ← c.network
    let n ← r.network c.offset
    readRun count (c.advance NetworkRecord.size) (n :: read)

/-- The endpoint of a peer record, which starts at `offset`. -/
def Profile.endpointOf (offset : Nat) (r : PeerRecord) : Except Error (Option Endpoint) :=
  if r.flags.contains PeerFlags.endpoint then r.endpoint.endpoint? offset else .ok none

/-- The profile that a peer record, which starts at `offset`, gives together with its networks. -/
def Profile.ofRecord (offset : Nat) (r : PeerRecord) (networks : List Network) :
    Except Error Profile := do
  let endpoint ← endpointOf offset r
  return {
    presharedKey := Key.ofField (r.flags.contains PeerFlags.presharedKey) r.presharedKey
    keepalive := if r.flags.contains PeerFlags.keepalive then some r.keepalive else none
    endpoint := endpoint
    replaceNetworks := r.flags.contains PeerFlags.replaceNetworks
    networks := networks
    traffic := ⟨r.sent, r.received, r.lastHandshake⟩ }

def Peer.ofEntry (e : PeerEntry) : Except Error Peer := do
  let r := e.record
  if !r.flags.contains PeerFlags.publicKey then
    throw (.missingPublicKey e.offset)
  if r.flags.contains PeerFlags.removal then
    if r.flags.intersects PeerFlags.notOnRemoval || r.networkCount != 0 then
      throw (.contradictoryFlags e.offset r.flags.bits)
    return ⟨⟨r.publicKey⟩, .remove⟩
  let networks ← Network.readRun r.networkCount.toNat (e.place.advance PeerRecord.size) []
  let profile ← Profile.ofRecord e.offset r networks
  if r.flags.contains PeerFlags.update then
    return ⟨⟨r.publicKey⟩, .update profile⟩
  else
    return ⟨⟨r.publicKey⟩, .set profile⟩

/-- Reads `count` peers one after another, after those `read`, which are given newest first. -/
def Peer.readRun : (count : Nat) → Cursor → (read : List Peer) → Except Error (List Peer)
  | 0, _, read => .ok read.reverse
  | count + 1, c, read => do
    let (entry, next) ← c.entry
    let p ← Peer.ofEntry entry
    readRun count next (p :: read)

/-- The configuration that a buffer describes. -/
def Configuration.decode (buffer : Bytes) : Except Error Configuration := do
  let start := Cursor.start buffer
  let r ← start.interface
  let walk ← start.peers
  let peers ← Peer.readRun walk.remaining walk.place []
  return ⟨Interface.ofRecord r, peers⟩

end TunnelConfig
