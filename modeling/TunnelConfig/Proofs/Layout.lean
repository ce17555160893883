import TunnelConfig.Configuration.Basic
import TunnelConfig.Proofs.Bytes

/-!
# The grammar of a buffer

A buffer is an interface record, then each peer record with its network records right after it, then
whatever else. `Layout` is a buffer cut into these pieces. A layout is

* **counted** if it has as many peers and networks as its records announce;
* **allowed** if every peer says which peer it is about, no removal asks for anything else, and the
  networks and the endpoint of every other peer have a family and a prefix length with a meaning.

What the pieces say is read off them field by field, at the offsets of the record tables. Flags are
the bits of the word that a record starts with.

Main result: `Layout.cut_bytes` (a buffer can be cut in one way only, because the counts in its
records say where).
-/

namespace TunnelConfig

/-- Whether bit `k` of the word that the record starts with is set. -/
def Block.flag {n : Nat} (b : Block n) (k : Nat) : Bool := (b.little 0 4).testBit k

/-- The first `n` bytes of a string, with zeros for those that are not there. -/
def Block.front (n : Nat) (bs : Bytes) : Block n :=
  ⟨(bs ++ Bytes.zeros n).take n, by simp⟩

/-! ## Pieces -/

/-- A peer record and the network records after it. -/
structure PeerBlocks where
  record : Block 136
  networks : List (Block 24)

/-- A buffer in pieces. -/
structure Layout where
  interface : Block 80
  peers : List PeerBlocks
  /-- What follows the last record. -/
  rest : Bytes

namespace PeerBlocks

/-- The pieces put together. -/
def bytes (p : PeerBlocks) : Bytes := p.record.toList ++ p.networks.flatMap Block.toList

/-- There are as many networks as the peer record announces. -/
def Counted (p : PeerBlocks) : Prop := p.networks.length = p.record.little 128 4

end PeerBlocks

namespace Layout

/-- The pieces put together. -/
def bytes (l : Layout) : Bytes :=
  l.interface.toList ++ l.peers.flatMap PeerBlocks.bytes ++ l.rest

/-- There are as many peers as the interface record announces, and each has its networks. -/
structure Counted (l : Layout) : Prop where
  peers : l.peers.length = l.interface.little 72 4
  networks : ∀ p ∈ l.peers, p.Counted

/-! ## Networks and endpoints -/

/-- A network record has a known family and a prefix length that fits it. -/
def NetworkAllowed (b : Block 24) : Prop :=
  b.little 16 2 = 2 ∧ b.little 18 1 ≤ 32 ∨ b.little 16 2 = 23 ∧ b.little 18 1 ≤ 128

def readAddress (b : Block 24) : Address :=
  if b.little 16 2 = 2 then .v4 (IPv4.ofBlock (b.piece 0 4))
  else .v6 (IPv6.ofBlock (b.piece 0 16))

/-- The network in a network record. A prefix length that is too long, which no allowed record has,
counts as zero. -/
def readNetwork (b : Block 24) : Network :=
  if h : UInt8.ofNat (b.little 18 1) ≤ (readAddress b).family.bits then
    ⟨readAddress b, UInt8.ofNat (b.little 18 1), h⟩
  else
    ⟨readAddress b, 0, UInt8.zero_le⟩

/-- The endpoint in an endpoint field: none for family 0. -/
def readEndpoint (b : Block 28) : Option Endpoint :=
  if b.little 0 2 = 2 then
    some (.v4 (IPv4.ofBlock (b.piece 4 4)) (UInt16.ofNat (b.big 2 2)))
  else if b.little 0 2 = 23 then
    some (.v6 (IPv6.ofBlock (b.piece 8 16)) (UInt16.ofNat (b.big 2 2))
      (UInt32.ofNat (b.big 4 4)) (UInt32.ofNat (b.little 24 4)))
  else
    none

end Layout

namespace PeerBlocks

/-! ## Peers -/

def endpoint (p : PeerBlocks) : Block 28 := p.record.piece 76 28

/-- What may stand in the records of a peer. -/
structure Allowed (p : PeerBlocks) : Prop where
  /-- The public key is given. -/
  publicKey : p.record.flag 0 = true
  /-- A removal is no update, replaces no networks, gives no preshared key, keepalive or endpoint,
  and has no networks. -/
  removal : p.record.flag 6 = true →
    p.record.flag 7 = false ∧ p.record.flag 5 = false ∧ p.record.flag 1 = false ∧
      p.record.flag 2 = false ∧ p.record.flag 3 = false ∧ p.record.little 128 4 = 0
  networks : p.record.flag 6 = false → ∀ b ∈ p.networks, Layout.NetworkAllowed b
  endpoint : p.record.flag 6 = false → p.record.flag 3 = true →
    p.endpoint.little 0 2 = 0 ∨ p.endpoint.little 0 2 = 2 ∨ p.endpoint.little 0 2 = 23

def profile (p : PeerBlocks) : Profile where
  presharedKey := if p.record.flag 1 then some ⟨p.record.piece 40 32⟩ else none
  keepalive := if p.record.flag 2 then some (UInt16.ofNat (p.record.little 72 2)) else none
  endpoint := if p.record.flag 3 then Layout.readEndpoint p.endpoint else none
  replaceNetworks := p.record.flag 5
  networks := p.networks.map Layout.readNetwork
  traffic :=
    ⟨UInt64.ofNat (p.record.little 104 8), UInt64.ofNat (p.record.little 112 8),
      UInt64.ofNat (p.record.little 120 8)⟩

/-- What the records say should happen with the peer. -/
def change (p : PeerBlocks) : Change :=
  if p.record.flag 6 then .remove
  else if p.record.flag 7 then .update p.profile
  else .set p.profile

def peer (p : PeerBlocks) : Peer := ⟨⟨p.record.piece 8 32⟩, p.change⟩

/-- The number of bytes that the records take up. -/
def size (p : PeerBlocks) : Nat := 136 + p.networks.length * 24

theorem length_bytes (p : PeerBlocks) : p.bytes.length = p.size := by
  rw [bytes, List.length_append, p.record.length_toList, Block.length_flatMap_toList, size]

end PeerBlocks

namespace Layout

/-- Every peer is allowed. -/
def Allowed (l : Layout) : Prop := ∀ p ∈ l.peers, p.Allowed

def readInterface (b : Block 80) : Interface where
  privateKey := if b.flag 1 then some ⟨b.piece 6 32⟩ else none
  publicKey := if b.flag 0 then some ⟨b.piece 38 32⟩ else none
  listenPort := if b.flag 2 then some (UInt16.ofNat (b.little 4 2)) else none
  replacePeers := b.flag 3

/-- The configuration in a buffer. -/
def configuration (l : Layout) : Configuration :=
  ⟨readInterface l.interface, l.peers.map PeerBlocks.peer⟩

/-! ## Cutting a buffer -/

/-- Cuts `count` blocks off the front of a string. -/
def cutBlocks (size : Nat) : (count : Nat) → Bytes → List (Block size)
  | 0, _ => []
  | count + 1, bs => Block.front size bs :: cutBlocks size count (bs.drop size)

/-- Cuts a peer off the front of a string. -/
def cutPeer (bs : Bytes) : PeerBlocks :=
  ⟨Block.front 136 bs, cutBlocks 24 ((Block.front 136 bs).little 128 4) (bs.drop 136)⟩

/-- Cuts `count` peers off the front of a string; and what is left. -/
def cutPeers : (count : Nat) → Bytes → List PeerBlocks × Bytes
  | 0, bs => ([], bs)
  | count + 1, bs =>
    let (ps, rest) := cutPeers count (bs.drop (cutPeer bs).size)
    (cutPeer bs :: ps, rest)

/-- Cuts a buffer where its counts say. -/
def cut (bs : Bytes) : Layout :=
  let interface := Block.front 80 bs
  let (ps, rest) := cutPeers (interface.little 72 4) (bs.drop 80)
  ⟨interface, ps, rest⟩

theorem front_append {n : Nat} (b : Block n) (rest : Bytes) :
    Block.front n (b.toList ++ rest) = b := by
  apply Block.ext
  show (b.toList ++ rest ++ Bytes.zeros n).take n = b.toList
  rw [List.append_assoc, List.take_left' b.length_toList]

theorem cutBlocks_append {size : Nat} (blocks : List (Block size)) (rest : Bytes) :
    cutBlocks size blocks.length (blocks.flatMap Block.toList ++ rest) = blocks := by
  induction blocks with
  | nil => rfl
  | cons b blocks ih =>
    rw [List.length_cons, cutBlocks, List.flatMap_cons, List.append_assoc, front_append,
      List.drop_left' b.length_toList, ih]

theorem cutPeer_append {p : PeerBlocks} (h : p.Counted) (rest : Bytes) :
    cutPeer (p.bytes ++ rest) = p := by
  have hrecord : Block.front 136 (p.bytes ++ rest) = p.record := by
    rw [PeerBlocks.bytes, List.append_assoc, front_append]
  have hrest : (p.bytes ++ rest).drop 136 = p.networks.flatMap Block.toList ++ rest := by
    rw [PeerBlocks.bytes, List.append_assoc, List.drop_left' p.record.length_toList]
  rw [cutPeer, hrecord, hrest, ← h, cutBlocks_append]

theorem cutPeers_append {ps : List PeerBlocks} (h : ∀ p ∈ ps, p.Counted) (rest : Bytes) :
    cutPeers ps.length (ps.flatMap PeerBlocks.bytes ++ rest) = (ps, rest) := by
  induction ps with
  | nil => rfl
  | cons p ps ih =>
    have hp : p.Counted := h p List.mem_cons_self
    have hps : ∀ q ∈ ps, q.Counted := fun q hq => h q (List.mem_cons_of_mem p hq)
    rw [List.length_cons, cutPeers, List.flatMap_cons, List.append_assoc, cutPeer_append hp,
      List.drop_left' p.length_bytes, ih hps]

/-- A counted layout is found again from its bytes. -/
theorem cut_bytes {l : Layout} (h : l.Counted) : cut l.bytes = l := by
  have hinterface : Block.front 80 l.bytes = l.interface := by
    rw [bytes, List.append_assoc, front_append]
  have hrest : l.bytes.drop 80 = l.peers.flatMap PeerBlocks.bytes ++ l.rest := by
    rw [bytes, List.append_assoc, List.drop_left' l.interface.length_toList]
  rw [cut, hinterface, hrest, ← h.peers, cutPeers_append h.networks]

end Layout

end TunnelConfig
