import TunnelConfig.Proofs.Calls
import TunnelConfig.Proofs.Visits

/-!
# Offsets in machine words

Cursors count in numbers without a bound. A machine counts in words: all numbers below
`addressLimit`. Where a sum could be too large or a difference below zero, a reader has to check it,
or to know for another reason that this cannot happen.

**Theorem (`reads_in_words`).** The reader checks enough. With a buffer of any length that a word
can hold, reading in words comes to the same as reading with cursors, at every offset whatsoever:
no sum and no difference that is not checked leaves the range of a word, neither in the calls that
move from record to record nor in the decoding of the whole buffer.

**Reading in words.** A `Word.Reading` has an outcome, a value or an error, only if every unchecked
`sum` and `difference` on its way is a word. The functions in `Word` are the reader with all its
sums, differences and products as a machine forms them; those that can be too large without being
wrong go through `fits?`.

**Why it is enough.** A sum is left unchecked only behind a record that was read, and such a record
ends within the buffer. So each function in `Word` is equal to the one on cursors (`nextPeer_eq`,
`peers_eq`, `decodePeer_eq`), and by induction on the announced number the same is true of all
networks and of all peers (`readNetworks_eq`, `exists_readPeers`). The walk over the peers never
leaves the buffer either, so the trailing bytes can be counted at its end.
-/

namespace TunnelConfig

open Wire

namespace Wire.Word

/-! ## Numbers in words -/

/-- The number, if a word can hold it. -/
def fits? (n : Nat) : Option Nat := if n < addressLimit then some n else none

/-- A reading in words. It has no outcome if a number that is not checked is not a word. -/
abbrev Reading := ExceptT Error Option

variable {α β : Type}

/-- The reading with this outcome. -/
def Reading.of (outcome : Except Error α) : Reading α := ExceptT.mk (some outcome)

/-- A sum that is not checked. -/
def sum (a b : Nat) : Reading Nat := ExceptT.mk ((fits? (a + b)).map .ok)

/-- A difference that is not checked. -/
def difference (a b : Nat) : Reading Nat := ExceptT.mk (if b ≤ a then some (.ok (a - b)) else none)

theorem Reading.of_ok_bind (a : α) (f : α → Reading β) : (Reading.of (.ok a) >>= f) = f a := rfl

theorem fits?_of_lt {n : Nat} (h : n < addressLimit) : fits? n = some n := if_pos h

/-- Whether a number is a word makes no difference where it has to be at most `bound`, if that is a
word. -/
theorem filter_fits? {bound : Nat} (hbound : bound < addressLimit) (n : Nat) :
    (fits? n).filter (fun k => k ≤ bound) = if n ≤ bound then some n else none := by
  by_cases h : n ≤ bound
  · have hn : n < addressLimit := Nat.lt_of_le_of_lt h hbound
    simp [fits?_of_lt hn, h]
  · by_cases hn : n < addressLimit <;> simp [fits?, hn, Option.filter_some, h]

theorem sum_of_lt {a b : Nat} (h : a + b < addressLimit) :
    sum a b = Reading.of (.ok (a + b)) := by
  rw [sum, fits?_of_lt h]
  rfl

theorem difference_of_le {a b : Nat} (h : b ≤ a) :
    difference a b = Reading.of (.ok (a - b)) := by
  rw [difference, if_pos h]
  rfl

/-! ## The reader -/

section Reader

variable (buffer : Bytes)

def block (n offset : Nat) : Except Error (Block n) :=
  let stop := (fits? (offset + n)).filter fun stop => stop ≤ buffer.length
  match stop.bind fun stop => Block.ofList? ((buffer.take stop).drop offset) with
  | some b => .ok b
  | none => .error (.truncated offset n (buffer.length - offset))

def interface : Except Error InterfaceRecord :=
  (block buffer InterfaceRecord.size 0).map InterfaceRecord.ofBlock

def peer (offset : Nat) : Except Error PeerRecord :=
  (block buffer PeerRecord.size offset).map PeerRecord.ofBlock

def network (offset : Nat) : Except Error NetworkRecord :=
  (block buffer NetworkRecord.size offset).map NetworkRecord.ofBlock

/-- The offset past a record of this size. -/
def past (size offset : Nat) : Except Error Nat :=
  match fits? (offset + size) with
  | some next => .ok next
  | none => .error (.truncated offset size (buffer.length - offset))

/-- The size of `count` records, if the bytes that remain can hold them. -/
def span (kind : Counted) (offset count size remaining : Nat) : Except Error Nat :=
  match (fits? (count * size)).filter fun span => span ≤ remaining with
  | some span => .ok span
  | none => .error (.inconsistentCount kind offset count remaining)

/-- The offset past a peer and its networks. -/
def nextPeer (offset : Nat) : Reading Nat := do
  let r ← Reading.of (peer buffer offset)
  let networks ← sum offset PeerRecord.size
  let remaining ← difference buffer.length networks
  let span ← Reading.of
    (span .network offset r.networkCount.toNat NetworkRecord.size remaining)
  sum networks span

/-- How many peers are announced, if the bytes after the interface record can hold them. -/
def peers : Reading Nat := do
  let r ← Reading.of (interface buffer)
  let remaining ← difference buffer.length InterfaceRecord.size
  let _ ← Reading.of (span .peer 0 r.peerCount.toNat PeerRecord.size remaining)
  return r.peerCount.toNat

/-- The peer record at an offset, and the offset of the next. -/
def entry (offset : Nat) : Reading (PeerRecord × Nat) := do
  let r ← Reading.of (peer buffer offset)
  let next ← nextPeer buffer offset
  return (r, next)

/-! ## Decoding -/

/-- Reads `count` networks, the first at `place`, after those `read`, which are given newest
first. -/
def readNetworks : (count : Nat) → (place : Except Error Nat) → (read : List Network) →
    Except Error (List Network)
  | 0, _, read => .ok read.reverse
  | count + 1, place, read => do
    let offset ← place
    let r ← network buffer offset
    let n ← r.network offset
    readNetworks count (past buffer NetworkRecord.size offset) (n :: read)

/-- The endpoint that a field holds. Only where its family has no meaning does it matter where the
field is. -/
def endpoint (peerOffset : Nat) (f : SocketField) : Reading (Option Endpoint) :=
  if f.family = 0 ∨ (Family.ofCode? f.family).isSome then Reading.of (f.endpoint? peerOffset)
  else do
    let offset ← sum peerOffset SocketField.offsetInPeer
    throw (.unknownFamily offset f.family)

/-- The endpoint of a peer record at an offset. -/
def endpointOf (offset : Nat) (r : PeerRecord) : Reading (Option Endpoint) :=
  if r.flags.contains PeerFlags.endpoint then endpoint offset r.endpoint else pure none

/-- The profile that a peer record gives together with its networks and its endpoint. -/
def profile (r : PeerRecord) (networks : List Network) (endpoint : Option Endpoint) : Profile where
  presharedKey := Key.ofField (r.flags.contains PeerFlags.presharedKey) r.presharedKey
  keepalive := if r.flags.contains PeerFlags.keepalive then some r.keepalive else none
  endpoint := endpoint
  replaceNetworks := r.flags.contains PeerFlags.replaceNetworks
  networks := networks
  traffic := ⟨r.sent, r.received, r.lastHandshake⟩

/-- The peer that the record `r` at an offset describes. -/
def decodePeer (offset : Nat) (r : PeerRecord) : Reading Peer := do
  if !r.flags.contains PeerFlags.publicKey then
    throw (.missingPublicKey offset)
  if r.flags.contains PeerFlags.removal then
    if r.flags.intersects PeerFlags.notOnRemoval || r.networkCount != 0 then
      throw (.contradictoryFlags offset r.flags.bits)
    return ⟨⟨r.publicKey⟩, .remove⟩
  let networks ← Reading.of
    (readNetworks buffer r.networkCount.toNat (past buffer PeerRecord.size offset) [])
  let endpoint ← endpointOf offset r
  let profile := profile r networks endpoint
  return ⟨⟨r.publicKey⟩,
    if r.flags.contains PeerFlags.update then .update profile else .set profile⟩

/-- Reads `count` peers, the first at an offset, after those `read`, which are given newest first;
and the offset past the last. -/
def readPeers : (count offset : Nat) → (read : List Peer) → Reading (List Peer × Nat)
  | 0, offset, read => pure (read.reverse, offset)
  | count + 1, offset, read => do
    let (r, next) ← entry buffer offset
    let p ← decodePeer buffer offset r
    readPeers count next (p :: read)

/-- How many bytes follow the last record. -/
def trailing (stop : Nat) : Reading Nat :=
  if stop < buffer.length then difference buffer.length stop else pure 0

/-- The configuration that a buffer describes, and how many bytes follow its last record. -/
def decode : Reading (Configuration × Nat) := do
  let r ← Reading.of (interface buffer)
  let count ← peers buffer
  let (ps, stop) ← readPeers buffer count InterfaceRecord.size []
  let trailing ← trailing buffer stop
  return (⟨Interface.ofRecord r, ps⟩, trailing)

end Reader

/-! ## Reading at an offset -/

section Offsets

variable {buffer : Bytes} (hlimit : buffer.length < addressLimit)
include hlimit

theorem block_eq {n : Nat} (hn : 0 < n) (offset : Nat) :
    block buffer n offset = (Cursor.ofOffset buffer offset).block n := by
  rw [Cursor.block_ofOffset buffer offset hn, block, filter_fits? hlimit]
  by_cases h : offset + n ≤ buffer.length
  · have hbytes : (buffer.take (offset + n)).drop offset = (buffer.blockAt n offset).toList := by
      rw [Bytes.toList_blockAt h, List.drop_take, Nat.add_sub_cancel_left]
    rw [if_pos h, if_pos h, Option.bind_some, hbytes, Block.ofList?_toList]
  · rw [if_neg h, if_neg h]
    rfl

theorem interface_eq : interface buffer = (Cursor.start buffer).interface := by
  rw [interface, block_eq hlimit (by decide)]
  rfl

theorem peer_eq (offset : Nat) : peer buffer offset = (Cursor.ofOffset buffer offset).peer := by
  rw [peer, block_eq hlimit (by decide)]
  rfl

theorem network_eq (offset : Nat) :
    network buffer offset = (Cursor.ofOffset buffer offset).network := by
  rw [network, block_eq hlimit (by decide)]
  rfl

theorem span_eq (kind : Counted) (offset count size : Nat) {remaining : Nat}
    (hremaining : remaining ≤ buffer.length) :
    span kind offset count size remaining =
      if count * size ≤ remaining then .ok (count * size)
      else .error (.inconsistentCount kind offset count remaining) := by
  rw [span, filter_fits? (Nat.lt_of_le_of_lt hremaining hlimit)]
  by_cases h : count * size ≤ remaining
  · rw [if_pos h, if_pos h]
  · rw [if_neg h, if_neg h]

theorem nextPeer_eq (offset : Nat) :
    nextPeer buffer offset =
      Reading.of ((Cursor.ofOffset buffer offset).nextPeer.map Cursor.offset) := by
  rw [nextPeer, peer_eq hlimit, Cursor.peer_ofOffset, Cursor.nextPeer_ofOffset]
  by_cases h : offset + 136 ≤ buffer.length
  · have hsum : sum offset PeerRecord.size = Reading.of (.ok (offset + 136)) :=
      sum_of_lt (show offset + 136 < addressLimit by omega)
    have hfits : buffer.networkCountAt offset * NetworkRecord.size ≤
        buffer.length - (offset + 136) ↔ buffer.peerEnd offset ≤ buffer.length := by
      rw [Bytes.peerEnd, show NetworkRecord.size = 24 from rfl]
      omega
    rw [if_pos h, if_pos h, Reading.of_ok_bind, hsum, Reading.of_ok_bind, difference_of_le h,
      Reading.of_ok_bind, span_eq hlimit _ _ _ _ (Nat.sub_le _ _), Cursor.networkCount_ofBlock h]
    by_cases hend : buffer.peerEnd offset ≤ buffer.length
    · have hstop : offset + 136 + buffer.networkCountAt offset * NetworkRecord.size =
          buffer.peerEnd offset := by
        rw [Bytes.peerEnd, Nat.mul_comm]
        rfl
      rw [if_pos (hfits.mpr hend), if_pos hend, Reading.of_ok_bind,
        sum_of_lt (by omega), hstop]
      rfl
    · rw [if_neg fun hspan => hend (hfits.mp hspan), if_neg hend]
      rfl
  · rw [if_neg h, if_neg h]
    rfl

theorem entry_eq (offset : Nat) :
    entry buffer offset =
      Reading.of ((Cursor.ofOffset buffer offset).entry.map fun e => (e.1.record, e.2.offset)) := by
  rw [entry, nextPeer_eq hlimit, peer_eq hlimit, Cursor.nextPeer, Cursor.entry]
  cases (Cursor.ofOffset buffer offset).peer with
  | error e => rfl
  | ok r =>
    show _ = Reading.of (((Cursor.ofOffset buffer offset).skipPeer r >>= _).map _)
    rw [Reading.of_ok_bind]
    show (Reading.of (((Cursor.ofOffset buffer offset).skipPeer r).map Cursor.offset) >>= _) = _
    cases (Cursor.ofOffset buffer offset).skipPeer r <;> rfl

theorem peers_eq :
    peers buffer = Reading.of ((Cursor.start buffer).peers.map PeerWalk.remaining) := by
  rw [peers, interface_eq hlimit, Cursor.interface_start, Cursor.peers_start]
  by_cases h : 80 ≤ buffer.length
  · have hcount := Cursor.peerCount_ofBlock h
    have hremaining : difference buffer.length InterfaceRecord.size =
        Reading.of (.ok (buffer.length - 80)) := difference_of_le h
    have hfits : buffer.numberAt 72 4 * PeerRecord.size ≤ buffer.length - 80 ↔
        80 + 136 * buffer.numberAt 72 4 ≤ buffer.length := by
      rw [show PeerRecord.size = 136 from rfl]
      omega
    rw [if_pos h, if_pos h, Reading.of_ok_bind, hremaining, Reading.of_ok_bind,
      span_eq hlimit _ _ _ _ (Nat.sub_le _ _), hcount]
    simp only [hfits]
    split <;> rfl
  · rw [if_neg h, if_neg h]
    rfl

end Offsets

theorem past_of_lt (buffer : Bytes) {size offset : Nat} (h : offset + size < addressLimit) :
    past buffer size offset = .ok (offset + size) := by
  rw [past, fits?_of_lt h]

/-- The place past a record has an offset if that is a word. -/
theorem past_eq (buffer : Bytes) (size offset : Nat) :
    past buffer size offset =
      if offset + size < addressLimit then .ok (offset + size)
      else .error ((Cursor.ofOffset buffer offset).truncated size) := by
  by_cases h : offset + size < addressLimit
  · rw [past_of_lt buffer h, if_pos h]
  · rw [past, fits?, if_neg h, if_neg h, Cursor.truncated_ofOffset]

theorem trailing_eq {buffer : Bytes} {stop : Nat} (h : stop ≤ buffer.length) :
    trailing buffer stop = Reading.of (.ok (buffer.length - stop)) := by
  rw [trailing]
  split
  · exact difference_of_le h
  · next hend =>
    have hzero : buffer.length - stop = 0 := by omega
    rw [hzero]
    rfl

/-! ## Decoding -/

section Decoding

variable {buffer : Bytes} (hlimit : buffer.length < addressLimit)
include hlimit

/-- The offset of the next network matters only if the one before was read, and then it is a
word. -/
theorem readNetworks_eq (count offset : Nat) (read : List Network) :
    readNetworks buffer count (.ok offset) read =
      Network.readRun count (.ofOffset buffer offset) read := by
  induction count generalizing offset read with
  | zero => rfl
  | succ count ih =>
    show (network buffer offset >>= _) = _
    rw [network_eq hlimit, Network.readRun, Cursor.network_ofOffset]
    by_cases h : offset + 24 ≤ buffer.length
    · have hpast : past buffer NetworkRecord.size offset = .ok (offset + 24) :=
        past_of_lt buffer (show offset + 24 < addressLimit by omega)
      have hplace : (Cursor.ofOffset buffer offset).advance NetworkRecord.size =
          .ofOffset buffer (offset + 24) := Cursor.advance_ofOffset buffer offset 24
      simp only [hpast, hplace, ih]
      rfl
    · rw [if_neg h]
      rfl

theorem endpoint_eq {peerOffset : Nat} (h : peerOffset + 136 ≤ buffer.length) (f : SocketField) :
    endpoint peerOffset f = Reading.of (f.endpoint? peerOffset) := by
  rw [endpoint]
  split
  · rfl
  · next hunknown =>
    obtain ⟨hgiven, hfamily⟩ := not_or.mp hunknown
    have hsum : sum peerOffset SocketField.offsetInPeer =
        Reading.of (.ok (peerOffset + 76)) :=
      sum_of_lt (show peerOffset + 76 < addressLimit by omega)
    rw [Option.not_isSome_iff_eq_none] at hfamily
    rw [hsum, Reading.of_ok_bind, SocketField.endpoint?, if_neg hgiven, hfamily]
    rfl

theorem endpointOf_eq {offset : Nat} (h : offset + 136 ≤ buffer.length) (r : PeerRecord) :
    endpointOf offset r = Reading.of (Profile.endpointOf offset r) := by
  rw [endpointOf, Profile.endpointOf, endpoint_eq hlimit h]
  split <;> rfl

theorem decodePeer_eq {offset : Nat} (h : offset + 136 ≤ buffer.length) (r : PeerRecord) :
    decodePeer buffer offset r = Reading.of (Peer.ofEntry ⟨.ofOffset buffer offset, r⟩) := by
  rw [decodePeer, Peer.ofEntry_eq]
  cases hkey : r.flags.contains PeerFlags.publicKey with
  | false => rfl
  | true =>
    cases hremoval : r.flags.contains PeerFlags.removal with
    | true => cases r.flags.intersects PeerFlags.notOnRemoval || r.networkCount != 0 <;> rfl
    | false =>
      have hpast : past buffer PeerRecord.size offset = .ok (offset + 136) :=
        past_of_lt buffer (show offset + 136 < addressLimit by omega)
      have hplace : (Cursor.ofOffset buffer offset).advance PeerRecord.size =
          .ofOffset buffer (offset + 136) := Cursor.advance_ofOffset buffer offset 136
      have hentry : PeerEntry.offset ⟨.ofOffset buffer offset, r⟩ = offset := rfl
      rw [hpast, readNetworks_eq hlimit, endpointOf_eq hlimit h]
      simp only [hplace, hentry, Profile.ofRecord]
      cases Network.readRun r.networkCount.toNat (.ofOffset buffer (offset + 136)) [] with
      | error e => rfl
      | ok networks => cases Profile.endpointOf offset r <;> rfl

/-- The walk over the peers and their decoding go on together. The walk stays in the buffer, and the
decoding has come to its position when all peers are read. -/
theorem exists_readPeers (count : Nat) {offset : Nat} (hoffset : offset ≤ buffer.length)
    (read : List Peer) :
    ∃ items v, Yields PeerWalk.next ⟨.ofOffset buffer offset, count, false⟩ items v ∧
      v.position ≤ buffer.length ∧
      readPeers buffer count offset read =
        Reading.of ((Peer.readRun count (.ofOffset buffer offset) read).map
          fun ps => (ps, v.position)) := by
  induction count generalizing offset read with
  | zero => exact ⟨[], _, .done rfl, hoffset, rfl⟩
  | succ count ih =>
    rw [readPeers, entry_eq hlimit, Peer.readRun, Cursor.entry_ofOffset]
    by_cases hend : buffer.peerEnd offset ≤ buffer.length
    · have hrecord : offset + 136 ≤ buffer.length := Nat.le_trans (Nat.le_add_right _ _) hend
      rw [if_pos hrecord, if_pos hend]
      -- The walk goes on also where the decoding stops at a bad peer.
      show ∃ items v, _ ∧ _ ∧ (decodePeer buffer offset _ >>= _) =
        Reading.of ((Peer.ofEntry _ >>= _).map _)
      rw [decodePeer_eq hlimit hrecord]
      cases Peer.ofEntry ⟨.ofOffset buffer offset, .ofBlock (buffer.blockAt 136 offset)⟩ with
      | error e =>
        obtain ⟨items, v, hyields, hposition, -⟩ := ih hend read
        exact ⟨_, v, .more (PeerWalk.next_ofOffset hend count) hyields, hposition, rfl⟩
      | ok p =>
        obtain ⟨items, v, hyields, hposition, hread⟩ := ih hend (p :: read)
        exact ⟨_, v, .more (PeerWalk.next_ofOffset hend count) hyields, hposition, hread⟩
    · obtain ⟨e, hnext⟩ := PeerWalk.next_ofOffset_of_lt (Nat.lt_of_not_le hend) count
      have hfailed : (⟨.ofOffset buffer offset, count + 1, true⟩ : PeerWalk).next = none := by
        simp [PeerWalk.next]
      refine ⟨_, _, .more hnext (.done hfailed), hoffset, ?_⟩
      rw [if_neg hend]
      split <;> rfl

/-- Decoding comes to what the library decodes, and counts the bytes behind the end of the walk. -/
theorem decode_eq :
    decode buffer = Reading.of (do
      let c ← Configuration.decode buffer
      let w ← (Cursor.start buffer).peers
      return (c, buffer.length - w.run.2.position)) := by
  rw [decode, interface_eq hlimit, peers_eq hlimit, Configuration.decode]
  cases hinterface : (Cursor.start buffer).interface with
  | error e => rfl
  | ok r =>
    cases hpeers : (Cursor.start buffer).peers with
    | error e => rfl
    | ok w =>
      obtain ⟨hlength, rfl⟩ := Cursor.of_peers_start hpeers
      obtain ⟨items, v, hyields, hposition, hread⟩ :=
        exists_readPeers hlimit (buffer.numberAt 72 4) hlength []
      have hrun := PeerWalk.run_eq hyields
      show (readPeers buffer (buffer.numberAt 72 4) 80 [] >>= fun x => trailing buffer x.2 >>= _) =
        Reading.of ((Peer.readRun (buffer.numberAt 72 4) (.ofOffset buffer 80) [] >>= _) >>=
          fun c => .ok (c, buffer.length - (PeerWalk.run ⟨.ofOffset buffer 80, _, _⟩).2.position))
      rw [hread, hrun]
      cases Peer.readRun (buffer.numberAt 72 4) (.ofOffset buffer 80) [] with
      | error e => rfl
      | ok ps =>
        rw [Except.map, Reading.of_ok_bind, trailing_eq hposition]
        rfl

end Decoding

end Wire.Word

/-! ## Moving on without reading -/

namespace Wire.Cursor

/-- The place `count` network records further on. They need not be there. -/
def skipNetworks : (count : Nat) → Cursor → Except Error Cursor
  | 0, c => .ok c
  | count + 1, c => do
    let next ← c.nextNetwork
    next.skipNetworks count

/-- Places move on as long as their offsets are words, and each is where the sum says. -/
theorem skipNetworks_eq_ok_iff {buffer : Bytes} {offset : Nat} (hoffset : offset < addressLimit)
    (count : Nat) (c : Cursor) :
    (ofOffset buffer offset).skipNetworks count = .ok c ↔
      offset + 24 * count < addressLimit ∧ c = ofOffset buffer (offset + 24 * count) := by
  induction count generalizing offset with
  | zero =>
    rw [skipNetworks, Nat.mul_zero, Nat.add_zero, Except.ok.injEq]
    exact ⟨fun h => ⟨hoffset, h.symm⟩, fun h => h.2.symm⟩
  | succ count ih =>
    have hstep : offset + 24 * (count + 1) = offset + 24 + 24 * count := by omega
    rw [skipNetworks, nextNetwork_ofOffset, hstep]
    by_cases h : offset + 24 < addressLimit
    · rw [if_pos h]
      exact ih h
    · rw [if_neg h]
      exact iff_of_false error_ne_ok fun hc => h (by omega)

/-- The next peer is behind the record of this one and within the buffer. -/
theorem bounds_of_nextPeer {buffer : Bytes} {offset : Nat} {c : Cursor}
    (h : (ofOffset buffer offset).nextPeer = .ok c) :
    offset + 136 ≤ c.offset ∧ c.offset ≤ buffer.length := by
  rw [nextPeer_ofOffset] at h
  split at h
  · split at h
    · next hend =>
      cases h
      exact ⟨Nat.le_add_right _ _, hend⟩
    · exact absurd h error_ne_ok
  · exact absurd h error_ne_ok

end Wire.Cursor

/-! ## Every offset -/

namespace Wire.Word

/-- At an offset, reading in words comes to the same as reading with a cursor. -/
structure AgreesAt (buffer : Bytes) (offset : Nat) : Prop where
  peer : peer buffer offset = (Cursor.ofOffset buffer offset).peer
  network : network buffer offset = (Cursor.ofOffset buffer offset).network
  nextPeer : nextPeer buffer offset =
    Reading.of ((Cursor.ofOffset buffer offset).nextPeer.map Cursor.offset)
  firstNetwork : past buffer PeerRecord.size offset =
    (Cursor.ofOffset buffer offset).firstNetwork.map Cursor.offset
  nextNetwork : past buffer NetworkRecord.size offset =
    (Cursor.ofOffset buffer offset).nextNetwork.map Cursor.offset
  /-- A record can be read exactly if it ends in the buffer. -/
  peer_isOk : (∃ r, (Cursor.ofOffset buffer offset).peer = .ok r) ↔ offset + 136 ≤ buffer.length
  network_isOk :
    (∃ r, (Cursor.ofOffset buffer offset).network = .ok r) ↔ offset + 24 ≤ buffer.length
  /-- The next peer is behind the record of this one and within the buffer. -/
  nextPeer_bounds : ∀ c, (Cursor.ofOffset buffer offset).nextPeer = .ok c →
    offset + 136 ≤ c.offset ∧ c.offset ≤ buffer.length
  /-- Moving on fails exactly if the sum is not a word. -/
  firstNetwork_fails :
    (∃ e, (Cursor.ofOffset buffer offset).firstNetwork = .error e) ↔ addressLimit ≤ offset + 136
  nextNetwork_fails :
    (∃ e, (Cursor.ofOffset buffer offset).nextNetwork = .error e) ↔ addressLimit ≤ offset + 24

theorem agreesAt {buffer : Bytes} (hlimit : buffer.length < addressLimit) (offset : Nat) :
    AgreesAt buffer offset where
  peer := peer_eq hlimit offset
  network := network_eq hlimit offset
  nextPeer := nextPeer_eq hlimit offset
  firstNetwork := by
    rw [past_eq, Cursor.firstNetwork_ofOffset]
    show (if offset + 136 < addressLimit then _ else _) = _
    split <;> rfl
  nextNetwork := by
    rw [past_eq, Cursor.nextNetwork_ofOffset]
    show (if offset + 24 < addressLimit then _ else _) = _
    split <;> rfl
  peer_isOk := by rw [Cursor.peer_ofOffset, exists_ok_ite_iff]
  network_isOk := by rw [Cursor.network_ofOffset, exists_ok_ite_iff]
  nextPeer_bounds _ h := Cursor.bounds_of_nextPeer h
  firstNetwork_fails := by rw [Cursor.firstNetwork_ofOffset, exists_error_ite_iff, Nat.not_lt]
  nextNetwork_fails := by rw [Cursor.nextNetwork_ofOffset, exists_error_ite_iff, Nat.not_lt]

/-- **Reading in words is exact.** Let the length of a buffer be a word; that of any buffer in
memory is. At every offset, also far behind the buffer, the calls of the reader come to the same in
words as with cursors, and no unchecked sum or difference on their way fails to be a word. However
often a place moves on from one network to the next, its offset is the true sum, until that is no
word any more. The walk over the peers starts with the same count, and the whole buffer decodes to
the same configuration or with the same error. -/
theorem reads_in_words {buffer : Bytes} (hlimit : buffer.length < addressLimit) :
    (∀ offset, AgreesAt buffer offset) ∧
      (∀ offset < addressLimit, ∀ count c,
        (Cursor.ofOffset buffer offset).skipNetworks count = .ok c ↔
          offset + 24 * count < addressLimit ∧ c = .ofOffset buffer (offset + 24 * count)) ∧
      peers buffer = Reading.of ((Cursor.start buffer).peers.map PeerWalk.remaining) ∧
      decode buffer = Reading.of (do
        let c ← Configuration.decode buffer
        let w ← (Cursor.start buffer).peers
        return (c, buffer.length - w.run.2.position)) :=
  ⟨agreesAt hlimit, fun _ hoffset => Cursor.skipNetworks_eq_ok_iff hoffset, peers_eq hlimit,
    decode_eq hlimit⟩

/-- A peer with a network, and a peer whose endpoint is of no known family. -/
def stray : Bytes :=
  InterfaceRecord.bytes { InterfaceRecord.blank with peerCount := 2 } ++
    PeerRecord.bytes { PeerRecord.blank with flags := ⟨1⟩, networkCount := 1 } ++
    NetworkRecord.bytes ⟨.zero, 2, 32⟩ ++
    PeerRecord.bytes
      { PeerRecord.blank with flags := ⟨9⟩, endpoint := ⟨⟨5 :: Bytes.zeros 27, rfl⟩⟩ }

theorem reads_in_words_stray :
    stray.length < addressLimit ∧
      nextPeer stray 80 = Reading.of (.ok 240) ∧
      nextPeer stray 18446744073709551615 =
        Reading.of (.error (.truncated 18446744073709551615 136 0)) ∧
      (240 < addressLimit ∧ (Cursor.ofOffset stray 240).skipNetworks 768614336404564640 =
        .ok (.ofOffset stray 18446744073709551600)) ∧
      (∃ e, (Cursor.ofOffset stray 18446744073709551600).nextNetwork = .error e) ∧
      decode stray = Reading.of (.error (.unknownFamily 316 5)) := by
  have hlength : stray.length < addressLimit := by decide +kernel
  obtain ⟨hagrees, hskip, -, hdecode⟩ := reads_in_words hlength
  have hfirst : ((Cursor.ofOffset stray 80).nextPeer.map Cursor.offset) = .ok 240 := by
    decide +kernel
  have hfar : ((Cursor.ofOffset stray 18446744073709551615).nextPeer.map Cursor.offset) =
      .error (.truncated 18446744073709551615 136 0) := by decide +kernel
  have hwhole : Configuration.decode stray = .error (.unknownFamily 316 5) := by decide +kernel
  refine ⟨hlength, ?_, ?_, ⟨by decide, ?_⟩, ?_, ?_⟩
  · rw [(hagrees 80).nextPeer, hfirst]
  · rw [(hagrees _).nextPeer, hfar]
  · exact (hskip 240 (by decide) _ _).mpr ⟨by decide, rfl⟩
  · exact (hagrees _).nextNetwork_fails.mpr (by decide)
  · rw [hdecode, hwhole]
    rfl

end Wire.Word

end TunnelConfig
