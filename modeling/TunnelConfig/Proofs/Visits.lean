import TunnelConfig.Proofs.Decoding

/-!
# Where a walk looks

A walk over the peers of a buffer looks for a record at one offset after another. `visited` is the
list of these offsets, with the last one also where no peer can be read.

**Reading at an offset.** What is read at an offset is the record there if all its bytes are in the
buffer (`peer_ofOffset`, `network_ofOffset`), a peer is visited if all its networks are there as
well (`entry_ofOffset`), and the next one is looked for right behind them (`offsets_succ`). So every
count that decides where the walk goes on is a number in the buffer at a known offset (`numberAt`),
and the walk never looks back (`le_of_mem_offsets`).
-/

namespace TunnelConfig

open Wire

/-! ## Numbers in a buffer -/

namespace Bytes

/-- The little-endian number in the `width` bytes that start at `offset`. -/
def numberAt (buffer : Bytes) (offset width : Nat) : Nat :=
  littleValue ((buffer.drop offset).take width)

/-- The `n` bytes that start at `offset`, with zeros for those that are not there. -/
def blockAt (n : Nat) (buffer : Bytes) (offset : Nat) : Block n := .front n (buffer.drop offset)

/-- How many networks a peer record at `offset` announces. -/
def networkCountAt (buffer : Bytes) (offset : Nat) : Nat := buffer.numberAt (offset + 128) 4

/-- The end of a peer record at `offset` and of its networks. -/
def peerEnd (buffer : Bytes) (offset : Nat) : Nat :=
  offset + 136 + 24 * buffer.networkCountAt offset

variable {n : Nat} {buffer : Bytes} {offset : Nat}

theorem toList_blockAt (h : offset + n ≤ buffer.length) :
    (blockAt n buffer offset).toList = (buffer.drop offset).take n := by
  have hlength : n ≤ (buffer.drop offset).length := by
    rw [List.length_drop]
    omega
  exact List.take_append_of_le_length hlength

/-- A field of a record is a piece of the buffer. -/
theorem take_drop_blockAt (h : offset + n ≤ buffer.length) {start width : Nat}
    (hfits : start + width ≤ n) :
    ((blockAt n buffer offset).toList.drop start).take width =
      (buffer.drop (offset + start)).take width := by
  rw [toList_blockAt h, List.drop_take, List.drop_drop, List.take_take, Nat.min_eq_left (by omega)]

/-- A number in a record is a number in the buffer. -/
theorem little_blockAt (h : offset + n ≤ buffer.length) {start width : Nat}
    (hfits : start + width ≤ n) :
    (blockAt n buffer offset).little start width = buffer.numberAt (offset + start) width :=
  congrArg littleValue (take_drop_blockAt h hfits)

end Bytes

/-! ## Reading at an offset -/

namespace Wire.Cursor

variable (buffer : Bytes) (offset : Nat)

theorem length_rest_ofOffset : (ofOffset buffer offset).rest.length = buffer.length - offset :=
  List.length_drop

theorem advance_ofOffset (n : Nat) :
    (ofOffset buffer offset).advance n = ofOffset buffer (offset + n) := by
  rw [ofOffset, ofOffset, advance, List.drop_drop]

theorem truncated_ofOffset (n : Nat) :
    (ofOffset buffer offset).truncated n = .truncated offset n (buffer.length - offset) :=
  congrArg (Error.truncated offset n) (length_rest_ofOffset buffer offset)

theorem block_ofOffset {n : Nat} (hn : 0 < n) :
    (ofOffset buffer offset).block n =
      if offset + n ≤ buffer.length then .ok (buffer.blockAt n offset)
      else .error (.truncated offset n (buffer.length - offset)) := by
  have hlength : ((buffer.drop offset).take n).length = min n (buffer.length - offset) := by
    rw [List.length_take, List.length_drop]
  rw [block]
  by_cases h : offset + n ≤ buffer.length
  · have hblock : Block.ofList? ((buffer.drop offset).take n) = some (buffer.blockAt n offset) := by
      rw [← Bytes.toList_blockAt h, Block.ofList?_toList]
    rw [if_pos h, show (ofOffset buffer offset).rest = buffer.drop offset from rfl, hblock]
  · have hblock : (Block.ofList? ((buffer.drop offset).take n) : Option (Block n)) = none :=
      dif_neg (by omega)
    rw [if_neg h, show (ofOffset buffer offset).rest = buffer.drop offset from rfl, hblock,
      truncated_ofOffset]

theorem map_block_ofOffset {n : Nat} (hn : 0 < n) {α : Type} (f : Block n → α) :
    ((ofOffset buffer offset).block n).map f =
      if offset + n ≤ buffer.length then .ok (f (buffer.blockAt n offset))
      else .error (.truncated offset n (buffer.length - offset)) := by
  rw [block_ofOffset buffer offset hn]
  split <;> rfl

theorem peer_ofOffset :
    (ofOffset buffer offset).peer =
      if offset + 136 ≤ buffer.length then .ok (.ofBlock (buffer.blockAt 136 offset))
      else .error (.truncated offset 136 (buffer.length - offset)) :=
  map_block_ofOffset buffer offset (by decide) _

theorem network_ofOffset :
    (ofOffset buffer offset).network =
      if offset + 24 ≤ buffer.length then .ok (.ofBlock (buffer.blockAt 24 offset))
      else .error (.truncated offset 24 (buffer.length - offset)) :=
  map_block_ofOffset buffer offset (by decide) _

theorem firstNetwork_ofOffset :
    (ofOffset buffer offset).firstNetwork =
      if offset + 136 < addressLimit then .ok (ofOffset buffer (offset + 136))
      else .error ((ofOffset buffer offset).truncated 136) := by
  rw [firstNetwork, show PeerRecord.size = 136 from rfl, advance_ofOffset]
  rfl

theorem nextNetwork_ofOffset :
    (ofOffset buffer offset).nextNetwork =
      if offset + 24 < addressLimit then .ok (ofOffset buffer (offset + 24))
      else .error ((ofOffset buffer offset).truncated 24) := by
  rw [nextNetwork, show NetworkRecord.size = 24 from rfl, advance_ofOffset]
  rfl

theorem interface_start :
    (start buffer).interface =
      if 80 ≤ buffer.length then .ok (.ofBlock (buffer.blockAt 80 0))
      else .error (.truncated 0 80 buffer.length) := by
  have h := map_block_ofOffset buffer 0 (n := 80) (by decide) InterfaceRecord.ofBlock
  rwa [Nat.zero_add, Nat.sub_zero] at h

theorem peerCount_ofBlock {buffer : Bytes} (h : 80 ≤ buffer.length) :
    (InterfaceRecord.ofBlock (buffer.blockAt 80 0)).peerCount.toNat = buffer.numberAt 72 4 := by
  show (UInt32.ofNat ((buffer.blockAt 80 0).little 72 4)).toNat = _
  rw [Block.toNat_little_four, Bytes.little_blockAt (by omega) (by decide), Nat.zero_add]

theorem networkCount_ofBlock {buffer : Bytes} {offset : Nat} (h : offset + 136 ≤ buffer.length) :
    (PeerRecord.ofBlock (buffer.blockAt 136 offset)).networkCount.toNat =
      buffer.networkCountAt offset := by
  show (UInt32.ofNat ((buffer.blockAt 136 offset).little 128 4)).toNat = _
  rw [Block.toNat_little_four, Bytes.little_blockAt h (by decide), Bytes.networkCountAt]

theorem skipPeer_ofOffset {buffer : Bytes} {offset : Nat} {r : PeerRecord}
    (h : offset + 136 ≤ buffer.length)
    (hcount : r.networkCount.toNat = buffer.networkCountAt offset) :
    (ofOffset buffer offset).skipPeer r =
      if buffer.peerEnd offset ≤ buffer.length then .ok (ofOffset buffer (buffer.peerEnd offset))
      else .error (.inconsistentCount .network offset (buffer.networkCountAt offset)
        (buffer.length - (offset + 136))) := by
  have hholds : (ofOffset buffer (offset + 136)).holds (buffer.networkCountAt offset * 24) = true ↔
      buffer.peerEnd offset ≤ buffer.length := by
    rw [holds_iff, length_rest_ofOffset, Bytes.peerEnd]
    omega
  rw [skipPeer, hcount, show PeerRecord.size = 136 from rfl, show NetworkRecord.size = 24 from rfl,
    advance_ofOffset, advance_ofOffset, length_rest_ofOffset]
  by_cases hend : buffer.peerEnd offset ≤ buffer.length
  · rw [if_pos (hholds.mpr hend), if_pos hend, Nat.mul_comm]
    rfl
  · rw [if_neg fun h => hend (hholds.mp h), if_neg hend]
    rfl

/-- The next peer is behind the networks of this one, if they are in the buffer. -/
theorem nextPeer_ofOffset :
    (ofOffset buffer offset).nextPeer =
      if offset + 136 ≤ buffer.length then
        if buffer.peerEnd offset ≤ buffer.length then .ok (ofOffset buffer (buffer.peerEnd offset))
        else
          .error (.inconsistentCount .network offset (buffer.networkCountAt offset)
            (buffer.length - (offset + 136)))
      else .error (.truncated offset 136 (buffer.length - offset)) := by
  rw [nextPeer, peer_ofOffset]
  by_cases h : offset + 136 ≤ buffer.length
  · rw [if_pos h, if_pos h]
    exact skipPeer_ofOffset h (networkCount_ofBlock h)
  · rw [if_neg h, if_neg h]
    rfl

/-- A peer is visited if its record and its networks are in the buffer. -/
theorem entry_ofOffset :
    (ofOffset buffer offset).entry =
      if offset + 136 ≤ buffer.length then
        if buffer.peerEnd offset ≤ buffer.length then
          .ok (⟨ofOffset buffer offset, .ofBlock (buffer.blockAt 136 offset)⟩,
            ofOffset buffer (buffer.peerEnd offset))
        else
          .error (.inconsistentCount .network offset (buffer.networkCountAt offset)
            (buffer.length - (offset + 136)))
      else .error (.truncated offset 136 (buffer.length - offset)) := by
  rw [entry, peer_ofOffset]
  by_cases h : offset + 136 ≤ buffer.length
  · rw [if_pos h, if_pos h]
    show ((ofOffset buffer offset).skipPeer _ >>= fun next => _) = _
    rw [skipPeer_ofOffset h (networkCount_ofBlock h)]
    split <;> rfl
  · rw [if_neg h, if_neg h]
    rfl

end Wire.Cursor

/-! ## Visited offsets -/

namespace Wire.PeerWalk

/-- The offsets at which the walk still looks for a peer, the one where it fails included. -/
def offsets (w : PeerWalk) : List Nat :=
  match h : w.next with
  | none => []
  | some (_, v) =>
    have := left_next_lt h
    w.position :: offsets v
termination_by w.left

theorem offsets_of_next_none {w : PeerWalk} (h : w.next = none) : w.offsets = [] := by
  rw [offsets]
  split
  · rfl
  · next item v hnext =>
    rw [h] at hnext
    cases hnext

theorem offsets_of_next_some {w v : PeerWalk} {item : Except Error PeerEntry}
    (h : w.next = some (item, v)) : w.offsets = w.position :: v.offsets := by
  rw [offsets]
  split
  · next hnext =>
    rw [h] at hnext
    cases hnext
  · next item' v' hnext =>
    rw [h] at hnext
    cases hnext
    rfl

theorem offsets_zero (c : Cursor) : (⟨c, 0, false⟩ : PeerWalk).offsets = [] :=
  offsets_of_next_none rfl

/-- A call for a peer that is there moves the walk behind its networks. -/
theorem next_ofOffset {buffer : Bytes} {p : Nat} (hend : buffer.peerEnd p ≤ buffer.length)
    (count : Nat) :
    (⟨.ofOffset buffer p, count + 1, false⟩ : PeerWalk).next =
      some (.ok ⟨.ofOffset buffer p, .ofBlock (buffer.blockAt 136 p)⟩,
        ⟨.ofOffset buffer (buffer.peerEnd p), count, false⟩) := by
  have hrecord : p + 136 ≤ buffer.length := Nat.le_trans (Nat.le_add_right _ _) hend
  rw [next, if_neg (by simp), Cursor.entry_ofOffset, if_pos hrecord, if_pos hend]
  rfl

/-- A call for any other peer fails and does not move the walk. -/
theorem next_ofOffset_of_lt {buffer : Bytes} {p : Nat} (hend : buffer.length < buffer.peerEnd p)
    (count : Nat) :
    ∃ e, (⟨.ofOffset buffer p, count + 1, false⟩ : PeerWalk).next =
      some (.error e, ⟨.ofOffset buffer p, count + 1, true⟩) := by
  obtain ⟨e, he⟩ : ∃ e, (Cursor.ofOffset buffer p).entry = .error e := by
    rw [Cursor.entry_ofOffset, if_neg (Nat.not_le.mpr hend)]
    split <;> exact ⟨_, rfl⟩
  refine ⟨e, ?_⟩
  rw [next, if_neg (by simp), he]

/-- A peer that can be visited is followed by the next one; otherwise the walk ends with it. -/
theorem offsets_succ (buffer : Bytes) (offset count : Nat) :
    (⟨.ofOffset buffer offset, count + 1, false⟩ : PeerWalk).offsets =
      offset :: if buffer.peerEnd offset ≤ buffer.length then
        offsets ⟨.ofOffset buffer (buffer.peerEnd offset), count, false⟩
      else [] := by
  by_cases h : buffer.peerEnd offset ≤ buffer.length
  · rw [offsets_of_next_some (next_ofOffset h count), if_pos h]
    rfl
  · obtain ⟨e, hnext⟩ := next_ofOffset_of_lt (Nat.lt_of_not_le h) count
    have hfailed : (⟨.ofOffset buffer offset, count + 1, true⟩ : PeerWalk).offsets = [] :=
      offsets_of_next_none (by simp [next])
    rw [offsets_of_next_some hnext, if_neg h, hfailed]
    rfl

theorem le_of_mem_offsets {buffer : Bytes} {offset count p : Nat}
    (h : p ∈ (⟨.ofOffset buffer offset, count, false⟩ : PeerWalk).offsets) : offset ≤ p := by
  induction count generalizing offset with
  | zero =>
    rw [offsets_zero] at h
    cases h
  | succ count ih =>
    rw [offsets_succ] at h
    rcases List.mem_cons.mp h with rfl | h
    · exact Nat.le_refl _
    · split at h
      · have hend : offset ≤ buffer.peerEnd offset := by
          rw [Bytes.peerEnd]
          omega
        exact Nat.le_trans hend (ih h)
      · cases h

end Wire.PeerWalk

/-- The walk over the peers of a buffer starts if as many peer records as announced fit into it. -/
theorem Wire.Cursor.peers_start (buffer : Bytes) :
    (start buffer).peers =
      if 80 ≤ buffer.length then
        if 80 + 136 * buffer.numberAt 72 4 ≤ buffer.length then
          .ok ⟨ofOffset buffer 80, buffer.numberAt 72 4, false⟩
        else .error (.inconsistentCount .peer 0 (buffer.numberAt 72 4) (buffer.length - 80))
      else .error (.truncated 0 80 buffer.length) := by
  rw [peers, interface_start]
  by_cases h : 80 ≤ buffer.length
  · have hcount := peerCount_ofBlock h
    have hplace : (start buffer).firstPeer = ofOffset buffer 80 := rfl
    have hholds : (ofOffset buffer 80).holds (buffer.numberAt 72 4 * 136) = true ↔
        80 + 136 * buffer.numberAt 72 4 ≤ buffer.length := by
      rw [holds_iff, length_rest_ofOffset]
      omega
    rw [if_pos h, if_pos h]
    show (if (start buffer).firstPeer.holds
        ((InterfaceRecord.ofBlock (buffer.blockAt 80 0)).peerCount.toNat * 136) then _ else _) = _
    rw [hcount, hplace, length_rest_ofOffset]
    by_cases hfits : 80 + 136 * buffer.numberAt 72 4 ≤ buffer.length
    · rw [if_pos (hholds.mpr hfits), if_pos hfits]
      rfl
    · rw [if_neg fun h => hfits (hholds.mp h), if_neg hfits]
      rfl
  · rw [if_neg h, if_neg h]
    rfl

theorem Wire.Cursor.of_peers_start {buffer : Bytes} {w : PeerWalk}
    (h : (start buffer).peers = .ok w) :
    80 ≤ buffer.length ∧ w = ⟨ofOffset buffer 80, buffer.numberAt 72 4, false⟩ := by
  rw [peers_start] at h
  split at h
  · next hlength =>
    split at h
    · exact ⟨hlength, (Except.ok.inj h).symm⟩
    · exact absurd h error_ne_ok
  · exact absurd h error_ne_ok

/-- The offsets at which the walk over the peers of a buffer looks for one. -/
def visited (buffer : Bytes) : List Nat :=
  match (Cursor.start buffer).peers with
  | .ok w => w.offsets
  | .error _ => []

theorem visited_of_peers {buffer : Bytes} {w : PeerWalk} (h : (Cursor.start buffer).peers = .ok w) :
    visited buffer = w.offsets := by
  rw [visited, h]

theorem le_of_mem_visited {buffer : Bytes} {p : Nat} (h : p ∈ visited buffer) : 80 ≤ p := by
  cases hpeers : (Cursor.start buffer).peers with
  | ok w =>
    rw [visited_of_peers hpeers, (Cursor.of_peers_start hpeers).2] at h
    exact PeerWalk.le_of_mem_offsets h
  | error e =>
    rw [visited, hpeers] at h
    cases h

end TunnelConfig
