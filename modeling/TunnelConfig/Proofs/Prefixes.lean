import TunnelConfig.Proofs.Calls
import TunnelConfig.Proofs.Canonical

/-!
# Decoding a part of a buffer

**Theorem (`decode_append`).** What a buffer decodes to, or the fault in it, does not depend on the
bytes after it, unless the buffer ends too early. An accepted buffer has a least part that is
accepted, up to where the walk over its peers ends: every longer part decodes to the same, and every
shorter one ends too early.

The readers are compared on two strings of which one continues the other. `Settled` says how the two
readings are related: either the shorter string ends too early, whatever the longer one yields, or
it has a fault and the longer one has the same, or both yield the same value, apart from the places
in it, which see more bytes behind them. A reading that is settled step by step is settled
(`Settled.bind`), so each reader inherits this from the readers it calls, down to the only one that
looks at the bytes (`settled_block`).

That a shorter part ends too early follows from this without another look at the readers: it cannot
be accepted, because a buffer is cut in one way only.
-/

namespace TunnelConfig

open Wire

variable {α α' β β' : Type}

/-! ## Two kinds of error -/

namespace Wire.Error

/-- The buffer ends before what it announces. -/
def IsShort : Error → Prop
  | truncated .. => True
  | inconsistentCount .. => True
  | _ => False

/-- A record that is there has no meaning. -/
def IsFault : Error → Prop
  | unknownFamily .. => True
  | overlongPrefix .. => True
  | contradictoryFlags .. => True
  | missingPublicKey .. => True
  | _ => False

end Wire.Error

/-! ## Settled readings -/

/-- What reading a string yields, and what reading it with more bytes behind it yields. The values
are the same up to `f`. -/
inductive Settled (f : α → β) : Except Wire.Error α → Except Wire.Error β → Prop
  /-- The string ends too early, and nothing is known with more bytes. -/
  | short {e : Wire.Error} (h : e.IsShort) (y : Except Wire.Error β) : Settled f (.error e) y
  | fault {e : Wire.Error} (h : e.IsFault) : Settled f (.error e) (.error e)
  | value (a : α) : Settled f (.ok a) (.ok (f a))

namespace Settled

theorem bind {f : α → α'} {g : β → β'} {x : Except Wire.Error α} {y : Except Wire.Error α'}
    {read : α → Except Wire.Error β} {read' : α' → Except Wire.Error β'} (hx : Settled f x y)
    (hread : ∀ a, x = .ok a → Settled g (read a) (read' (f a))) :
    Settled g (x >>= read) (y >>= read') := by
  cases hx with
  | short h y => exact .short h _
  | fault h => exact .fault h
  | value a => exact hread a rfl

theorem map {f : α → α'} {g : β → β'} {x : Except Wire.Error α} {y : Except Wire.Error α'}
    {make : α → β} {make' : α' → β'} (hx : Settled f x y)
    (hmake : ∀ a, make' (f a) = g (make a)) : Settled g (x.map make) (y.map make') := by
  cases hx with
  | short h y => exact .short h _
  | fault h => exact .fault h
  | value a =>
    show Settled g (.ok (make a)) (.ok (make' (f a)))
    rw [hmake]
    exact .value _

/-- A reading that does not look at the bytes behind. -/
theorem same {x : Except Wire.Error α} (h : ∀ e, x = .error e → e.IsFault) : Settled id x x := by
  cases x with
  | error e => exact .fault (h e rfl)
  | ok a => exact .value a

/-- With more bytes behind, the same comes out or the string was too short. -/
theorem short_or_eq {x y : Except Wire.Error α} (h : Settled id x y) :
    (∃ e, x = .error e ∧ e.IsShort) ∨ y = x ∧ ∀ e, x = .error e → e.IsFault := by
  cases h with
  | short h y => exact .inl ⟨_, rfl, h⟩
  | fault h =>
    refine .inr ⟨rfl, fun e he => ?_⟩
    cases he
    exact h
  | value a => exact .inr ⟨rfl, fun e he => absurd he.symm error_ne_ok⟩

end Settled

/-! ## Cursors -/

namespace Wire.Cursor

variable (more : Bytes) {c : Cursor} {n : Nat}

/-- The same place with more bytes at the end of the buffer. -/
def extend (c : Cursor) : Cursor := ⟨c.offset, c.rest ++ more⟩

theorem advance_extend (h : n ≤ c.rest.length) :
    (c.extend more).advance n = (c.advance n).extend more := by
  rw [extend, advance, List.drop_append_of_le_length h]
  rfl

theorem settled_block (c : Cursor) (n : Nat) :
    Settled id (c.block n) ((c.extend more).block n) := by
  cases h : c.block n with
  | ok b =>
    obtain ⟨rest, hrest⟩ := block_eq_ok_iff.mp h
    have hmore : (c.extend more).block n = .ok b := by
      rw [block_eq_ok_iff]
      refine ⟨rest ++ more, ?_⟩
      rw [extend, hrest, List.append_assoc]
    rw [hmore]
    exact .value b
  | error e =>
    have he : e = c.truncated n := by
      rw [block] at h
      split at h
      · exact absurd h.symm error_ne_ok
      · cases h
        rfl
    have hshort : (c.truncated n).IsShort := trivial
    rw [he]
    exact .short hshort _

theorem settled_interface (c : Cursor) : Settled id c.interface (c.extend more).interface :=
  (c.settled_block more _).map fun _ => rfl

theorem settled_peer (c : Cursor) : Settled id c.peer (c.extend more).peer :=
  (c.settled_block more _).map fun _ => rfl

theorem settled_network (c : Cursor) : Settled id c.network (c.extend more).network :=
  (c.settled_block more _).map fun _ => rfl

/-- A record that was read is in the bytes. -/
theorem le_length_of_block {b : Block n} (h : c.block n = .ok b) : n ≤ c.rest.length := by
  obtain ⟨rest, hrest⟩ := block_eq_ok_iff.mp h
  rw [hrest, List.length_append, b.length_toList]
  exact Nat.le_add_right _ _

theorem le_length_of_peer {r : PeerRecord} (h : c.peer = .ok r) : 136 ≤ c.rest.length := by
  obtain ⟨b, hb, -⟩ := map_eq_ok_iff.mp h
  exact le_length_of_block hb

theorem le_length_of_network {r : NetworkRecord} (h : c.network = .ok r) :
    24 ≤ c.rest.length := by
  obtain ⟨b, hb, -⟩ := map_eq_ok_iff.mp h
  exact le_length_of_block hb

theorem settled_skipPeer (r : PeerRecord) (h : 136 ≤ c.rest.length) :
    Settled (extend more) (c.skipPeer r) ((c.extend more).skipPeer r) := by
  rw [skipPeer, skipPeer, show PeerRecord.size = 136 from rfl, advance_extend more h]
  by_cases hholds : (c.advance 136).holds (r.networkCount.toNat * NetworkRecord.size) = true
  · have hlength := holds_iff.mp hholds
    have hmore : ((c.advance 136).extend more).holds
        (r.networkCount.toNat * NetworkRecord.size) = true := by
      rw [holds_iff, extend, List.length_append]
      exact Nat.le_add_right_of_le hlength
    simp only [if_pos hholds, if_pos hmore, advance_extend more hlength]
    exact .value _
  · have hshort : (Error.inconsistentCount .network c.offset r.networkCount.toNat
        (c.advance 136).rest.length).IsShort := trivial
    simp only [if_neg hholds]
    exact .short hshort _

end Wire.Cursor

/-! ## Networks and endpoints -/

theorem Wire.NetworkRecord.isFault_of_network {r : NetworkRecord} {offset : Nat} {e : Wire.Error}
    (h : r.network offset = .error e) : e.IsFault := by
  rw [NetworkRecord.network] at h
  cases haddress : r.address? with
  | none =>
    rw [haddress] at h
    cases h
    trivial
  | some a =>
    rw [haddress] at h
    cases hmake : Network.make a r.length with
    | ok n =>
      simp only [hmake] at h
      exact absurd h.symm error_ne_ok
    | error cause =>
      simp only [hmake] at h
      cases h
      trivial

theorem Wire.SocketField.isFault_of_endpoint? {f : SocketField} {offset : Nat} {e : Wire.Error}
    (h : f.endpoint? offset = .error e) : e.IsFault := by
  rw [SocketField.endpoint?] at h
  split at h
  · exact absurd h.symm error_ne_ok
  · split at h
    · exact absurd h.symm error_ne_ok
    · exact absurd h.symm error_ne_ok
    · cases h
      trivial

theorem Profile.isFault_of_ofRecord {r : PeerRecord} {offset : Nat} {networks : List Network}
    {e : Wire.Error} (h : Profile.ofRecord offset r networks = .error e) : e.IsFault := by
  rw [Profile.ofRecord, endpointOf] at h
  cases hflag : r.flags.contains PeerFlags.endpoint with
  | false =>
    rw [hflag] at h
    exact absurd h.symm error_ne_ok
  | true =>
    rw [hflag] at h
    cases hendpoint : r.endpoint.endpoint? offset with
    | ok endpoint =>
      rw [if_pos rfl, hendpoint] at h
      exact absurd h.symm error_ne_ok
    | error cause =>
      rw [if_pos rfl, hendpoint] at h
      cases h
      exact SocketField.isFault_of_endpoint? hendpoint

theorem Network.settled_readRun (more : Bytes) (count : Nat) (c : Cursor) (read : List Network) :
    Settled id (Network.readRun count c read) (Network.readRun count (c.extend more) read) := by
  induction count generalizing c read with
  | zero => exact .value read.reverse
  | succ count ih =>
    refine (c.settled_network more).bind fun r hr => ?_
    refine (Settled.same fun e => NetworkRecord.isFault_of_network).bind fun n _ => ?_
    have hplace := Cursor.advance_extend more (Cursor.le_length_of_network hr)
    show Settled id _ (Network.readRun count ((c.extend more).advance 24) (n :: read))
    rw [hplace]
    exact ih _ _

/-! ## Peers -/

namespace Wire.PeerEntry

/-- The visited peer with more bytes at the end of the buffer. -/
def extend (more : Bytes) (e : PeerEntry) : PeerEntry := ⟨e.place.extend more, e.record⟩

variable (more : Bytes) (e : PeerEntry)

theorem place_extend : (e.extend more).place = e.place.extend more := rfl

theorem record_extend : (e.extend more).record = e.record := rfl

theorem offset_extend : (e.extend more).offset = e.offset := rfl

end Wire.PeerEntry

theorem Wire.Cursor.settled_entry (more : Bytes) (c : Cursor) :
    Settled (fun v => (v.1.extend more, v.2.extend more)) c.entry (c.extend more).entry := by
  refine (c.settled_peer more).bind fun r hr => ?_
  refine (c.settled_skipPeer more r (Cursor.le_length_of_peer hr)).bind fun next _ => ?_
  exact .value _

namespace Peer

theorem settled_ofEntry (more : Bytes) {e : PeerEntry} (h : 136 ≤ e.place.rest.length) :
    Settled id (ofEntry e) (ofEntry (e.extend more)) := by
  have hplace : (e.place.extend more).advance PeerRecord.size =
      (e.place.advance PeerRecord.size).extend more := Cursor.advance_extend more h
  rw [ofEntry_eq, ofEntry_eq, PeerEntry.place_extend, PeerEntry.record_extend,
    PeerEntry.offset_extend, hplace]
  by_cases hkey : e.record.flags.contains PeerFlags.publicKey = false
  · have hfault : (Wire.Error.missingPublicKey e.offset).IsFault := trivial
    rw [if_pos hkey, if_pos hkey]
    exact .fault hfault
  · rw [if_neg hkey, if_neg hkey]
    by_cases hremoval : e.record.flags.contains PeerFlags.removal = true
    · have hfault : (Wire.Error.contradictoryFlags e.offset e.record.flags.bits).IsFault := trivial
      rw [if_pos hremoval, if_pos hremoval]
      refine .same fun error herror => ?_
      split at herror
      · cases herror
        exact hfault
      · exact absurd herror.symm error_ne_ok
    · rw [if_neg hremoval, if_neg hremoval]
      refine (Network.settled_readRun more _ _ _).bind fun networks _ => ?_
      exact (Settled.same fun e => Profile.isFault_of_ofRecord).bind fun profile _ => .value _

theorem settled_readRun (more : Bytes) (count : Nat) (c : Cursor) (read : List Peer) :
    Settled id (readRun count c read) (readRun count (c.extend more) read) := by
  induction count generalizing c read with
  | zero => exact .value read.reverse
  | succ count ih =>
    refine (c.settled_entry more).bind fun v hv => ?_
    have hlength : 136 ≤ v.1.place.rest.length := by
      obtain ⟨r, hr, hv⟩ := bind_eq_ok_iff.mp hv
      obtain ⟨next, -, hv⟩ := bind_eq_ok_iff.mp hv
      cases hv
      exact Cursor.le_length_of_peer hr
    refine (settled_ofEntry more hlength).bind fun p _ => ?_
    exact ih _ _

end Peer

/-! ## Whole buffers -/

theorem Wire.Cursor.settled_peers (more : Bytes) (c : Cursor) :
    Settled (fun w => ⟨w.place.extend more, w.remaining, w.failed⟩) c.peers
      (c.extend more).peers := by
  refine (c.settled_interface more).bind fun r hr => ?_
  have hlength : 80 ≤ c.rest.length := by
    obtain ⟨b, hb, -⟩ := map_eq_ok_iff.mp hr
    exact Cursor.le_length_of_block hb
  have hplace : (c.extend more).firstPeer = c.firstPeer.extend more :=
    Cursor.advance_extend more hlength
  show Settled _ (if c.firstPeer.holds (r.peerCount.toNat * 136) then _ else _)
    (if (c.extend more).firstPeer.holds (r.peerCount.toNat * 136) then _ else _)
  rw [hplace]
  by_cases hholds : c.firstPeer.holds (r.peerCount.toNat * 136) = true
  · have hmore : (c.firstPeer.extend more).holds (r.peerCount.toNat * 136) = true := by
      rw [Cursor.holds_iff, Cursor.extend, List.length_append]
      exact Nat.le_add_right_of_le (Cursor.holds_iff.mp hholds)
    rw [if_pos hholds, if_pos hmore]
    exact .value _
  · have hshort : (Wire.Error.inconsistentCount .peer 0 r.peerCount.toNat
        c.firstPeer.rest.length).IsShort := trivial
    rw [if_neg hholds]
    exact .short hshort _

namespace Configuration

theorem settled_decode (buffer more : Bytes) :
    Settled id (decode buffer) (decode (buffer ++ more)) := by
  refine ((Cursor.start buffer).settled_interface more).bind fun r _ => ?_
  refine ((Cursor.start buffer).settled_peers more).bind fun walk _ => ?_
  exact (Peer.settled_readRun more _ _ _).bind fun peers _ => .value _

end Configuration

/-! ## What a walk visits and where it ends -/

namespace PeerBlocks

/-- The visits to a row of peers that starts at `offset` and has the bytes `rest` behind it. -/
def entries (rest : Bytes) : (offset : Nat) → List PeerBlocks → List PeerEntry
  | _, [] => []
  | offset, p :: ps =>
    ⟨⟨offset, p.bytes ++ (ps.flatMap bytes ++ rest)⟩, PeerRecord.ofBlock p.record⟩ ::
      entries rest (offset + p.size) ps

theorem length_entries (rest : Bytes) (ps : List PeerBlocks) (offset : Nat) :
    (entries rest offset ps).length = ps.length := by
  induction ps generalizing offset with
  | nil => rfl
  | cons p ps ih => rw [entries, List.length_cons, ih, List.length_cons]

/-- The visit to a peer of a row starts behind the peers before it. -/
theorem getElem?_entries (rest : Bytes) (ps : List PeerBlocks) (offset k : Nat) :
    (entries rest offset ps)[k]? = ps[k]?.map fun p =>
      ⟨⟨offset + ((ps.take k).flatMap bytes).length,
        p.bytes ++ ((ps.drop (k + 1)).flatMap bytes ++ rest)⟩,
        PeerRecord.ofBlock p.record⟩ := by
  induction ps generalizing offset k with
  | nil => rfl
  | cons p ps ih =>
    cases k with
    | zero => rfl
    | succ k =>
      rw [entries, List.getElem?_cons_succ, ih, List.getElem?_cons_succ,
        List.take_succ_cons, List.flatMap_cons, List.length_append, p.length_bytes,
        List.drop_succ_cons, Nat.add_assoc]

/-- The walk over peers that are there visits each and ends behind the last of them. -/
theorem yields_peers {ps : List PeerBlocks} (hcounted : ∀ p ∈ ps, p.Counted) (offset : Nat)
    (rest : Bytes) :
    Yields PeerWalk.next ⟨⟨offset, ps.flatMap bytes ++ rest⟩, ps.length, false⟩
      ((entries rest offset ps).map .ok)
      ⟨⟨offset + (ps.flatMap bytes).length, rest⟩, 0, false⟩ := by
  induction ps generalizing offset with
  | nil => exact .done rfl
  | cons p ps ih =>
    obtain ⟨hp, hps⟩ := List.forall_mem_cons.mp hcounted
    have hentry := entry_append hp offset (ps.flatMap bytes ++ rest)
    have hnext : (⟨⟨offset, (p :: ps).flatMap bytes ++ rest⟩, (p :: ps).length, false⟩ :
        PeerWalk).next = some (.ok ⟨⟨offset, p.bytes ++ (ps.flatMap bytes ++ rest)⟩,
          PeerRecord.ofBlock p.record⟩,
          ⟨⟨offset + p.size, ps.flatMap bytes ++ rest⟩, ps.length, false⟩) := by
      rw [PeerWalk.next, if_neg (by simp), List.flatMap_cons, List.append_assoc, hentry]
      rfl
    have hend : offset + ((p :: ps).flatMap bytes).length =
        offset + p.size + (ps.flatMap bytes).length := by
      rw [List.flatMap_cons, List.length_append, p.length_bytes, Nat.add_assoc]
    rw [hend]
    exact .more hnext (ih hps _)

end PeerBlocks

namespace Layout

/-- The records of a buffer, without what follows them. -/
def records (l : Layout) : Bytes := l.interface.toList ++ l.peers.flatMap PeerBlocks.bytes

theorem bytes_eq_records_append (l : Layout) : l.bytes = l.records ++ l.rest := rfl

/-- The walk over the peers that are there ends behind the last record. -/
theorem position_run {l : Layout} (h : l.Counted) {walk : PeerWalk}
    (hwalk : (Cursor.start l.bytes).peers = .ok walk) :
    walk.run.2.position = l.records.length := by
  rw [peers_start h] at hwalk
  cases hwalk
  rw [PeerWalk.run_eq (PeerBlocks.yields_peers h.networks 80 l.rest), PeerWalk.position, records,
    List.length_append, l.interface.length_toList]

/-- Other bytes behind the records make no difference. -/
theorem decode_records_append {l : Layout} (h : l.Counted) {c : Configuration}
    (hc : Configuration.decode l.bytes = .ok c) (rest : Bytes) :
    Configuration.decode (l.records ++ rest) = .ok c :=
  (decode_bytes_eq_ok_iff (l := { l with rest := rest }) ⟨h.peers, h.networks⟩ c).mpr
    ((decode_bytes_eq_ok_iff h c).mp hc)

/-- A part of a buffer that has all the records that it announces has all records of the buffer. -/
theorem length_records_le {l part : Layout} (h : l.Counted) (hpart : part.Counted) {more : Bytes}
    (hbytes : part.bytes ++ more = l.bytes) : l.records.length ≤ part.bytes.length := by
  have hlonger : bytes { part with rest := part.rest ++ more } = l.bytes := by
    rw [← hbytes, bytes_eq_records_append part, List.append_assoc]
    rfl
  have hcounted : Counted { part with rest := part.rest ++ more } := ⟨hpart.peers, hpart.networks⟩
  have hsame : { part with rest := part.rest ++ more } = l := by
    rw [← cut_bytes hcounted, hlonger, cut_bytes h]
  rw [← hsame, bytes_eq_records_append part, List.length_append]
  exact Nat.le_add_right _ _

end Layout

/-! ## Parts of an accepted buffer -/

namespace Configuration

/-- **Decoding is settled by a part of the buffer.** Either a buffer ends too early, or it decodes
in the same way with any bytes after it: to the same configuration, or with the same fault. If it is
accepted, then so is every part of it that goes at least as far as the walk over its peers, with the
same configuration, and every shorter part ends too early. -/
theorem decode_append (buffer more : Bytes) :
    ((∃ e, decode buffer = .error e ∧ e.IsShort) ∨
      decode (buffer ++ more) = decode buffer ∧ ∀ e, decode buffer = .error e → e.IsFault) ∧
    ∀ c, decode buffer = .ok c → ∃ walk, (Cursor.start buffer).peers = .ok walk ∧
      ∀ part, part <+: buffer →
        (walk.run.2.position ≤ part.length → decode part = .ok c) ∧
        (part.length < walk.run.2.position → ∃ e, decode part = .error e ∧ e.IsShort) := by
  refine ⟨(settled_decode buffer more).short_or_eq, ?_⟩
  intro c hc
  obtain ⟨l, hcounted, rfl⟩ := Layout.exists_layout hc
  have hend := Layout.position_run hcounted (Layout.peers_start hcounted)
  refine ⟨_, Layout.peers_start hcounted, ?_⟩
  intro part hpart
  rw [hend]
  constructor
  · intro hle
    have hrecords : l.records <+: l.bytes := ⟨l.rest, rfl⟩
    obtain ⟨rest, rfl⟩ := List.prefix_of_prefix_length_le hrecords hpart hle
    exact Layout.decode_records_append hcounted hc rest
  · intro hlt
    obtain ⟨tail, htail⟩ := hpart
    rcases (settled_decode part tail).short_or_eq with hshort | ⟨hsame, -⟩
    · exact hshort
    -- If the part were accepted, it would have all the records of the buffer.
    · rw [htail, hc] at hsame
      obtain ⟨cut, hcut, rfl⟩ := Layout.exists_layout hsame.symm
      exact absurd (Layout.length_records_le hcounted hcut htail) (Nat.not_le_of_lt hlt)

theorem decode_append_untidy :
    decode untidy = .ok tidy ∧
      decode (untidy.take (untidy.length - 2)) = .ok tidy ∧
      ∃ e, decode (untidy.take (untidy.length - 4)) = .error e ∧ e.IsShort := by
  have h : decode untidy = .ok tidy := by decide +kernel
  have hbytes : (Layout.cut untidy).bytes = untidy := by decide +kernel
  have hcounted : (Layout.cut untidy).Counted := by
    refine ⟨by decide +kernel, ?_⟩
    show ∀ p ∈ (Layout.cut untidy).peers, p.networks.length = p.record.little 128 4
    decide +kernel
  obtain ⟨walk, hwalk, hparts⟩ := (decode_append untidy []).2 tidy h
  have hend : walk.run.2.position = untidy.length - 3 := by
    rw [← hbytes] at hwalk
    rw [Layout.position_run hcounted hwalk]
    decide +kernel
  have hlonger : walk.run.2.position ≤ (untidy.take (untidy.length - 2)).length := by
    rw [hend]
    decide +kernel
  have hshorter : (untidy.take (untidy.length - 4)).length < walk.run.2.position := by
    rw [hend]
    decide +kernel
  exact ⟨h, (hparts _ (List.take_prefix _ _)).1 hlonger,
    (hparts _ (List.take_prefix _ _)).2 hshorter⟩

end Configuration

end TunnelConfig
