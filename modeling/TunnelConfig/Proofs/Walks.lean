import TunnelConfig.Proofs.Calls
import TunnelConfig.Proofs.Visits

/-!
# Walks, call by call

**Theorem (`peers_visits`).** Any walk over the peers of a buffer visits peers one behind another,
up to the announced number or the first that cannot be read, and then yields nothing any more. A
visited peer lies in the buffer with all its networks, and the walk over these visits each. What was
visited so far covers the buffer up to the position of the walk, each byte once.

**Visited peers.** A step of the walk over the peers is a step over a record and its networks
(`PeerWalk.next_ofOffset`), so the walk is described by induction on how many peers are still
announced (`PeerWalk.yields_ofOffset`), from any offset. A visited peer takes up what its record and
its networks take up (`PeerEntry.Within.offsets_spans`), which is just how far the position moves.
-/

namespace TunnelConfig.Wire

/-! ## Networks -/

namespace NetworkWalk

variable {buffer : Bytes} (hlimit : buffer.length < addressLimit)

include hlimit

theorem next_ofOffset {offset : Nat} (h : offset + 24 ≤ buffer.length) (count : Nat) :
    (⟨.ok (.ofOffset buffer offset), count + 1⟩ : NetworkWalk).next =
      some (.ok (offset, .ofBlock (buffer.blockAt 24 offset)),
        ⟨.ok (.ofOffset buffer (offset + 24)), count⟩) := by
  have hplace := Cursor.nextNetwork_ofOffset buffer offset
  rw [if_pos (by omega)] at hplace
  rw [next, if_neg (Nat.succ_ne_zero count)]
  simp only [Cursor.network_ofOffset, if_pos h, hplace]
  rfl

/-- A walk over networks that are there visits each, and knows how many are still to come. -/
theorem yields_ofOffset {count offset : Nat} (h : offset + 24 * count ≤ buffer.length) :
    ∃ v, Yields next ⟨.ok (.ofOffset buffer offset), count⟩
        ((List.range count).map fun i =>
          .ok (offset + 24 * i, .ofBlock (buffer.blockAt 24 (offset + 24 * i)))) v ∧
      ∀ i, (afterCalls next i ⟨.ok (.ofOffset buffer offset), count⟩).remaining = count - i := by
  induction count generalizing offset with
  | zero =>
    have hnext : (⟨.ok (.ofOffset buffer offset), 0⟩ : NetworkWalk).next = none := rfl
    refine ⟨_, .done hnext, fun i => ?_⟩
    rw [afterCalls_of_none hnext, Nat.zero_sub]
  | succ count ih =>
    have hfirst : offset + 24 ≤ buffer.length := by omega
    have hrest : offset + 24 + 24 * count ≤ buffer.length := by omega
    have hnext := next_ofOffset hlimit hfirst count
    obtain ⟨v, hyields, hremaining⟩ := ih hrest
    have hoffset : ∀ i, offset + 24 * (i + 1) = offset + 24 + 24 * i := by
      intro i
      omega
    refine ⟨v, ?_, fun i => ?_⟩
    · rw [List.range_succ_eq_map, List.map_cons, List.map_map]
      refine .more hnext ?_
      simpa only [Function.comp_def, Nat.succ_eq_add_one, hoffset] using hyields
    · cases i with
      | zero => rfl
      | succ i =>
        rw [afterCalls_succ_of_some hnext, hremaining]
        omega

end NetworkWalk

/-! ## Visited peers -/

/-- A piece of a buffer. -/
structure Span where
  offset : Nat
  size : Nat

/-- The offsets of the bytes in a piece. -/
def Span.offsets (s : Span) : List Nat := List.range' s.offset s.size

namespace PeerEntry

/-- The end of a visited peer and of its networks. -/
def stop (e : PeerEntry) : Nat := e.offset + 136 + 24 * e.record.networkCount.toNat

/-- The record of a visited peer and those of its networks that can be visited. -/
def spans (e : PeerEntry) : List Span :=
  ⟨e.offset, PeerRecord.size⟩ ::
    (e.networks.toList.filterMap Except.toOption).map fun visit => ⟨visit.1, NetworkRecord.size⟩

/-- A visited peer lies in the buffer, and the walk over its networks visits each. -/
structure Within (buffer : Bytes) (e : PeerEntry) : Prop where
  /-- What was visited is the record that stands there. -/
  record : (Cursor.ofOffset buffer e.offset).peer = .ok e.record
  fits : e.stop ≤ buffer.length
  /-- As many networks are visited as the record announces, one record behind another. -/
  length_networks : e.networks.toList.length = e.record.networkCount.toNat
  networks : ∀ i < e.record.networkCount.toNat, ∃ r,
    (Cursor.ofOffset buffer (e.offset + 136 + 24 * i)).network = .ok r ∧
      e.networks.toList[i]? = some (.ok (e.offset + 136 + 24 * i, r))
  /-- Each call yields the next of them, and then nothing any more. -/
  answers : ∀ i, answer NetworkWalk.next e.networks i = e.networks.toList[i]?
  /-- The walk knows how many are still to come. -/
  sizeHint : ∀ i, (afterCalls NetworkWalk.next i e.networks).sizeHint =
    (0, some (e.record.networkCount.toNat - i))

theorem stop_ofOffset {buffer : Bytes} {p : Nat} (hend : buffer.peerEnd p ≤ buffer.length) :
    stop ⟨.ofOffset buffer p, .ofBlock (buffer.blockAt 136 p)⟩ = buffer.peerEnd p := by
  rw [stop, Cursor.networkCount_ofBlock (Nat.le_trans (Nat.le_add_right _ _) hend)]
  rfl

theorem within_ofOffset {buffer : Bytes} (hlimit : buffer.length < addressLimit) {p : Nat}
    (hend : buffer.peerEnd p ≤ buffer.length) :
    Within buffer ⟨.ofOffset buffer p, .ofBlock (buffer.blockAt 136 p)⟩ := by
  have hrecord : p + 136 ≤ buffer.length := Nat.le_trans (Nat.le_add_right _ _) hend
  rw [Bytes.peerEnd] at hend
  have hcount := Cursor.networkCount_ofBlock hrecord
  have hplace := Cursor.firstNetwork_ofOffset buffer p
  rw [if_pos (by omega)] at hplace
  have hwalk : networks ⟨.ofOffset buffer p, .ofBlock (buffer.blockAt 136 p)⟩ =
      ⟨.ok (.ofOffset buffer (p + 136)), buffer.networkCountAt p⟩ := by
    rw [networks, hplace, hcount]
  obtain ⟨v, hyields, hremaining⟩ := NetworkWalk.yields_ofOffset hlimit hend
  have hlist := NetworkWalk.toList_eq hyields
  rw [← hwalk] at hyields hremaining hlist
  constructor
  · show (Cursor.ofOffset buffer p).peer = _
    rw [Cursor.peer_ofOffset, if_pos hrecord]
  · rwa [stop_ofOffset hend]
  · rw [hlist, List.length_map, List.length_range, hcount]
  · intro i hi
    rw [hcount] at hi
    refine ⟨.ofBlock (buffer.blockAt 24 (p + 136 + 24 * i)), ?_, ?_⟩
    · show (Cursor.ofOffset buffer (p + 136 + 24 * i)).network = _
      rw [Cursor.network_ofOffset, if_pos (by omega)]
    · rw [hlist, List.getElem?_map, List.getElem?_range hi]
      rfl
  · intro i
    rw [hyields.answer_eq, hlist]
  · intro i
    rw [NetworkWalk.sizeHint, hremaining, hcount]

/-- Records of equal size one behind another leave no gap. -/
theorem flatMap_offsets_range (start size count : Nat) :
    ((List.range count).map fun i => Span.mk (start + size * i) size).flatMap Span.offsets =
      List.range' start (size * count) := by
  induction count with
  | zero => rfl
  | succ count ih =>
    have hlast : Span.offsets ⟨start + size * count, size⟩ =
        List.range' (start + size * count) size := rfl
    rw [List.range_succ, List.map_append, List.flatMap_append, ih, List.map_singleton,
      List.flatMap_singleton, hlast, List.range'_append_1]
    rfl

/-- The offsets of the items, if all are there. -/
theorem map_fst_filterMap_toOption {ε α : Type} (items : List (Except ε (Nat × α)))
    (offset : Nat → Nat) (h : ∀ i < items.length, ∃ a, items[i]? = some (.ok (offset i, a))) :
    (items.filterMap Except.toOption).map Prod.fst = (List.range items.length).map offset := by
  induction items generalizing offset with
  | nil => rfl
  | cons item items ih =>
    obtain ⟨a, ha⟩ := h 0 (Nat.succ_pos _)
    rw [List.getElem?_cons_zero, Option.some.injEq] at ha
    have hrest := ih (fun i => offset (i + 1)) fun i hi => by
      simpa only [List.getElem?_cons_succ] using h (i + 1) (Nat.succ_lt_succ hi)
    have hfirst : (Except.ok (offset 0, a) : Except ε (Nat × α)).toOption = some (offset 0, a) :=
      rfl
    rw [ha, List.filterMap_cons_some hfirst, List.map_cons, hrest, List.length_cons,
      List.range_succ_eq_map, List.map_cons, List.map_map]
    rfl

/-- A visited peer takes up the bytes from its offset to the next peer, each once. -/
theorem Within.offsets_spans {buffer : Bytes} {e : PeerEntry} (h : e.Within buffer) :
    e.spans.flatMap Span.offsets =
      List.range' e.offset (136 + 24 * e.record.networkCount.toNat) := by
  have hoffsets := PeerEntry.map_fst_filterMap_toOption e.networks.toList
    (fun i => e.offset + 136 + 24 * i) fun i hi => by
      obtain ⟨r, -, hr⟩ := h.networks i (h.length_networks ▸ hi)
      exact ⟨r, hr⟩
  rw [h.length_networks] at hoffsets
  have hnetworks : (e.networks.toList.filterMap Except.toOption).map
      (fun visit => Span.mk visit.1 NetworkRecord.size) =
      (List.range e.record.networkCount.toNat).map
        fun i => Span.mk (e.offset + 136 + 24 * i) 24 := by
    have hspans := congrArg (List.map fun offset => Span.mk offset 24) hoffsets
    rwa [List.map_map, List.map_map] at hspans
  rw [spans, hnetworks, List.flatMap_cons, flatMap_offsets_range]
  exact List.range'_append_1

end PeerEntry

namespace PeerWalk

variable {buffer : Bytes}

/-- A walk visits as many peers as are still announced, or fails once. A visited peer is where the
walk is before the call, and the walk is at its end after it. -/
theorem yields_ofOffset (hlimit : buffer.length < addressLimit) (count p : Nat) :
    ∃ (entries : List PeerEntry) (failure : Option Error) (v : PeerWalk),
      Yields next ⟨.ofOffset buffer p, count, false⟩
        (entries.map .ok ++ failure.toList.map .error) v ∧
      entries.length ≤ count ∧ (failure = none ↔ entries.length = count) ∧
      (∀ i e, entries[i]? = some e →
        e.offset = (afterCalls next i ⟨.ofOffset buffer p, count, false⟩).position ∧
        (afterCalls next (i + 1) ⟨.ofOffset buffer p, count, false⟩).position = e.stop ∧
        e.Within buffer) ∧
      (afterCalls next entries.length ⟨.ofOffset buffer p, count, false⟩).position =
        v.position := by
  have hnobody : ∀ (i : Nat) (e : PeerEntry), ([] : List PeerEntry)[i]? ≠ some e := by simp
  induction count generalizing p with
  | zero =>
    have hnext : (⟨.ofOffset buffer p, 0, false⟩ : PeerWalk).next = none := rfl
    exact ⟨[], none, _, .done hnext, Nat.le_refl _, iff_of_true rfl rfl,
      fun i e he => absurd he (hnobody i e), rfl⟩
  | succ count ih =>
    by_cases hend : buffer.peerEnd p ≤ buffer.length
    -- After a visited peer the walk is one from its end, with one peer less to come.
    · have hnext := next_ofOffset hend count
      obtain ⟨entries, failure, v, hyields, hlength, hfailure, hentries, hposition⟩ :=
        ih (buffer.peerEnd p)
      refine ⟨⟨.ofOffset buffer p, .ofBlock (buffer.blockAt 136 p)⟩ :: entries, failure, v,
        .more hnext hyields, Nat.succ_le_succ hlength, ?_, ?_, ?_⟩
      · rw [hfailure, List.length_cons, Nat.succ_inj]
      · intro i e he
        rw [afterCalls_succ_of_some hnext]
        cases i with
        | zero =>
          rw [List.getElem?_cons_zero, Option.some.injEq] at he
          have hwithin := PeerEntry.within_ofOffset hlimit hend
          rw [he] at hwithin
          refine ⟨?_, ?_, hwithin⟩
          · rw [← he]
            rfl
          · rw [← he]
            exact (PeerEntry.stop_ofOffset hend).symm
        | succ i =>
          rw [afterCalls_succ_of_some hnext]
          exact hentries i e he
      · rw [List.length_cons, afterCalls_succ_of_some hnext]
        exact hposition
    · obtain ⟨e, hnext⟩ := next_ofOffset_of_lt (Nat.lt_of_not_le hend) count
      have hfailed : (⟨.ofOffset buffer p, count + 1, true⟩ : PeerWalk).next = none := by
        simp [next]
      exact ⟨[], some e, _, .more hnext (.done hfailed), Nat.zero_le _,
        iff_of_false (Option.some_ne_none e) (Nat.succ_ne_zero count).symm,
        fun i e he => absurd he (hnobody i e), rfl⟩

/-- As long as peers are visited, what was visited reaches up to the position of the walk. -/
theorem offsets_take {entries : List PeerEntry} {position : Nat → Nat}
    (hlength : 80 ≤ buffer.length) (hstart : position 0 = 80)
    (hentries : ∀ i e, entries[i]? = some e →
      e.offset = position i ∧ position (i + 1) = e.stop ∧ e.Within buffer)
    (hend : ∀ i, entries.length ≤ i → position (i + 1) = position i) (i : Nat) :
    position i ≤ buffer.length ∧
      (⟨0, InterfaceRecord.size⟩ :: (entries.take i).flatMap PeerEntry.spans).flatMap Span.offsets =
        List.range (position i) := by
  induction i with
  | zero =>
    rw [hstart]
    exact ⟨hlength, rfl⟩
  | succ i ih =>
    cases hentry : entries[i]? with
    | none =>
      have hlast := List.getElem?_eq_none_iff.mp hentry
      rw [List.take_of_length_le hlast] at ih
      rw [hend i hlast, List.take_of_length_le (Nat.le_succ_of_le hlast)]
      exact ih
    | some e =>
      obtain ⟨hoffset, hstop, hwithin⟩ := hentries i e hentry
      have hjoin : List.range e.offset ++ e.spans.flatMap Span.offsets = List.range e.stop := by
        rw [hwithin.offsets_spans, PeerEntry.stop, Nat.add_assoc, List.range_eq_range',
          List.range_eq_range', ← List.range'_append_1 (s := 0) (m := e.offset), Nat.zero_add]
      refine ⟨hstop ▸ hwithin.fits, ?_⟩
      rw [List.take_add_one, hentry, List.flatMap_append, ← List.cons_append, List.flatMap_append,
        ih.2, ← hoffset, Option.toList_some, List.flatMap_singleton, hjoin, hstop]

end PeerWalk

/-- **A walk visits what the buffer holds, record by record.** Let a walk over the peers of a buffer
start. It visits as many peers as the interface record announces, or fails once, at the first peer
that cannot be read; after that it yields nothing, however often it is called. Its position is the
offset of the next peer: it starts behind the interface record, moves over each visited peer and its
networks, and stays where it is on failure. A visited peer lies in the buffer with its networks, and
the walk over them visits as many as announced, all of them, and always knows how many are to come.
So after any number of calls the records visited so far cover the buffer up to the position, without
gap or overlap. Any buffer in memory is smaller than `addressLimit`, where offsets end. -/
theorem Cursor.peers_visits {buffer : Bytes} {w : PeerWalk} (hlimit : buffer.length < addressLimit)
    (h : (start buffer).peers = .ok w) :
    ∃ (r : InterfaceRecord) (entries : List PeerEntry) (failure : Option Error),
      (start buffer).interface = .ok r ∧
      entries.length ≤ r.peerCount.toNat ∧
      (failure = none ↔ entries.length = r.peerCount.toNat) ∧
      w.run.1 = entries.map .ok ++ failure.toList.map .error ∧
      (∀ i, answer PeerWalk.next w i = w.run.1[i]?) ∧
      w.position = 80 ∧
      (∀ i e, entries[i]? = some e →
        e.offset = (afterCalls PeerWalk.next i w).position ∧
        (afterCalls PeerWalk.next (i + 1) w).position = e.stop ∧ e.Within buffer) ∧
      (∀ i, entries.length ≤ i → (afterCalls PeerWalk.next i w).position = w.run.2.position) ∧
      ∀ i, (afterCalls PeerWalk.next i w).position ≤ buffer.length ∧
        (⟨0, InterfaceRecord.size⟩ :: (entries.take i).flatMap PeerEntry.spans).flatMap
          Span.offsets = List.range (afterCalls PeerWalk.next i w).position := by
  obtain ⟨hlength, rfl⟩ := of_peers_start h
  obtain ⟨entries, failure, v, hyields, hcount, hfailure, hentries, hposition⟩ :=
    PeerWalk.yields_ofOffset hlimit (buffer.numberAt 72 4) 80
  have hrun := PeerWalk.run_eq hyields
  have hinterface := interface_start buffer
  rw [if_pos hlength] at hinterface
  have hend : ∀ i, entries.length ≤ i →
      (afterCalls PeerWalk.next i ⟨ofOffset buffer 80, buffer.numberAt 72 4, false⟩).position =
        v.position := by
    intro i hi
    rcases Nat.eq_or_lt_of_le hi with rfl | hi
    · exact hposition
    · rw [hyields.afterCalls_eq]
      cases failure <;> simp <;> omega
  refine ⟨_, entries, failure, hinterface, ?_, ?_, ?_, ?_, rfl, hentries, ?_, fun i => ?_⟩
  · rwa [peerCount_ofBlock hlength]
  · rwa [peerCount_ofBlock hlength]
  · rw [hrun]
  · intro i
    rw [hrun]
    exact hyields.answer_eq i
  · rw [hrun]
    exact hend
  · refine PeerWalk.offsets_take hlength rfl hentries (fun i hi => ?_) i
    rw [hend i hi, hend (i + 1) (Nat.le_succ_of_le hi)]

/-- A peer with a network, and a peer that announces more networks than fit into any buffer. -/
def unpaid : Bytes :=
  InterfaceRecord.bytes { InterfaceRecord.blank with peerCount := 2 } ++
    PeerRecord.bytes { PeerRecord.blank with networkCount := 1 } ++
    NetworkRecord.bytes ⟨.zero, 2, 32⟩ ++
    PeerRecord.bytes { PeerRecord.blank with networkCount := 4294967295 }

theorem Cursor.peers_visits_unpaid :
    unpaid.length < addressLimit ∧ ∃ w, (start unpaid).peers = .ok w ∧
      w.run.1[1]? = some (.error (.inconsistentCount .network 240 4294967295 0)) ∧
      w.run.2.position = 240 ∧
      ∃ e, w.run.1[0]? = some (.ok e) ∧ e.offset = 80 ∧ e.Within unpaid ∧
        (⟨0, InterfaceRecord.size⟩ :: e.spans).flatMap Span.offsets = List.range 240 := by
  have hlength : unpaid.length < addressLimit := by decide +kernel
  have hstart : (start unpaid).peers = .ok ⟨ofOffset unpaid 80, 2, false⟩ := by decide +kernel
  have hfailure : answer PeerWalk.next ⟨ofOffset unpaid 80, 2, false⟩ 1 =
      some (.error (.inconsistentCount .network 240 4294967295 0)) := by decide +kernel
  have hposition : (afterCalls PeerWalk.next 1 ⟨ofOffset unpaid 80, 2, false⟩).position = 240 := by
    decide +kernel
  obtain ⟨r, entries, failure, -, -, -, hrun, hanswers, hfirst, hentries, hend, hspans⟩ :=
    peers_visits hlength hstart
  rw [hanswers, hrun] at hfailure
  obtain ⟨e, rfl⟩ : ∃ e, entries = [e] := by
    rcases entries with _ | ⟨e, _ | ⟨e', entries⟩⟩
    · cases failure <;> cases hfailure
    · exact ⟨e, rfl⟩
    · cases hfailure
  obtain ⟨hoffset, -, hwithin⟩ := hentries 0 e rfl
  have hcovered := (hspans 1).2
  have hall : [e].take 1 = [e] := rfl
  rw [hposition, hall, List.flatMap_singleton] at hcovered
  refine ⟨hlength, _, hstart, ?_, (hend 1 (Nat.le_refl 1)).symm.trans hposition, e, ?_,
    hoffset.trans hfirst, hwithin, hcovered⟩
  · rw [hrun]
    exact hfailure
  · rw [hrun]
    rfl

end TunnelConfig.Wire
