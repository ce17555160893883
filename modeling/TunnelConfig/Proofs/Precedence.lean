import TunnelConfig.Proofs.Faults

/-!
# The first fault decides

**Theorem (`decode_announcing`).** Announce ever more peers in a buffer that can hold them. Up to
some number the buffer decodes, to ever more peers behind the same interface, and from there on it
does not, always with the same error: the first fault of the first peer that has one.

`peerFaults` is all that is wrong with a peer, in the order in which it is looked for, whether or
not the reading gets there. A reading that `FailsFirst` among faults yields a value if there are
none, and ends with the first of them otherwise; readings one after another have the faults of the
one and then those of the other (`FailsFirst.bind`). So each reader is held against its own faults,
and a peer against all of them (`Peer.failsFirst_readAt`).

How many peers are announced is seen nowhere but in the number of steps, so all these readings are
the same row of steps, cut off sooner or later (`Configuration.decode_announcing_eq`), and are
compared by induction on its length (`Peer.readRun_first`).
-/

namespace TunnelConfig

open Wire

/-! ## Faults of a peer -/

namespace Bytes

/-- The buffer with another number of announced peers. -/
def announcing (buffer : Bytes) (count : Nat) : Bytes :=
  buffer.take 72 ++ (littleEndian 4 count ++ buffer.drop 76)

/-- The offset of the peer `i` peers after the one at `offset`, if each is where the walk looks for
it. -/
def peerOffset (buffer : Bytes) : (i offset : Nat) → Nat
  | 0, offset => offset
  | i + 1, offset => peerOffset buffer i (buffer.peerEnd offset)

/-- What is wrong with the network record at `offset`. -/
def networkFaults (buffer : Bytes) (offset : Nat) : List Wire.Error :=
  let family := buffer.numberAt (offset + 16) 2
  let length := buffer.numberAt (offset + 18) 1
  if family = 2 then
    if 32 < length then [.overlongPrefix ⟨.ipv4, UInt8.ofNat length⟩] else []
  else if family = 23 then
    if 128 < length then [.overlongPrefix ⟨.ipv6, UInt8.ofNat length⟩] else []
  else [.unknownFamily offset (UInt16.ofNat family)]

/-- What is wrong with `count` network records from `offset` on. -/
def networksFaults (buffer : Bytes) (offset count : Nat) : List Wire.Error :=
  (List.range count).flatMap fun i => buffer.networkFaults (offset + 24 * i)

/-- What is wrong with the endpoint of the peer record at `offset`. -/
def endpointFaults (buffer : Bytes) (offset : Nat) : List Wire.Error :=
  let family := buffer.numberAt (offset + 76) 2
  if buffer.flagAt offset 3 ∧ family ∉ [0, 2, 23] then
    [.unknownFamily (offset + 76) (UInt16.ofNat family)]
  else []

/-- All that is wrong with the peer at `offset`, in the order in which it is looked for. -/
def peerFaults (buffer : Bytes) (offset : Nat) : List Wire.Error :=
  List.flatten
    [if buffer.length < offset + 136 then
        [.truncated offset 136 (buffer.length - offset)]
      else [],
      if buffer.length < buffer.peerEnd offset then
        [.inconsistentCount .network offset (buffer.networkCountAt offset)
          (buffer.length - (offset + 136))]
      else [],
      if buffer.flagAt offset 0 = false then [.missingPublicKey offset] else [],
      -- A removal may not be an update, replace networks, give a field or have networks.
      if buffer.flagAt offset 6 ∧ (buffer.flagAt offset 7 ∨ buffer.flagAt offset 5 ∨
          buffer.flagAt offset 1 ∨ buffer.flagAt offset 2 ∨ buffer.flagAt offset 3 ∨
          buffer.networkCountAt offset ≠ 0) then
        [.contradictoryFlags offset (UInt32.ofNat (buffer.numberAt offset 4))]
      else [],
      buffer.networksFaults (offset + 136) (buffer.networkCountAt offset),
      buffer.endpointFaults offset]

end Bytes

/-! ## Readings that fail with their first fault -/

/-- The reading ends with an error if there is a fault, and then with the first. -/
def FailsFirst {α : Type} (faults : List Wire.Error) (x : Except Wire.Error α) : Prop :=
  ∀ e, x = .error e ↔ faults.head? = some e

namespace FailsFirst

variable {α β : Type} {faults more : List Wire.Error} {x : Except Wire.Error α}

theorem ok (a : α) : FailsFirst [] (.ok a) := by
  intro e
  exact iff_of_false (fun h => error_ne_ok h.symm) (Option.some_ne_none e).symm

theorem error (e : Wire.Error) (more : List Wire.Error) :
    FailsFirst (e :: more) (.error e : Except Wire.Error α) := by
  intro e'
  rw [Except.error.injEq, List.head?_cons, Option.some.injEq]

theorem eq_nil_of_ok {a : α} (h : FailsFirst faults (.ok a)) : faults = [] := by
  cases faults with
  | nil => rfl
  | cons e more => exact absurd ((h e).mpr rfl).symm error_ne_ok

/-- Readings one after another have their faults one after another. -/
theorem bind {f : α → Except Wire.Error β} (hx : FailsFirst faults x)
    (hf : ∀ a, x = .ok a → FailsFirst more (f a)) : FailsFirst (faults ++ more) (x >>= f) := by
  cases x with
  | error e =>
    obtain ⟨rest, rfl⟩ := List.head?_eq_some_iff.mp ((hx e).mp rfl)
    exact .error e _
  | ok a =>
    rw [hx.eq_nil_of_ok]
    exact hf a rfl

/-- What is made of a reading has no faults of its own. -/
theorem bind_ok {f : α → β} (hx : FailsFirst faults x) :
    FailsFirst faults (x >>= fun a => .ok (f a)) := by
  have h := hx.bind (f := fun a => .ok (f a)) fun a _ => .ok (f a)
  rwa [List.append_nil] at h

/-- A check before a reading. -/
theorem check {fails : Prop} [Decidable fails] {e : Wire.Error}
    (h : ¬fails → FailsFirst more x) :
    FailsFirst ((if fails then [e] else []) ++ more) (if fails then .error e else x) := by
  by_cases hfails : fails
  · rw [if_pos hfails, if_pos hfails]
    exact .error e _
  · rw [if_neg hfails, if_neg hfails]
    exact h hfails

end FailsFirst

variable {buffer : Bytes}

/-! ### Networks -/

theorem Network.failsFirst_make (a : Address) (length : UInt8) :
    FailsFirst (if a.family.bits < length then [.overlongPrefix ⟨a.family, length⟩] else [])
      ((make a length).mapError .overlongPrefix) := by
  rw [make]
  by_cases h : length ≤ a.family.bits
  · rw [dif_pos h, if_neg (UInt8.not_lt.mpr h)]
    exact .ok _
  · rw [dif_neg h, if_pos (UInt8.not_le.mp h)]
    exact .error _ _

theorem Wire.NetworkRecord.failsFirst_network {offset : Nat} (h : offset + 24 ≤ buffer.length) :
    FailsFirst (buffer.networkFaults offset)
      ((ofBlock (buffer.blockAt 24 offset)).network offset) := by
  have hcode : (buffer.blockAt 24 offset).little 16 2 = buffer.numberAt (offset + 16) 2 :=
    Bytes.little_blockAt h (by decide)
  have hfamily : (ofBlock (buffer.blockAt 24 offset)).family =
      UInt16.ofNat (buffer.numberAt (offset + 16) 2) := congrArg UInt16.ofNat hcode
  have hlength : (ofBlock (buffer.blockAt 24 offset)).length =
      UInt8.ofNat (buffer.numberAt (offset + 18) 1) :=
    congrArg UInt8.ofNat (Bytes.little_blockAt h (by decide))
  have haddress : (Layout.readAddress (buffer.blockAt 24 offset)).family =
      if buffer.numberAt (offset + 16) 2 = 2 then .ipv4 else .ipv6 := by
    rw [Layout.readAddress, hcode]
    split <;> rfl
  have hlong := (Layout.length_le_bits_iff (buffer.blockAt 24 offset)).not
  rw [UInt8.not_le, Nat.not_le, hcode, Bytes.little_blockAt h (by decide)] at hlong
  have hmake := Network.failsFirst_make (Layout.readAddress (buffer.blockAt 24 offset))
    (UInt8.ofNat (buffer.numberAt (offset + 18) 1))
  simp only [hlong] at hmake
  rw [haddress] at hmake
  rw [network, Layout.address?_ofBlock, hcode, hfamily, hlength, Bytes.networkFaults]
  by_cases hv4 : buffer.numberAt (offset + 16) 2 = 2
  · simp only [if_pos hv4] at hmake
    rw [if_pos (Or.inl hv4), if_pos hv4]
    exact hmake
  · by_cases hv6 : buffer.numberAt (offset + 16) 2 = 23
    · simp only [if_neg hv4] at hmake
      rw [if_pos (Or.inr hv6), if_neg hv4, if_pos hv6]
      exact hmake
    · rw [if_neg (not_or.mpr ⟨hv4, hv6⟩), if_neg hv4, if_neg hv6]
      exact .error _ _

/-- Networks one after another. -/
theorem Network.failsFirst_readRun {offset count : Nat}
    (h : offset + 24 * count ≤ buffer.length) (read : List Network) :
    FailsFirst (buffer.networksFaults offset count)
      (readRun count (.ofOffset buffer offset) read) := by
  induction count generalizing offset read with
  | zero => exact .ok _
  | succ count ih =>
    have hoffset : ∀ i, offset + 24 * (i + 1) = offset + 24 + 24 * i := by
      intro i
      omega
    have hfaults : buffer.networksFaults offset (count + 1) =
        buffer.networkFaults offset ++ buffer.networksFaults (offset + 24) count := by
      rw [Bytes.networksFaults, List.range_succ_eq_map, List.flatMap_cons, List.flatMap_map]
      simp only [Nat.succ_eq_add_one, hoffset]
      rfl
    rw [hfaults, readRun, Cursor.network_ofOffset, if_pos (by omega)]
    refine (NetworkRecord.failsFirst_network (by omega)).bind fun n _ => ?_
    rw [show NetworkRecord.size = 24 from rfl, Cursor.advance_ofOffset]
    exact ih (by omega) _

/-! ### Peers -/

theorem Wire.SocketField.failsFirst_endpoint? (p : Nat) (f : SocketField) :
    FailsFirst (if f.family.toNat ∉ [0, 2, 23] then [.unknownFamily (p + 76) f.family] else [])
      (f.endpoint? p) := by
  have hcode : f.family.toNat = f.block.little 0 2 := f.block.toNat_little_two 0
  have hknown : f.family.toNat ∈ [0, 2, 23] ↔
      f.block.little 0 2 = 0 ∨ f.block.little 0 2 = 2 ∨ f.block.little 0 2 = 23 := by
    simp [hcode]
  have hok := Layout.endpoint?_eq_ok_iff p f.block
  cases hread : f.endpoint? p with
  | ok endpoint =>
    have hfamily := hknown.mpr ((hok endpoint).mp hread).1
    rw [if_neg (not_not.mpr hfamily)]
    exact .ok endpoint
  | error e =>
    have hunknown : f.family.toNat ∉ [0, 2, 23] := by
      intro hfamily
      have hreadable := (hok _).mpr ⟨hknown.mp hfamily, rfl⟩
      exact error_ne_ok (hread.symm.trans hreadable)
    have hfails : FailsAs (· = .unknownFamily (p + 76) f.family) (f.endpoint? p) :=
      failsAs_endpoint? p fun _ => rfl
    have herror := hfails e hread
    rw [if_pos hunknown, herror]
    exact .error _ _

section Peers

variable {p : Nat} (hlength : p + 136 ≤ buffer.length)

include hlength

theorem Profile.failsFirst_ofRecord (networks : List Network) :
    FailsFirst (buffer.endpointFaults p)
      (ofRecord p (.ofBlock (buffer.blockAt 136 p)) networks) := by
  have hflag : (PeerRecord.ofBlock (buffer.blockAt 136 p)).flags.contains PeerFlags.endpoint =
      buffer.flagAt p 3 := Bytes.contains_flagAt hlength (k := 3) (by decide)
  have hfamily := Bytes.toNat_endpointFamily hlength
  have hread := SocketField.failsFirst_endpoint? p
    (PeerRecord.ofBlock (buffer.blockAt 136 p)).endpoint
  have hcode : (PeerRecord.ofBlock (buffer.blockAt 136 p)).endpoint.family =
      UInt16.ofNat (buffer.numberAt (p + 76) 2) := by
    rw [← hfamily, UInt16.ofNat_toNat]
  rw [hfamily, hcode] at hread
  refine FailsFirst.bind_ok ?_
  rw [endpointOf, hflag, Bytes.endpointFaults]
  cases buffer.flagAt p 3 with
  | false => exact .ok none
  | true => simpa using hread

theorem Peer.failsFirst_ofEntry (hend : buffer.peerEnd p ≤ buffer.length) :
    FailsFirst (buffer.peerFaults p)
      (ofEntry ⟨.ofOffset buffer p, .ofBlock (buffer.blockAt 136 p)⟩) := by
  have hkey : (PeerRecord.ofBlock (buffer.blockAt 136 p)).flags.contains PeerFlags.publicKey =
      buffer.flagAt p 0 := Bytes.contains_flagAt hlength (k := 0) (by decide)
  have hremoval : (PeerRecord.ofBlock (buffer.blockAt 136 p)).flags.contains PeerFlags.removal =
      buffer.flagAt p 6 := Bytes.contains_flagAt hlength (k := 6) (by decide)
  rw [ofEntry_eq, Bytes.peerFaults, if_neg (Nat.not_lt.mpr hlength), if_neg (Nat.not_lt.mpr hend)]
  simp only [List.flatten_cons, List.flatten_nil, List.nil_append, List.append_nil]
  rw [hkey, hremoval]
  refine FailsFirst.check fun _ => ?_
  cases hremove : buffer.flagAt p 6 with
  | true =>
    rw [if_pos rfl]
    cases hbad : (PeerRecord.ofBlock (buffer.blockAt 136 p)).flags.intersects
        PeerFlags.notOnRemoval ||
      (PeerRecord.ofBlock (buffer.blockAt 136 p)).networkCount != 0 with
    | true =>
      have hbits : (PeerRecord.ofBlock (buffer.blockAt 136 p)).flags.bits =
          UInt32.ofNat (buffer.numberAt p 4) := by
        rw [← Bytes.toNat_flagsAt hlength, UInt32.ofNat_toNat]
      rw [if_pos ⟨rfl, PeerBlocks.of_intersects_notOnRemoval hlength hbad⟩, if_pos rfl, hbits]
      exact .error _ _
    | false =>
      -- A removal that asks for nothing else has neither networks nor an endpoint.
      have hclean := (PeerBlocks.intersects_notOnRemoval_iff _).mp hbad
      have hcount : (buffer.blockAt 136 p).little 128 4 = buffer.networkCountAt p :=
        Bytes.little_blockAt hlength (by decide)
      simp only [Bytes.flag_blockAt hlength, hcount] at hclean
      obtain ⟨h7, h5, h1, h2, h3, hnone⟩ := hclean
      simp only [h7, h5, h1, h2, h3, hnone, Bytes.networksFaults, Bytes.endpointFaults]
      exact .ok _
  | false =>
    have hplace : (Cursor.ofOffset buffer p).advance PeerRecord.size =
        .ofOffset buffer (p + 136) := Cursor.advance_ofOffset buffer p 136
    rw [if_neg Bool.false_ne_true, if_neg (fun h => Bool.false_ne_true h.1), List.nil_append]
    refine FailsFirst.bind ?_ fun networks _ => ?_
    · rw [Cursor.networkCount_ofBlock hlength, hplace]
      exact Network.failsFirst_readRun hend _
    · exact FailsFirst.bind_ok (Profile.failsFirst_ofRecord hlength networks)

end Peers

namespace Peer

/-- Reads the peer at an offset with its networks. -/
def readAt (buffer : Bytes) (offset : Nat) : Except Wire.Error Peer :=
  (Cursor.ofOffset buffer offset).entry >>= fun visit => ofEntry visit.1

/-- A peer fails with the first of its faults. -/
theorem failsFirst_readAt (buffer : Bytes) (offset : Nat) :
    FailsFirst (buffer.peerFaults offset) (readAt buffer offset) := by
  rw [readAt, Cursor.entry_ofOffset]
  by_cases hlength : offset + 136 ≤ buffer.length
  · rw [if_pos hlength]
    by_cases hend : buffer.peerEnd offset ≤ buffer.length
    · rw [if_pos hend]
      exact failsFirst_ofEntry hlength hend
    · rw [if_neg hend, Bytes.peerFaults, if_neg (Nat.not_lt.mpr hlength),
        if_pos (Nat.lt_of_not_le hend)]
      exact .error _ _
  · rw [if_neg hlength, Bytes.peerFaults, if_pos (Nat.lt_of_not_le hlength)]
    exact .error _ _

/-- Peers are read one after another, each behind the networks of the one before. -/
theorem readRun_succ (buffer : Bytes) (count offset : Nat) (read : List Peer) :
    readRun (count + 1) (.ofOffset buffer offset) read =
      readAt buffer offset >>= fun p =>
        readRun count (.ofOffset buffer (buffer.peerEnd offset)) (p :: read) := by
  rw [readRun, readAt, Cursor.entry_ofOffset]
  by_cases hlength : offset + 136 ≤ buffer.length
  · rw [if_pos hlength]
    by_cases hend : buffer.peerEnd offset ≤ buffer.length
    · rw [if_pos hend]
      rfl
    · rw [if_neg hend]
      rfl
  · rw [if_neg hlength]
    rfl

/-- Peers are read up to the first that has a fault. -/
theorem readRun_first (buffer : Bytes) (count offset : Nat) :
    ∃ k ≤ count, ∃ peers : List Peer, peers.length = k ∧
      (∀ j ≤ k, ∀ read, readRun j (.ofOffset buffer offset) read =
        .ok (read.reverse ++ peers.take j)) ∧
      (∀ i < k, buffer.peerFaults (buffer.peerOffset i offset) = []) ∧
      (k < count → ∃ e, (buffer.peerFaults (buffer.peerOffset k offset)).head? = some e ∧
        ∀ j, k < j → ∀ read, readRun j (.ofOffset buffer offset) read = .error e) := by
  have hnothing : ∀ offset, ∀ j ≤ 0, ∀ read, readRun j (.ofOffset buffer offset) read =
      .ok (read.reverse ++ [].take j) := by
    intro offset j hj read
    rw [Nat.le_zero.mp hj, readRun, List.take_nil, List.append_nil]
  -- Runs of all lengths are compared at once: they share the first step, whatever their length.
  induction count generalizing offset with
  | zero =>
    exact ⟨0, Nat.le_refl 0, [], rfl, hnothing offset, fun i hi => absurd hi (Nat.not_lt_zero i),
      fun hlt => absurd hlt (Nat.lt_irrefl 0)⟩
  | succ count ih =>
    have hfaults := failsFirst_readAt buffer offset
    cases hread : readAt buffer offset with
    | error e =>
      refine ⟨0, Nat.zero_le _, [], rfl, hnothing offset, fun i hi => absurd hi (Nat.not_lt_zero i),
        fun _ => ⟨e, (hfaults e).mp hread, fun j hj read => ?_⟩⟩
      obtain ⟨j, rfl⟩ : ∃ i, j = i + 1 := ⟨j - 1, by omega⟩
      rw [readRun_succ, hread]
      rfl
    | ok p =>
      obtain ⟨k, hk, peers, hlength, hgood, hnone, hbad⟩ := ih (buffer.peerEnd offset)
      refine ⟨k + 1, Nat.succ_le_succ hk, p :: peers, congrArg (· + 1) hlength, ?_, ?_, ?_⟩
      · intro j hj read
        cases j with
        | zero => rw [readRun, List.take_zero, List.append_nil]
        | succ j =>
          rw [readRun_succ, hread]
          show readRun j _ (p :: read) = _
          rw [hgood j (Nat.le_of_succ_le_succ hj), List.reverse_cons, List.append_assoc]
          rfl
      · intro i hi
        cases i with
        | zero =>
          rw [hread] at hfaults
          exact hfaults.eq_nil_of_ok
        | succ i => exact hnone i (Nat.lt_of_succ_lt_succ hi)
      · intro hlt
        obtain ⟨e, he, herror⟩ := hbad (Nat.lt_of_succ_lt_succ hlt)
        refine ⟨e, he, fun j hj read => ?_⟩
        obtain ⟨j, rfl⟩ : ∃ i, j = i + 1 := ⟨j - 1, by omega⟩
        rw [readRun_succ, hread]
        exact herror j (Nat.lt_of_succ_lt_succ hj) _

end Peer

/-! ## Other numbers of peers -/

namespace Bytes

/-- The buffer as it is announces what it announces. -/
theorem announcing_self (hlength : 80 ≤ buffer.length) :
    buffer.announcing (buffer.numberAt 72 4) = buffer := by
  have hwidth : ((buffer.drop 72).take 4).length = 4 := by
    rw [List.length_take, List.length_drop]
    omega
  have hcount : littleEndian 4 (buffer.numberAt 72 4) = (buffer.drop 72).take 4 := by
    have h := littleEndian_littleValue ((buffer.drop 72).take 4)
    rwa [hwidth] at h
  have hrest : buffer.drop 76 = (buffer.drop 72).drop 4 := by rw [List.drop_drop]
  rw [announcing, hcount, hrest, List.take_append_drop, List.take_append_drop]

theorem length_announcing (hlength : 80 ≤ buffer.length) (count : Nat) :
    (buffer.announcing count).length = buffer.length := by
  rw [announcing, List.length_append, List.length_append, List.length_take, List.length_drop,
    length_littleEndian]
  omega

/-- Behind the announced number nothing changes. -/
theorem drop_announcing (hlength : 80 ≤ buffer.length) (count : Nat) {offset : Nat}
    (h : 76 ≤ offset) : (buffer.announcing count).drop offset = buffer.drop offset := by
  obtain ⟨more, rfl⟩ := Nat.exists_eq_add_of_le h
  have hfront : (buffer.take 72 ++ littleEndian 4 count).length = 76 := by
    rw [List.length_append, List.length_take, length_littleEndian]
    omega
  rw [announcing, ← List.append_assoc, ← List.drop_drop, List.drop_left' hfront, List.drop_drop]

/-- Before the announced number nothing changes. -/
theorem take_drop_announcing (hlength : 80 ≤ buffer.length) (count : Nat) {offset width : Nat}
    (h : offset + width ≤ 72) :
    ((buffer.announcing count).drop offset).take width = (buffer.drop offset).take width := by
  have hfront : (buffer.take 72).length = 72 := by
    rw [List.length_take]
    omega
  rw [announcing, List.drop_append_of_le_length (by omega),
    List.take_append_of_le_length (by rw [List.length_drop]; omega), List.drop_take, List.take_take,
    Nat.min_eq_left (by omega)]

theorem numberAt_announcing (hlength : 80 ≤ buffer.length) {count : Nat}
    (hcount : count < 4294967296) : (buffer.announcing count).numberAt 72 4 = count := by
  have hfront : (buffer.take 72).length = 72 := by
    rw [List.length_take]
    omega
  rw [numberAt, announcing, List.drop_left' hfront, List.take_left' (length_littleEndian 4 count),
    littleValue_littleEndian_of_lt hcount]

end Bytes

namespace Configuration

theorem ofRecord_announcing (hlength : 80 ≤ buffer.length) (count : Nat) :
    Interface.ofRecord (.ofBlock ((buffer.announcing count).blockAt 80 0)) =
      Interface.ofRecord (.ofBlock (buffer.blockAt 80 0)) := by
  have hlength' := Bytes.length_announcing hlength count
  have hfield : ∀ s w, s + w ≤ 72 →
      (((buffer.announcing count).blockAt 80 0).toList.drop s).take w =
        ((buffer.blockAt 80 0).toList.drop s).take w := by
    intro s w h
    rw [Bytes.take_drop_blockAt (by omega) (by omega), Bytes.take_drop_blockAt hlength (by omega),
      Bytes.take_drop_announcing hlength count (by omega)]
  simp only [Interface.ofRecord, InterfaceRecord.ofBlock, Block.little, Block.slice,
    hfield 0 4 (by decide), hfield 4 2 (by decide), hfield 6 32 (by decide),
    hfield 38 32 (by decide)]
  rfl

/-- Whatever number is announced, the same row of steps is taken, if the buffer can hold it. -/
theorem decode_announcing_eq (hlength : 80 ≤ buffer.length) {count : Nat}
    (hcount : count < 4294967296) (hfits : 80 + 136 * count ≤ buffer.length) :
    decode (buffer.announcing count) =
      (Peer.readRun count (.ofOffset buffer 80) []).map
        (Configuration.mk (Interface.ofRecord (.ofBlock (buffer.blockAt 80 0)))) := by
  have hlength' := Bytes.length_announcing hlength count
  have hplace : Cursor.ofOffset (buffer.announcing count) 80 = .ofOffset buffer 80 :=
    congrArg (Cursor.mk 80) (Bytes.drop_announcing hlength count (by decide))
  rw [decode, Cursor.interface_start, Cursor.peers_start, hlength', if_pos hlength, if_pos hlength,
    Bytes.numberAt_announcing hlength hcount, if_pos hfits, hplace]
  show (Peer.readRun count (.ofOffset buffer 80) [] >>= fun peers => _) = _
  rw [ofRecord_announcing hlength]
  cases Peer.readRun count (.ofOffset buffer 80) [] <;> rfl

/-- **The first bad peer decides.** Let a buffer have an interface record and room for the peers it
announces. There is a number of peers, at most the announced one, with the following property. If no
more peers are announced, the buffer decodes, always to the same interface, and to as many of the
same peers as are announced. If more are announced, but no more than there were, it does not decode,
always for the same reason: the first fault of the peer behind these peers, which themselves have
none. -/
theorem decode_announcing (hlength : 80 ≤ buffer.length)
    (hfits : 136 * buffer.numberAt 72 4 ≤ buffer.length - 80) :
    ∃ k ≤ buffer.numberAt 72 4, ∃ c : Configuration, c.peers.length = k ∧
      (∀ j ≤ k, decode (buffer.announcing j) = .ok { c with peers := c.peers.take j }) ∧
      (∀ i < k, buffer.peerFaults (buffer.peerOffset i 80) = []) ∧
      (k < buffer.numberAt 72 4 →
        ∃ e, (buffer.peerFaults (buffer.peerOffset k 80)).head? = some e ∧
          ∀ j, k < j → j ≤ buffer.numberAt 72 4 → decode (buffer.announcing j) = .error e) := by
  obtain ⟨k, hk, peers, hpeers, hgood, hnone, hbad⟩ :=
    Peer.readRun_first buffer (buffer.numberAt 72 4) 80
  have hcount : buffer.numberAt 72 4 < 4294967296 := by
    rw [← Cursor.peerCount_ofBlock hlength]
    exact UInt32.toNat_lt _
  have hdecode : ∀ j ≤ buffer.numberAt 72 4, decode (buffer.announcing j) =
      (Peer.readRun j (.ofOffset buffer 80) []).map
        (Configuration.mk (Interface.ofRecord (.ofBlock (buffer.blockAt 80 0)))) :=
    fun j hj => decode_announcing_eq hlength (by omega) (by omega)
  refine ⟨k, hk, ⟨Interface.ofRecord (.ofBlock (buffer.blockAt 80 0)), peers⟩, hpeers, ?_, hnone,
    fun hlt => ?_⟩
  · intro j hj
    rw [hdecode j (Nat.le_trans hj hk), hgood j hj]
    rfl
  · obtain ⟨e, he, herror⟩ := hbad hlt
    refine ⟨e, he, fun j hlt hj => ?_⟩
    rw [hdecode j hj, herror j hlt]
    rfl

/-- A peer with a network, a peer with neither a key nor a family for its network, and a removal
that is an update. -/
def troubled : Bytes :=
  InterfaceRecord.bytes { InterfaceRecord.blank with peerCount := 3 } ++
    PeerRecord.bytes { PeerRecord.blank with flags := ⟨1⟩, networkCount := 1 } ++
    NetworkRecord.bytes ⟨.zero, 2, 32⟩ ++
    PeerRecord.bytes { PeerRecord.blank with networkCount := 1 } ++
    NetworkRecord.bytes ⟨.zero, 99, 0⟩ ++
    PeerRecord.bytes { PeerRecord.blank with flags := ⟨0xC1⟩ }

theorem decode_announcing_troubled :
    80 ≤ troubled.length ∧ 136 * troubled.numberAt 72 4 ≤ troubled.length - 80 ∧
      troubled.peerFaults 240 = [.missingPublicKey 240, .unknownFamily 376 99] ∧
      decode troubled = .error (.missingPublicKey 240) ∧
      ∃ c : Configuration, c.peers.length = 1 ∧ decode (troubled.announcing 1) = .ok c ∧
        decode (troubled.announcing 0) = .ok { c with peers := [] } := by
  have hlength : 80 ≤ troubled.length := by decide +kernel
  have hcount : troubled.numberAt 72 4 = 3 := by decide +kernel
  have hfits : 136 * troubled.numberAt 72 4 ≤ troubled.length - 80 := by decide +kernel
  have hfirst : troubled.peerFaults 80 = [] := by decide +kernel
  have hplace : troubled.peerOffset 1 80 = 240 := by decide +kernel
  have hfaults : troubled.peerFaults 240 = [.missingPublicKey 240, .unknownFamily 376 99] := by
    decide +kernel
  obtain ⟨k, hk, c, hpeers, hgood, hnone, hbad⟩ := decode_announcing hlength hfits
  rw [hcount] at hk hbad
  have hself := Bytes.announcing_self hlength
  rw [hcount] at hself
  have hle : k ≤ 1 := by
    refine Nat.le_of_not_lt fun hlt => ?_
    have h := hnone 1 hlt
    rw [hplace, hfaults] at h
    cases h
  obtain ⟨e, he, herror⟩ := hbad (by omega)
  obtain rfl | rfl : k = 0 ∨ k = 1 := by omega
  · rw [show troubled.peerOffset 0 80 = 80 from rfl, hfirst] at he
    cases he
  · rw [hplace, hfaults] at he
    cases he
    refine ⟨hlength, hfits, hfaults, ?_, c, hpeers, ?_, hgood 0 (by decide)⟩
    · rw [← hself]
      exact herror 3 (by decide) (by decide)
    · have hone := hgood 1 (Nat.le_refl 1)
      rwa [List.take_of_length_le (by rw [hpeers])] at hone

end Configuration

end TunnelConfig
