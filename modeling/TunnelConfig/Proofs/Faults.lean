import TunnelConfig.Proofs.Visits

/-!
# What an error says of the buffer

**Theorem (`tellsTruth_of_decode`).** An error of decoding tells the truth about the buffer. The
record that it names is one that the walk looks for, or a network of a visited peer, the numbers and
flags in it are those that stand in the buffer, and they are wrong in the way that the error says.

`TellsTruth` says for each kind of error what there is in the buffer. A reader that `FailsAs` some
kind of error passes this on to whatever calls it (`FailsAs.bind`). So each kind of error is looked
at where it arises, with the offset at which the reader then is: `failsAs_network` and
`failsAs_endpoint?` for what has no meaning, `failsAs_ofEntry` for the flags of a peer, and
`failsAs_readRun` for the row of peers, by induction on how many are still announced.
-/

namespace TunnelConfig

open Wire

/-! ## Errors that are true of a buffer -/

/-- Bit `k` of the flags of a peer record at `offset`. -/
def Bytes.flagAt (buffer : Bytes) (offset k : Nat) : Bool := (buffer.numberAt offset 4).testBit k

/-- A network record of a visited peer starts at `offset`. -/
def NetworkAt (buffer : Bytes) (offset : Nat) : Prop :=
  ∃ p ∈ visited buffer, buffer.peerEnd p ≤ buffer.length ∧
    ∃ k < buffer.networkCountAt p, offset = p + 136 + 24 * k

/-- What an error says is so. Only errors that reading can end with are true of a buffer. -/
def Wire.Error.TellsTruth (buffer : Bytes) : Error → Prop
  -- The interface record or the record of a peer does not fit.
  | truncated offset needed available =>
    offset ≤ buffer.length ∧ available = buffer.length - offset ∧ available < needed ∧
      (offset = 0 ∧ needed = 80 ∨ offset ∈ visited buffer ∧ needed = 136)
  | inconsistentCount .peer offset count remaining =>
    offset = 0 ∧ 80 ≤ buffer.length ∧ count = buffer.numberAt 72 4 ∧
      remaining = buffer.length - 80 ∧ remaining < 136 * count
  | inconsistentCount .network offset count remaining =>
    offset ∈ visited buffer ∧ offset + 136 ≤ buffer.length ∧
      count = buffer.numberAt (offset + 128) 4 ∧
      remaining = buffer.length - (offset + 136) ∧ remaining < 24 * count
  -- A peer that is no removal gives an endpoint, or one of its networks is in question.
  | unknownFamily offset family =>
    (∃ p ∈ visited buffer, p + 136 ≤ buffer.length ∧ offset = p + 76 ∧
      buffer.flagAt p 3 = true ∧ buffer.flagAt p 6 = false ∧
      family.toNat = buffer.numberAt offset 2 ∧ family.toNat ∉ [0, 2, 23]) ∨
    NetworkAt buffer offset ∧ family.toNat = buffer.numberAt (offset + 16) 2 ∧
      family.toNat ∉ [2, 23]
  | overlongPrefix cause =>
    ∃ offset, NetworkAt buffer offset ∧
      cause.family.code.toNat = buffer.numberAt (offset + 16) 2 ∧
      cause.length.toNat = buffer.numberAt (offset + 18) 1 ∧ cause.family.bits < cause.length
  -- A removal that is an update, replaces networks, gives a field or has networks.
  | contradictoryFlags offset flags =>
    offset ∈ visited buffer ∧ offset + 136 ≤ buffer.length ∧
      flags.toNat = buffer.numberAt offset 4 ∧ buffer.flagAt offset 6 = true ∧
      (buffer.flagAt offset 7 = true ∨ buffer.flagAt offset 5 = true ∨
        buffer.flagAt offset 1 = true ∨ buffer.flagAt offset 2 = true ∨
        buffer.flagAt offset 3 = true ∨ buffer.numberAt (offset + 128) 4 ≠ 0)
  | missingPublicKey offset =>
    offset ∈ visited buffer ∧ offset + 136 ≤ buffer.length ∧ buffer.flagAt offset 0 = false
  | countOverflow .. => False
  | bufferTooLarge _ => False

/-- If a reading ends with an error, the error is of some kind. -/
def FailsAs {α : Type} (kind : Wire.Error → Prop) (x : Except Wire.Error α) : Prop :=
  ∀ e, x = .error e → kind e

namespace FailsAs

variable {α β : Type} {kind : Wire.Error → Prop}

theorem ok (a : α) : FailsAs kind (.ok a) := fun _ h => absurd h.symm error_ne_ok

theorem error {e : Wire.Error} (h : kind e) : FailsAs kind (.error e : Except Wire.Error α) := by
  rintro _ ⟨⟩
  exact h

theorem bind {x : Except Wire.Error α} {f : α → Except Wire.Error β} (hx : FailsAs kind x)
    (hf : ∀ a, x = .ok a → FailsAs kind (f a)) : FailsAs kind (x >>= f) := by
  cases x with
  | error e => exact .error (hx e rfl)
  | ok a => exact hf a rfl

end FailsAs

variable {buffer : Bytes}

/-! ## Networks -/

theorem NetworkAt.le_length {offset : Nat} (h : NetworkAt buffer offset) :
    offset + 24 ≤ buffer.length := by
  obtain ⟨p, -, hend, k, hk, rfl⟩ := h
  rw [Bytes.peerEnd] at hend
  omega

/-- A network that cannot be read has an unknown family or too long a prefix. -/
theorem Wire.NetworkRecord.failsAs_network {offset : Nat} (h : NetworkAt buffer offset) :
    FailsAs (Error.TellsTruth buffer) ((ofBlock (buffer.blockAt 24 offset)).network offset) := by
  have hfamily : (buffer.blockAt 24 offset).little 16 2 = buffer.numberAt (offset + 16) 2 :=
    Bytes.little_blockAt h.le_length (by decide)
  have hlength : (buffer.blockAt 24 offset).little 18 1 = buffer.numberAt (offset + 18) 1 :=
    Bytes.little_blockAt h.le_length (by decide)
  rw [network, Layout.address?_ofBlock]
  by_cases hknown : (buffer.blockAt 24 offset).little 16 2 = 2 ∨
      (buffer.blockAt 24 offset).little 16 2 = 23
  · rw [if_pos hknown]
    show FailsAs _ ((Network.make (Layout.readAddress (buffer.blockAt 24 offset))
      (UInt8.ofNat ((buffer.blockAt 24 offset).little 18 1))).mapError _)
    rw [Network.make]
    split
    · exact .ok _
    · next hlong =>
      have hcode := Layout.code_readAddress hknown
      have hbits := (buffer.blockAt 24 offset).toNat_little_one 18
      exact .error ⟨offset, h, hcode.trans hfamily, hbits.trans hlength, UInt8.not_le.mp hlong⟩
  · rw [if_neg hknown]
    have hcode := (buffer.blockAt 24 offset).toNat_little_two 16
    refine .error (.inr ⟨h, hcode.trans hfamily, ?_⟩)
    rw [show (ofBlock (buffer.blockAt 24 offset)).family.toNat = _ from hcode]
    simpa using hknown

/-- The networks of a visited peer, from one of them to the last. -/
theorem Network.failsAs_readRun {p : Nat} (hp : p ∈ visited buffer)
    (hend : buffer.peerEnd p ≤ buffer.length) {before count : Nat}
    (hcount : before + count = buffer.networkCountAt p) (read : List Network) :
    FailsAs (Error.TellsTruth buffer)
      (readRun count (.ofOffset buffer (p + 136 + 24 * before)) read) := by
  induction count generalizing before read with
  | zero => exact .ok _
  | succ count ih =>
    have hplace : NetworkAt buffer (p + 136 + 24 * before) := ⟨p, hp, hend, before, by omega, rfl⟩
    have hnext : p + 136 + 24 * before + 24 = p + 136 + 24 * (before + 1) := by omega
    rw [readRun, Cursor.network_ofOffset, if_pos hplace.le_length]
    refine (FailsAs.ok _).bind fun r hr => ?_
    cases hr
    refine (NetworkRecord.failsAs_network hplace).bind fun n _ => ?_
    rw [show NetworkRecord.size = 24 from rfl, Cursor.advance_ofOffset, hnext]
    exact ih (by omega) _

/-! ## Peers -/

theorem Family.toNat_not_mem_of_ofCode? {code : UInt16} (h : ofCode? code = none) :
    code.toNat ∉ [2, 23] := by
  intro hmem
  have hcode : code = 2 ∨ code = 23 := by
    rw [← UInt16.toNat_inj, ← UInt16.toNat_inj]
    simpa using hmem
  rcases hcode with rfl | rfl <;> cases h

theorem Wire.SocketField.failsAs_endpoint? {kind : Wire.Error → Prop} (p : Nat) {f : SocketField}
    (h : f.family.toNat ∉ [0, 2, 23] → kind (.unknownFamily (p + 76) f.family)) :
    FailsAs kind (f.endpoint? p) := by
  rw [endpoint?]
  split
  · exact .ok _
  · next hzero =>
    split
    · exact .ok _
    · exact .ok _
    · next hcode =>
      have hne : f.family.toNat ≠ 0 := fun h => hzero (UInt16.toNat_inj.mp h)
      have hother := Family.toNat_not_mem_of_ofCode? hcode
      exact .error (h (List.not_mem_cons_of_ne_of_not_mem hne hother))

section Peers

variable {p : Nat} (hp : p ∈ visited buffer) (hlength : p + 136 ≤ buffer.length)

include hlength

theorem Bytes.flag_blockAt (k : Nat) : (buffer.blockAt 136 p).flag k = buffer.flagAt p k := by
  rw [Block.flag, Bytes.little_blockAt hlength (by decide)]
  rfl

theorem Bytes.contains_flagAt {k : Nat} (hk : k < 32) :
    (PeerRecord.ofBlock (buffer.blockAt 136 p)).flags.contains (Flags.single k) =
      buffer.flagAt p k := by
  rw [Layout.contains_peerFlags _ hk, Bytes.flag_blockAt hlength]

theorem Bytes.toNat_flagsAt :
    (PeerRecord.ofBlock (buffer.blockAt 136 p)).flags.bits.toNat = buffer.numberAt p 4 :=
  ((buffer.blockAt 136 p).toNat_little_four 0).trans (Bytes.little_blockAt hlength (by decide))

theorem Bytes.toNat_endpointFamily :
    (PeerRecord.ofBlock (buffer.blockAt 136 p)).endpoint.family.toNat =
      buffer.numberAt (p + 76) 2 := by
  show (UInt16.ofNat (((buffer.blockAt 136 p).slice 76 28 (by decide)).little 0 2)).toNat = _
  rw [Block.toNat_little_two, Block.little, Block.toList_slice, List.drop_take, List.drop_drop,
    List.take_take]
  exact Bytes.little_blockAt hlength (by decide)

/-- What a removal is refused for. -/
theorem PeerBlocks.of_intersects_notOnRemoval
    (h : ((PeerRecord.ofBlock (buffer.blockAt 136 p)).flags.intersects PeerFlags.notOnRemoval ||
      (PeerRecord.ofBlock (buffer.blockAt 136 p)).networkCount != 0) = true) :
    buffer.flagAt p 7 = true ∨ buffer.flagAt p 5 = true ∨ buffer.flagAt p 1 = true ∨
      buffer.flagAt p 2 = true ∨ buffer.flagAt p 3 = true ∨
      buffer.numberAt (p + 128) 4 ≠ 0 := by
  by_contra hnone
  simp only [not_or, Bool.not_eq_true, not_not, ← Bytes.flag_blockAt hlength] at hnone
  rw [← Bytes.little_blockAt hlength (by decide)] at hnone
  rw [(PeerBlocks.intersects_notOnRemoval_iff _).mpr hnone] at h
  cases h

include hp

theorem Profile.failsAs_ofRecord (hremoval : buffer.flagAt p 6 = false) (networks : List Network) :
    FailsAs (Error.TellsTruth buffer)
      (ofRecord p (.ofBlock (buffer.blockAt 136 p)) networks) := by
  have hflag := Bytes.contains_flagAt hlength (k := 3) (by decide)
  refine FailsAs.bind ?_ fun _ _ => .ok _
  rw [endpointOf]
  split
  · next hgiven =>
    have hfamily := Bytes.toNat_endpointFamily hlength
    refine SocketField.failsAs_endpoint? p fun hunknown => ?_
    exact .inl ⟨p, hp, hlength, rfl, hflag.symm.trans hgiven, hremoval, hfamily, hunknown⟩
  · exact .ok _

theorem Peer.failsAs_ofEntry (hend : buffer.peerEnd p ≤ buffer.length) :
    FailsAs (Error.TellsTruth buffer)
      (ofEntry ⟨.ofOffset buffer p, .ofBlock (buffer.blockAt 136 p)⟩) := by
  have hkey := Bytes.contains_flagAt hlength (k := 0) (by decide)
  have hremoval := Bytes.contains_flagAt hlength (k := 6) (by decide)
  rw [ofEntry_eq]
  split
  · next hmissing => exact .error ⟨hp, hlength, hkey.symm.trans hmissing⟩
  · split
    · next hremove =>
      split
      · next hmore =>
        exact .error ⟨hp, hlength, Bytes.toNat_flagsAt hlength, hremoval.symm.trans hremove,
          PeerBlocks.of_intersects_notOnRemoval hlength hmore⟩
      · exact .ok _
    · next hstays =>
      have hplace : (Cursor.ofOffset buffer p).advance PeerRecord.size =
          .ofOffset buffer (p + 136 + 24 * 0) := Cursor.advance_ofOffset buffer p 136
      have hstays' : buffer.flagAt p 6 = false :=
        hremoval.symm.trans (Bool.eq_false_iff.mpr hstays)
      dsimp only
      rw [Cursor.networkCount_ofBlock hlength, hplace]
      refine (Network.failsAs_readRun hp hend (Nat.zero_add _) _).bind fun networks _ => ?_
      exact (Profile.failsAs_ofRecord hp hlength hstays' networks).bind fun _ _ => .ok _

end Peers

/-- The peers of a walk, from one of them to the last. -/
theorem Peer.failsAs_readRun {count offset : Nat} (hoffset : offset ≤ buffer.length)
    (hvisited : (⟨.ofOffset buffer offset, count, false⟩ : PeerWalk).offsets ⊆ visited buffer)
    (read : List Peer) :
    FailsAs (Error.TellsTruth buffer) (readRun count (.ofOffset buffer offset) read) := by
  induction count generalizing offset read with
  | zero => exact .ok _
  | succ count ih =>
    rw [PeerWalk.offsets_succ] at hvisited
    have hp : offset ∈ visited buffer := hvisited List.mem_cons_self
    rw [readRun, Cursor.entry_ofOffset]
    by_cases hlength : offset + 136 ≤ buffer.length
    · rw [if_pos hlength]
      by_cases hend : buffer.peerEnd offset ≤ buffer.length
      · rw [if_pos hend] at hvisited ⊢
        refine (FailsAs.ok _).bind fun v hv => ?_
        cases hv
        refine (Peer.failsAs_ofEntry hp hlength hend).bind fun q _ => ?_
        exact ih hend (fun _ h => hvisited (List.mem_cons_of_mem _ h)) _
      · rw [if_neg hend]
        refine FailsAs.bind (.error ⟨hp, hlength, rfl, rfl, ?_⟩) fun _ h => absurd h error_ne_ok
        rw [Bytes.peerEnd] at hend
        omega
    · rw [if_neg hlength]
      refine FailsAs.bind (.error ⟨hoffset, rfl, ?_, .inr ⟨hp, rfl⟩⟩) fun _ h =>
        absurd h error_ne_ok
      omega

/-! ## Whole buffers -/

namespace Configuration

/-- **Every error tells the truth.** If a buffer does not decode, then what the error says of the
buffer is so. -/
theorem tellsTruth_of_decode {buffer : Bytes} {e : Wire.Error} (h : decode buffer = .error e) :
    e.TellsTruth buffer := by
  suffices FailsAs (Error.TellsTruth buffer) (decode buffer) from this e h
  refine FailsAs.bind ?_ fun r _ => FailsAs.bind ?_ fun walk hwalk => ?_
  · rw [Cursor.interface_start]
    split
    · exact .ok _
    · next hshort => exact .error ⟨Nat.zero_le _, rfl, Nat.lt_of_not_le hshort, .inl ⟨rfl, rfl⟩⟩
  · rw [Cursor.peers_start]
    split
    · next hlength =>
      split
      · exact .ok _
      · exact .error ⟨rfl, hlength, rfl, rfl, by omega⟩
    · next hshort => exact .error ⟨Nat.zero_le _, rfl, Nat.lt_of_not_le hshort, .inl ⟨rfl, rfl⟩⟩
  · have hvisited := visited_of_peers hwalk
    obtain ⟨hlength, rfl⟩ := Cursor.of_peers_start hwalk
    refine FailsAs.bind ?_ fun peers _ => .ok _
    exact Peer.failsAs_readRun hlength (fun _ h => hvisited ▸ h) _

/-- A removal, and a peer with a network that is all right and another whose prefix is too long. -/
def overlong : Bytes :=
  InterfaceRecord.bytes { InterfaceRecord.blank with peerCount := 2 } ++
    PeerRecord.bytes { PeerRecord.blank with flags := ⟨0x41⟩ } ++
    PeerRecord.bytes { PeerRecord.blank with flags := ⟨1⟩, networkCount := 2 } ++
    NetworkRecord.bytes ⟨.zero, 23, 64⟩ ++ NetworkRecord.bytes ⟨.zero, 2, 33⟩

theorem tellsTruth_of_decode_overlong :
    decode overlong = .error (.overlongPrefix ⟨.ipv4, 33⟩) ∧
      (Wire.Error.overlongPrefix ⟨.ipv4, 33⟩).TellsTruth overlong := by
  have h : decode overlong = .error (.overlongPrefix ⟨.ipv4, 33⟩) := by decide +kernel
  exact ⟨h, tellsTruth_of_decode h⟩

end Configuration

end TunnelConfig
