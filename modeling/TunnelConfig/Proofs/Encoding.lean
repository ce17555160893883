import TunnelConfig.Configuration.Encode
import TunnelConfig.Proofs.Decoding
import TunnelConfig.Proofs.Records

/-!
# Encoding and decoding again

**Theorem (`decode_encode`).** The request for a configuration decodes to that configuration, as
long as it is small enough for the driver.

The request is the layout of the configuration put together (`encode_eq`): the builder takes the
pieces one after another, and no count is too large in a request of that size. The layout is counted
and allowed, and it says what the configuration says, so by the grammar of buffers it decodes to the
configuration.

What a written record says is found from its flags. Bit by bit, a flag is set exactly if its field
is given (`has_flags`), so the fields that are not given are the ones that are not read.
-/

namespace TunnelConfig

open Wire

/-! ## Written records -/

namespace Wire

/-- The written record. Here and below the size is the numeral that it is in the grammar. -/
def InterfaceRecord.block (r : InterfaceRecord) : Block 80 := r.toBlock

def PeerRecord.block (r : PeerRecord) : Block 136 := r.toBlock

def NetworkRecord.block (r : NetworkRecord) : Block 24 := r.toBlock

end Wire

/-- The network record of a network. -/
def Network.block (n : Network) : Block 24 := (NetworkRecord.ofNetwork n).block

/-- The records of a peer. -/
def Peer.blocks (p : Peer) : PeerBlocks where
  record := (p.record (UInt32.ofNat p.networks.length)).block
  networks := p.networks.map Network.block

/-- The records of a configuration, with nothing after them. -/
def Configuration.layout (c : Configuration) : Layout where
  interface := (c.interface.record (UInt32.ofNat c.peers.length)).block
  peers := c.peers.map Peer.blocks
  rest := []

/-- The numbers of peers and networks fit into the fields for them. -/
structure Configuration.CountsFit (c : Configuration) : Prop where
  peers : c.peers.length < 4294967296
  networks : ∀ p ∈ c.peers, p.networks.length < 4294967296

/-! ## What the builder takes -/

namespace Configuration

theorem bytes_networks (ns : List Network) (b : Builder) :
    (ns.foldl (fun b n => b.network (.ofNetwork n)) b).bytes =
      b.bytes ++ (ns.map Network.block).flatMap Block.toList := by
  induction ns generalizing b with
  | nil => rw [List.map_nil, List.flatMap_nil, List.append_nil]; rfl
  | cons n ns ih =>
    rw [List.foldl_cons, ih, Builder.network, Builder.bytes_append, List.map_cons,
      List.flatMap_cons, List.append_assoc]
    rfl

theorem count32_eq (kind : Counted) {count : Nat} (h : count < 4294967296) :
    count32 kind count = .ok (UInt32.ofNat count) := by
  rw [count32, if_pos h]

theorem room_networks (ns : List Network) (b : Builder) :
    (ns.foldl (fun b n => b.network (.ofNetwork n)) b).room = b.room := by
  induction ns generalizing b with
  | nil => rfl
  | cons n ns ih => rw [List.foldl_cons, ih, Builder.network, Builder.room_append]

/-- A peer goes into the builder with its networks after it. -/
theorem buildPeer_eq_ok (b : Builder) {p : Peer} (h : p.networks.length < 4294967296) :
    ∃ next, buildPeer b p = .ok next ∧ next.bytes = b.bytes ++ p.blocks.bytes ∧
      next.room = b.room := by
  rw [buildPeer, count32_eq .network h]
  refine ⟨_, rfl, ?_, ?_⟩
  · rw [bytes_networks, Builder.peer, Builder.bytes_append, List.append_assoc]
    rfl
  · rw [room_networks, Builder.peer, Builder.room_append]

theorem buildPeers_eq_ok (ps : List Peer) (b : Builder)
    (h : ∀ p ∈ ps, p.networks.length < 4294967296) :
    ∃ next, ps.foldlM buildPeer b = .ok next ∧
      next.bytes = b.bytes ++ (ps.map Peer.blocks).flatMap PeerBlocks.bytes ∧
      next.room = b.room := by
  induction ps generalizing b with
  | nil => exact ⟨b, rfl, (List.append_nil b.bytes).symm, rfl⟩
  | cons p ps ih =>
    obtain ⟨hp, hps⟩ := List.forall_mem_cons.mp h
    obtain ⟨first, hfirst, hbytes, hroom⟩ := buildPeer_eq_ok b hp
    obtain ⟨next, hnext, hrest, hsame⟩ := ih first hps
    refine ⟨next, ?_, ?_, hsame.trans hroom⟩
    · rw [List.foldlM_cons, hfirst]
      exact hnext
    · rw [hrest, hbytes, List.map_cons, List.flatMap_cons, List.append_assoc]

/-! ## Sizes -/

theorem size_blocks (p : Peer) : p.blocks.size = p.size := by
  have hcount : p.blocks.networks.length = p.networks.length := List.length_map _
  rw [PeerBlocks.size, hcount]
  rfl

theorem length_layout (c : Configuration) : c.layout.bytes.length = c.requestSize := by
  have hpeers : ∀ ps : List Peer,
      80 + ((ps.map Peer.blocks).flatMap PeerBlocks.bytes).length =
        ps.foldr (fun p size => p.size + size) InterfaceRecord.size := by
    intro ps
    induction ps with
    | nil => rfl
    | cons p ps ih =>
      rw [List.map_cons, List.flatMap_cons, List.length_append, PeerBlocks.length_bytes,
        size_blocks, List.foldr_cons, ← ih, Nat.add_left_comm]
  rw [requestSize, ← hpeers, layout, Layout.bytes, List.append_nil, List.length_append]
  exact congrArg (· + _) (InterfaceRecord.length_bytes _)

theorem length_peers_lt (c : Configuration) : c.peers.length < c.requestSize := by
  have hpeers := Layout.length_peers_le (c.peers.map Peer.blocks)
  have hinterface := c.layout.interface.length_toList
  rw [List.length_map] at hpeers
  rw [← length_layout, Layout.bytes, List.length_append, List.length_append, hinterface]
  show c.peers.length < 80 + ((c.peers.map Peer.blocks).flatMap PeerBlocks.bytes).length + _
  omega

theorem length_networks_lt {c : Configuration} {p : Peer} (h : p ∈ c.peers) :
    p.networks.length < c.requestSize := by
  obtain ⟨interface, ps⟩ := c
  have hp : p.size ≤ ps.foldr (fun p size => p.size + size) InterfaceRecord.size := by
    replace h : p ∈ ps := h
    induction ps with
    | nil => cases h
    | cons q qs ih =>
      rw [List.foldr_cons]
      rcases List.mem_cons.mp h with rfl | hq
      · exact Nat.le_add_right _ _
      · exact Nat.le_trans (ih hq) (Nat.le_add_left _ _)
  refine Nat.lt_of_lt_of_le ?_ hp
  rw [Peer.size, PeerRecord.size, NetworkRecord.size]
  omega

/-! ## The request -/

theorem countsFit_of_lt {c : Configuration} (h : c.requestSize < 4294967296) : c.CountsFit where
  peers := Nat.lt_trans c.length_peers_lt h
  networks _ hp := Nat.lt_trans (length_networks_lt hp) h

/-- The builder takes the layout of a configuration piece by piece. -/
theorem build_eq_ok {c : Configuration} (h : c.requestSize < 4294967296) :
    ∃ b, c.build = .ok b ∧ b.finish? = some ⟨c.layout.bytes⟩ ∧ b.room = c.requestSize := by
  have hcounts := countsFit_of_lt h
  have hcount := count32_eq .peer hcounts.peers
  obtain ⟨b, hb, hbytes, hroom⟩ := buildPeers_eq_ok c.peers
    ((Builder.empty.reserve c.requestSize).interface
      (c.interface.record (UInt32.ofNat c.peers.length)))
    hcounts.networks
  have hlayout : b.bytes = c.layout.bytes := by
    rw [hbytes, Builder.interface, Builder.bytes_append, Builder.bytes_reserve,
      Builder.bytes_empty, List.nil_append, Layout.bytes, layout, List.append_nil]
    rfl
  refine ⟨b, ?_, ?_, hroom⟩
  · rw [build, hcount]
    show (if _ then _ else _) = _
    rw [if_pos h]
    exact hb
  · have hne : b.bytes ≠ [] := by
      have := c.length_peers_lt
      rw [hlayout, ← List.length_pos_iff, length_layout]
      omega
    rw [Builder.finish?_of_ne_nil hne, hlayout]

/-- The request for a configuration is its layout put together. -/
theorem encode_eq {c : Configuration} (h : c.requestSize < 4294967296) :
    c.encode = .ok ⟨c.layout.bytes⟩ := by
  obtain ⟨b, hb, hfinish, -⟩ := build_eq_ok h
  rw [encode, hb]
  simp only [bind, Except.bind, hfinish]
  rfl

end Configuration

/-! ## Fields that are given -/

/-- A key field, written or left zero, reads back as what was given. -/
theorem Key.ofField_isSome (k : Option Key) :
    Key.ofField k.isSome ((k.map Key.block).getD .zero) = k := by
  cases k <;> rfl

/-- A number field, written or left zero, reads back as what was given. -/
theorem ite_isSome_getD {α : Type} (x : Option α) (default : α) :
    (if x.isSome then some (x.getD default) else none) = x := by
  cases x <;> rfl

/-! ## Interfaces -/

theorem Wire.InterfaceRecord.peerCount_block (r : InterfaceRecord) :
    r.block.little 72 4 = r.peerCount.toNat := by
  rw [← r.block.toNat_little_four 72]
  exact congrArg (fun r => r.peerCount.toNat) r.ofBlock_toBlock

namespace Interface

/-- A flag of a written interface record is set exactly if its field is given. -/
theorem has_flags (i : Interface) (count : UInt32) (k : Nat) :
    (i.record count).flags.has k =
      if k = 3 then i.replacePeers
      else i.privateKey.isSome && k = 1 || i.publicKey.isSome && k = 0 ||
        i.listenPort.isSome && k = 2 := by
  show ((((Flags.when i.privateKey.isSome (Flags.single 1)).union
    (Flags.when i.publicKey.isSome (Flags.single 0))).union
    (Flags.when i.listenPort.isSome (Flags.single 2))).put
      (Flags.single 3) i.replacePeers : InterfaceFlags).has k = _
  simp [Flags.has_single, eq_comm (b := k)]

theorem ofRecord_record (i : Interface) (count : UInt32) :
    Interface.ofRecord (i.record count) = i := by
  have hcontains : ∀ k < 32, (i.record count).flags.contains (Flags.single k) = _ :=
    fun k hk => (Flags.contains_single _ hk).trans (i.has_flags count k)
  have hpublic : (i.record count).flags.contains InterfaceFlags.publicKey = i.publicKey.isSome :=
    (hcontains 0 (by decide)).trans (by simp)
  have hprivate :
      (i.record count).flags.contains InterfaceFlags.privateKey = i.privateKey.isSome :=
    (hcontains 1 (by decide)).trans (by simp)
  have hport : (i.record count).flags.contains InterfaceFlags.listenPort = i.listenPort.isSome :=
    (hcontains 2 (by decide)).trans (by simp)
  have hreplace : (i.record count).flags.contains InterfaceFlags.replacePeers = i.replacePeers :=
    (hcontains 3 (by decide)).trans (by simp)
  rw [ofRecord, hpublic, hprivate, hport, hreplace, record, Key.ofField_isSome,
    Key.ofField_isSome, ite_isSome_getD]

theorem readInterface_block (i : Interface) (count : UInt32) :
    Layout.readInterface (i.record count).block = i := by
  rw [← Layout.ofRecord_ofBlock]
  exact (congrArg Interface.ofRecord (InterfaceRecord.ofBlock_toBlock _)).trans
    (i.ofRecord_record count)

end Interface

/-! ## Networks -/

theorem Network.readNetwork_block (n : Network) :
    Layout.NetworkAllowed n.block ∧ Layout.readNetwork n.block = n := by
  rw [← Layout.network_eq_ok_iff 0]
  exact (congrArg (NetworkRecord.network 0) (NetworkRecord.ofBlock_toBlock _)).trans
    (NetworkRecord.network_ofNetwork 0 n)

theorem Network.map_readNetwork_block (ns : List Network) :
    (ns.map Network.block).map Layout.readNetwork = ns := by
  rw [List.map_map]
  exact List.map_id'' (fun n => n.readNetwork_block.2) ns

/-! ## Peers -/

namespace Wire.PeerRecord

theorem ofBlock_block (r : PeerRecord) : ofBlock r.block = r := r.ofBlock_toBlock

theorem flag_block (r : PeerRecord) (k : Nat) : r.block.flag k = r.flags.has k := by
  rw [← Layout.has_peerFlags, ofBlock_block]

theorem publicKey_block (r : PeerRecord) : r.block.piece 8 32 = r.publicKey := by
  have h := congrArg publicKey r.ofBlock_block
  rw [r.block.piece_eq_slice (by decide)]
  exact h

theorem networkCount_block (r : PeerRecord) : r.block.little 128 4 = r.networkCount.toNat := by
  rw [← r.block.toNat_little_four 128]
  exact congrArg (fun r => r.networkCount.toNat) r.ofBlock_block

end Wire.PeerRecord

namespace Profile

/-- A flag of a profile is set exactly if its field is given. -/
theorem has_flags (p : Profile) (k : Nat) :
    p.flags.has k =
      if k = 5 then p.replaceNetworks
      else p.presharedKey.isSome && k = 1 || p.keepalive.isSome && k = 2 ||
        p.endpoint.isSome && k = 3 := by
  show ((((Flags.when p.presharedKey.isSome (Flags.single 1)).union
    (Flags.when p.keepalive.isSome (Flags.single 2))).union
    (Flags.when p.endpoint.isSome (Flags.single 3))).put
      (Flags.single 5) p.replaceNetworks : PeerFlags).has k = _
  simp [Flags.has_single, eq_comm (b := k)]

/-- The records of a peer with the profile. -/
def blocks (p : Profile) (key : Key) (purpose : PeerFlags) (count : UInt32) : PeerBlocks where
  record := (p.record key purpose count).block
  networks := p.networks.map Network.block

variable (p : Profile) (key : Key) {purpose : PeerFlags} (count : UInt32)

theorem flag_blocks (k : Nat) :
    (p.blocks key purpose count).record.flag k = (purpose.has k || p.flags.has k) :=
  (PeerRecord.flag_block _ k).trans (Flags.has_union purpose p.flags k)

/-- The record of a profile gives the profile back. What the record is for is said by other bits
than those of the profile. -/
theorem ofRecord_record (offset : Nat) (h : ∀ k, purpose.has k = true → k = 0 ∨ k = 7) :
    Profile.ofRecord offset (p.record key purpose count) p.networks = .ok p := by
  have hflag : ∀ k < 32, k ≠ 0 → k ≠ 7 →
      (p.record key purpose count).flags.contains (Flags.single k) = p.flags.has k := by
    intro k hk h0 h7
    have hpurpose : purpose.has k = false := by
      rw [← Bool.not_eq_true]
      intro hk
      exact (h k hk).elim h0 h7
    rw [Flags.contains_single _ hk, record, Flags.has_union, hpurpose, Bool.false_or]
  have hpreshared : (p.record key purpose count).flags.contains PeerFlags.presharedKey =
      p.presharedKey.isSome :=
    (hflag 1 (by decide) (by decide) (by decide)).trans (by simp [has_flags])
  have hkeepalive : (p.record key purpose count).flags.contains PeerFlags.keepalive =
      p.keepalive.isSome :=
    (hflag 2 (by decide) (by decide) (by decide)).trans (by simp [has_flags])
  have hendpoint : (p.record key purpose count).flags.contains PeerFlags.endpoint =
      p.endpoint.isSome :=
    (hflag 3 (by decide) (by decide) (by decide)).trans (by simp [has_flags])
  have hreplace : (p.record key purpose count).flags.contains PeerFlags.replaceNetworks =
      p.replaceNetworks :=
    (hflag 5 (by decide) (by decide) (by decide)).trans (by simp [has_flags])
  have hfield : Profile.endpointOf offset (p.record key purpose count) = .ok p.endpoint := by
    rw [endpointOf, hendpoint, record]
    cases p.endpoint with
    | none => rfl
    | some e => exact SocketField.endpoint?_ofEndpoint offset e
  rw [Profile.ofRecord, hfield, hpreshared, hkeepalive, hreplace]
  show Except.ok { p with
    presharedKey := Key.ofField p.presharedKey.isSome ((p.presharedKey.map Key.block).getD .zero)
    keepalive := if p.keepalive.isSome then some (p.keepalive.getD 0) else none } = _
  rw [Key.ofField_isSome, ite_isSome_getD]

/-- Written records give the profile back, and its endpoint is allowed. -/
theorem profile_blocks (h : ∀ k, purpose.has k = true → k = 0 ∨ k = 7) :
    ((p.blocks key purpose count).record.flag 3 = true →
      (p.blocks key purpose count).endpoint.little 0 2 = 0 ∨
      (p.blocks key purpose count).endpoint.little 0 2 = 2 ∨
      (p.blocks key purpose count).endpoint.little 0 2 = 23) ∧
    (p.blocks key purpose count).profile = p := by
  have hread := p.ofRecord_record key count 0 h
  rw [← (p.record key purpose count).ofBlock_block] at hread
  have hallowed := (PeerBlocks.ofRecord_eq_ok_iff (p.blocks key purpose count) 0 _ _).mp hread
  have hnetworks : (p.blocks key purpose count).profile.networks = p.networks :=
    Network.map_readNetwork_block p.networks
  rw [← hnetworks] at hallowed
  exact hallowed

/-- The records of a profile are allowed and give back the peer that they are for. -/
theorem peer_blocks (hkey : purpose.has 0 = true)
    (h : ∀ k, purpose.has k = true → k = 0 ∨ k = 7) :
    (p.blocks key purpose count).Allowed ∧
      (p.blocks key purpose count).peer =
        ⟨key, if purpose.has 7 then .update p else .set p⟩ := by
  obtain ⟨hendpoint, hprofile⟩ := p.profile_blocks key count h
  have hremoval : (p.blocks key purpose count).record.flag 6 = false := by
    have hpurpose : purpose.has 6 = false := by
      rw [← Bool.not_eq_true]
      intro hk
      have := h 6 hk
      omega
    rw [flag_blocks, hpurpose, has_flags]
    simp
  have hupdate : (p.blocks key purpose count).record.flag 7 = purpose.has 7 := by
    rw [flag_blocks, has_flags]
    simp
  have hfield : (p.blocks key purpose count).record.piece 8 32 = key.block :=
    PeerRecord.publicKey_block (p.record key purpose count)
  constructor
  · refine ⟨?_, ?_, ?_, fun _ => hendpoint⟩
    · rw [flag_blocks, hkey, Bool.true_or]
    · intro hset
      exact absurd (hremoval.symm.trans hset) Bool.false_ne_true
    · intro _ b hb
      obtain ⟨n, -, rfl⟩ := List.mem_map.mp hb
      exact n.readNetwork_block.1
  · rw [PeerBlocks.peer, PeerBlocks.change, hremoval, hupdate, hprofile, hfield]
    rfl

end Profile

namespace Peer

theorem counted_blocks {p : Peer} (h : p.networks.length < 4294967296) : p.blocks.Counted := by
  have hlength : p.blocks.networks.length = p.networks.length := List.length_map _
  have hcount : (p.record (UInt32.ofNat p.networks.length)).networkCount =
      UInt32.ofNat p.networks.length := by
    obtain ⟨key, change⟩ := p
    cases change <;> rfl
  rw [PeerBlocks.Counted, hlength, blocks, PeerRecord.networkCount_block, hcount,
    UInt32.toNat_ofNat']
  exact (Nat.mod_eq_of_lt h).symm

/-- The records of a peer are allowed and give that peer back. -/
theorem peer_blocks (p : Peer) : p.blocks.Allowed ∧ p.blocks.peer = p := by
  obtain ⟨key, change⟩ := p
  cases change with
  | set profile =>
    have hbits : ∀ k, PeerFlags.publicKey.has k = true → k = 0 ∨ k = 7 := by
      intro k hk
      rw [PeerFlags.has_publicKey, decide_eq_true_eq] at hk
      exact Or.inl hk.symm
    exact profile.peer_blocks key _ rfl hbits
  | update profile =>
    have hbits : ∀ k, (PeerFlags.publicKey.union PeerFlags.update).has k = true →
        k = 0 ∨ k = 7 := by
      intro k hk
      rw [Flags.has_union, PeerFlags.has_publicKey, PeerFlags.has_update, Bool.or_eq_true,
        decide_eq_true_eq, decide_eq_true_eq] at hk
      exact hk.imp Eq.symm Eq.symm
    exact profile.peer_blocks key _ rfl hbits
  | remove =>
    have hbits : ∀ k, (PeerFlags.publicKey.union PeerFlags.removal).has k =
        (decide (0 = k) || decide (6 = k)) := by simp
    have hflag : ∀ k, (Peer.blocks ⟨key, .remove⟩).record.flag k =
        (decide (0 = k) || decide (6 = k)) :=
      fun k => (PeerRecord.flag_block _ k).trans (hbits k)
    have hcount : (Peer.blocks ⟨key, .remove⟩).record.little 128 4 = 0 :=
      PeerRecord.networkCount_block _
    have hfield : (Peer.blocks ⟨key, .remove⟩).record.piece 8 32 = key.block :=
      PeerRecord.publicKey_block (Peer.record ⟨key, .remove⟩ 0)
    constructor
    · exact ⟨hflag 0, fun _ => ⟨hflag 7, hflag 5, hflag 1, hflag 2, hflag 3, hcount⟩,
        fun h => absurd ((hflag 6).symm.trans h) (by decide),
        fun h => absurd ((hflag 6).symm.trans h) (by decide)⟩
    · rw [PeerBlocks.peer, PeerBlocks.change, hflag 6, hfield]
      rfl

end Peer

/-! ## Whole configurations -/

/-- The key that is one byte 32 times. -/
def Key.filled (b : UInt8) : Key := ⟨⟨List.replicate 32 b, List.length_replicate⟩⟩

/-- The key whose bytes count up from zero. -/
def Key.ascending : Key := ⟨⟨(List.range 32).map UInt8.ofNat, rfl⟩⟩

namespace Configuration

theorem counted_layout {c : Configuration} (h : c.CountsFit) : c.layout.Counted := by
  constructor
  · have hcount : c.layout.interface.little 72 4 = (UInt32.ofNat c.peers.length).toNat :=
      InterfaceRecord.peerCount_block (c.interface.record (UInt32.ofNat c.peers.length))
    have hlength : c.layout.peers.length = c.peers.length := List.length_map _
    rw [hcount, hlength, UInt32.toNat_ofNat']
    exact (Nat.mod_eq_of_lt h.peers).symm
  · intro p hp
    obtain ⟨q, hq, rfl⟩ := List.mem_map.mp hp
    exact Peer.counted_blocks (h.networks q hq)

theorem allowed_layout (c : Configuration) : c.layout.Allowed := by
  intro p hp
  obtain ⟨q, -, rfl⟩ := List.mem_map.mp hp
  exact q.peer_blocks.1

theorem configuration_layout (c : Configuration) : c.layout.configuration = c := by
  have hpeers : (c.peers.map Peer.blocks).map PeerBlocks.peer = c.peers := by
    rw [List.map_map]
    exact List.map_id'' (fun p => p.peer_blocks.2) c.peers
  rw [Layout.configuration, layout, Interface.readInterface_block, hpeers]

/-- The records of a configuration decode to it, however many bytes they are. -/
theorem decode_layout {c : Configuration} (h : c.CountsFit) : decode c.layout.bytes = .ok c :=
  (Layout.decode_bytes_eq_ok_iff (counted_layout h) c).mpr
    ⟨c.allowed_layout, c.configuration_layout⟩

/-- **Encoding and decoding again.** A configuration whose request is not too large for the driver
is encoded, as a buffer of the announced size, and that buffer decodes to the configuration. -/
theorem decode_encode (c : Configuration) (h : c.requestSize ≤ 4294967295) :
    ∃ buffer, c.encode = .ok buffer ∧ buffer.size = c.requestSize ∧
      Configuration.decode buffer.bytes = .ok c := by
  have hlt : c.requestSize < 4294967296 := Nat.lt_succ_of_le h
  exact ⟨⟨c.layout.bytes⟩, encode_eq hlt, c.length_layout, decode_layout (countsFit_of_lt hlt)⟩

/-- A configuration with every kind of change, endpoints and networks of both families, and fields
that are not given. -/
def mixed : Configuration where
  interface := ⟨some (.filled 7), none, some 51820, true⟩
  peers :=
    [⟨.filled 1, .set
        { presharedKey := some (.filled 9)
          keepalive := some 25
          endpoint := some (.v6 ⟨[0xfe80, 0, 0, 0, 0, 0, 0, 1], rfl⟩ 51820 66051 3)
          replaceNetworks := true
          networks := [⟨.v4 ⟨10, 0, 0, 0⟩, 8, by decide⟩,
            ⟨.v6 ⟨[0xfd00, 0, 0, 0, 0, 0, 0, 0], rfl⟩, 128, by decide⟩]
          traffic := ⟨18446744073709551615, 1, 133497216000000000⟩ }⟩,
      ⟨.filled 2, .remove⟩,
      ⟨.filled 3, .update
        { Profile.blank with endpoint := some (.v4 ⟨192, 0, 2, 1⟩ 443) }⟩]

theorem decode_encode_mixed :
    mixed.requestSize ≤ 4294967295 ∧
      ∃ buffer, mixed.encode = .ok buffer ∧ buffer.size = 536 ∧
        Configuration.decode buffer.bytes = .ok mixed :=
  have h : mixed.requestSize ≤ 4294967295 := by decide
  ⟨h, decode_encode mixed h⟩

end Configuration

end TunnelConfig
