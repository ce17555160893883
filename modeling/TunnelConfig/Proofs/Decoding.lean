import TunnelConfig.Configuration.Decode
import TunnelConfig.Proofs.Flags
import TunnelConfig.Proofs.Layout
import TunnelConfig.Proofs.Readings

/-!
# Decoding reads the grammar

**Theorem (`decode_eq_ok_iff`).** A buffer decodes to a configuration if and only if it is made of
the pieces of a counted and allowed layout, and the configuration is what these pieces say. The
check of the peer count before any peer is read never refuses a buffer that has all its records.

The proof goes through the reader's calls, innermost first. A cursor at a piece reads that piece, so
each reader on the bytes of its pieces becomes a condition on the pieces together with what they
say: `network_eq_ok_iff` for a network record, `ofEntry_eq_ok_iff` for a peer and its networks,
`readRun_eq_ok_iff` for the row of peers. Conversely whatever the readers accept has the pieces in
front of it (`exists_peerBlocks`, `exists_peers`). The records themselves are looked at in one place
only, where the fields of a record are compared with the places of the grammar.
-/

namespace TunnelConfig

open Wire

/-! ## Cursors -/

namespace Wire.Cursor

variable {n : Nat}

theorem block_append (offset : Nat) (b : Block n) (rest : Bytes) :
    (⟨offset, b.toList ++ rest⟩ : Cursor).block n = .ok b := by
  rw [block, List.take_left' b.length_toList, Block.ofList?_toList]

theorem block_eq_ok_iff {c : Cursor} {b : Block n} :
    c.block n = .ok b ↔ ∃ rest, c.rest = b.toList ++ rest := by
  constructor
  · intro h
    by_cases hlen : (c.rest.take n).length = n
    · have hb : (⟨c.rest.take n, hlen⟩ : Block n) = b := by
        rw [block, Block.ofList?, dif_pos hlen] at h
        exact Except.ok.inj h
      exact ⟨c.rest.drop n, by rw [← hb, List.take_append_drop]⟩
    · rw [block, Block.ofList?, dif_neg hlen] at h
      exact absurd h error_ne_ok
  · rintro ⟨rest, hrest⟩
    obtain ⟨offset, bs⟩ := c
    rw [show bs = b.toList ++ rest from hrest, block_append]

theorem holds_iff {c : Cursor} : c.holds n = true ↔ n ≤ c.rest.length := by
  rw [holds, beq_iff_eq, List.length_take]
  omega

theorem interface_append (offset : Nat) (b : Block 80) (rest : Bytes) :
    (⟨offset, b.toList ++ rest⟩ : Cursor).interface = .ok (InterfaceRecord.ofBlock b) :=
  congrArg (Except.map InterfaceRecord.ofBlock) (block_append offset b rest)

theorem peer_append (offset : Nat) (b : Block 136) (rest : Bytes) :
    (⟨offset, b.toList ++ rest⟩ : Cursor).peer = .ok (PeerRecord.ofBlock b) :=
  congrArg (Except.map PeerRecord.ofBlock) (block_append offset b rest)

theorem network_append (offset : Nat) (b : Block 24) (rest : Bytes) :
    (⟨offset, b.toList ++ rest⟩ : Cursor).network = .ok (NetworkRecord.ofBlock b) :=
  congrArg (Except.map NetworkRecord.ofBlock) (block_append offset b rest)

theorem advance_append {xs rest : Bytes} (offset : Nat) (h : xs.length = n) :
    (⟨offset, xs ++ rest⟩ : Cursor).advance n = ⟨offset + n, rest⟩ := by
  rw [advance, List.drop_left' h]

end Wire.Cursor

/-! ## What the records say -/

namespace Layout

theorem has_interfaceFlags (b : Block 80) (k : Nat) :
    (InterfaceRecord.ofBlock b).flags.has k = b.flag k :=
  congrArg (Nat.testBit · k) (b.toNat_little_four 0)

theorem has_peerFlags (b : Block 136) (k : Nat) :
    (PeerRecord.ofBlock b).flags.has k = b.flag k :=
  congrArg (Nat.testBit · k) (b.toNat_little_four 0)

theorem contains_interfaceFlags (b : Block 80) {k : Nat} (hk : k < 32) :
    (InterfaceRecord.ofBlock b).flags.contains (Flags.single k) = b.flag k := by
  rw [Flags.contains_single _ hk, has_interfaceFlags]

theorem contains_peerFlags (b : Block 136) {k : Nat} (hk : k < 32) :
    (PeerRecord.ofBlock b).flags.contains (Flags.single k) = b.flag k := by
  rw [Flags.contains_single _ hk, has_peerFlags]

theorem ofRecord_ofBlock (b : Block 80) :
    Interface.ofRecord (InterfaceRecord.ofBlock b) = readInterface b := by
  have hpublic := contains_interfaceFlags b (k := 0) (by decide)
  have hprivate := contains_interfaceFlags b (k := 1) (by decide)
  have hport := contains_interfaceFlags b (k := 2) (by decide)
  have hreplace := contains_interfaceFlags b (k := 3) (by decide)
  rw [readInterface, ← hpublic, ← hprivate, ← hport, ← hreplace]
  rfl

/-- The family that a code in a record stands for. -/
theorem ofCode?_little {n : Nat} (b : Block n) (offset : Nat) :
    Family.ofCode? (UInt16.ofNat (b.little offset 2)) =
      if b.little offset 2 = 2 then some .ipv4
      else if b.little offset 2 = 23 then some .ipv6
      else none := by
  have hcode : ∀ code : UInt16,
      UInt16.ofNat (b.little offset 2) = code ↔ b.little offset 2 = code.toNat := by
    intro code
    rw [← UInt16.toNat_inj, b.toNat_little_two]
  simp only [Family.ofCode?, hcode]
  rfl

/-! ## Networks -/

theorem address?_ofBlock (b : Block 24) :
    (NetworkRecord.ofBlock b).address? =
      if b.little 16 2 = 2 ∨ b.little 16 2 = 23 then some (readAddress b) else none := by
  have hslice : (b.slice 0 16 (by decide)).slice 0 4 (by decide) = b.slice 0 4 (by decide) :=
    b.slice_slice (by decide) (by decide)
  show (Family.ofCode? (UInt16.ofNat (b.little 16 2))).map _ = _
  rw [ofCode?_little, readAddress]
  by_cases hv4 : b.little 16 2 = 2
  · rw [if_pos hv4, if_pos (Or.inl hv4), if_pos hv4]
    exact congrArg (fun ip => some (Address.v4 (IPv4.ofBlock ip))) hslice
  · by_cases hv6 : b.little 16 2 = 23
    · rw [if_neg hv4, if_pos hv6, if_pos (Or.inr hv6), if_neg hv4]
      rfl
    · rw [if_neg hv4, if_neg hv6, if_neg (not_or.mpr ⟨hv4, hv6⟩)]
      rfl

theorem length_le_bits_iff (b : Block 24) :
    UInt8.ofNat (b.little 18 1) ≤ (readAddress b).family.bits ↔
      b.little 18 1 ≤ if b.little 16 2 = 2 then 32 else 128 := by
  rw [UInt8.le_iff_toNat_le, b.toNat_little_one, readAddress]
  by_cases hv4 : b.little 16 2 = 2
  · rw [if_pos hv4, if_pos hv4]
    rfl
  · rw [if_neg hv4, if_neg hv4]
    rfl

theorem length_le_of_allowed {b : Block 24} (h : NetworkAllowed b) :
    UInt8.ofNat (b.little 18 1) ≤ (readAddress b).family.bits := by
  rw [length_le_bits_iff]
  rcases h with ⟨hfamily, hle⟩ | ⟨hfamily, hle⟩
  · rwa [if_pos hfamily]
  · rwa [if_neg (by omega)]

theorem code_readAddress {b : Block 24} (h : b.little 16 2 = 2 ∨ b.little 16 2 = 23) :
    (readAddress b).family.code.toNat = b.little 16 2 := by
  rw [readAddress]
  split
  · next hv4 => exact hv4.symm
  · next hv4 => exact (h.resolve_left hv4).symm

/-- A network record reads as a network exactly if it is allowed. -/
theorem network_eq_ok_iff (offset : Nat) (b : Block 24) (n : Network) :
    (NetworkRecord.ofBlock b).network offset = .ok n ↔ NetworkAllowed b ∧ readNetwork b = n := by
  have hlength := length_le_bits_iff b
  rw [NetworkRecord.network, address?_ofBlock, NetworkAllowed, readNetwork]
  by_cases hfamily : b.little 16 2 = 2 ∨ b.little 16 2 = 23
  · rw [if_pos hfamily]
    show (Network.make (readAddress b) (UInt8.ofNat (b.little 18 1))).mapError _ = _ ↔ _
    rw [Network.make]
    by_cases hle : UInt8.ofNat (b.little 18 1) ≤ (readAddress b).family.bits
    · have hallowed := hlength.mp hle
      rw [dif_pos hle, dif_pos hle]
      constructor
      · intro h
        refine ⟨?_, Except.ok.inj h⟩
        rcases hfamily with hv4 | hv6
        · rw [if_pos hv4] at hallowed
          exact Or.inl ⟨hv4, hallowed⟩
        · rw [if_neg (by omega)] at hallowed
          exact Or.inr ⟨hv6, hallowed⟩
      · rintro ⟨-, rfl⟩
        rfl
    · rw [dif_neg hle, dif_neg hle]
      refine iff_of_false error_ne_ok ?_
      rintro ⟨h, -⟩
      apply hle
      apply hlength.mpr
      split_ifs <;> omega
  · rw [if_neg hfamily]
    refine iff_of_false error_ne_ok ?_
    rintro ⟨h, -⟩
    omega

/-- A cursor at a row of network records reads them one after another. -/
theorem readRun_networks (blocks : List (Block 24)) (offset : Nat) (rest : Bytes)
    (read ns : List Network) :
    Network.readRun blocks.length ⟨offset, blocks.flatMap Block.toList ++ rest⟩ read = .ok ns ↔
      (∀ b ∈ blocks, NetworkAllowed b) ∧ read.reverse ++ blocks.map readNetwork = ns := by
  induction blocks generalizing offset read with
  | nil => simp [Network.readRun]
  | cons b blocks ih =>
    rw [List.length_cons, Network.readRun, List.flatMap_cons, List.append_assoc,
      Cursor.network_append]
    show ((NetworkRecord.ofBlock b).network offset >>= fun n => _) = _ ↔ _
    rw [bind_eq_ok_iff, show NetworkRecord.size = 24 from rfl,
      Cursor.advance_append offset b.length_toList]
    simp only [network_eq_ok_iff, ih, List.forall_mem_cons, List.map_cons, List.reverse_cons,
      List.append_assoc, List.singleton_append]
    constructor
    · rintro ⟨n, ⟨hb, rfl⟩, hblocks, hns⟩
      exact ⟨⟨hb, hblocks⟩, hns⟩
    · rintro ⟨⟨hb, hblocks⟩, hns⟩
      exact ⟨_, ⟨hb, rfl⟩, hblocks, hns⟩

/-! ## Endpoints -/

theorem endpoint?_eq_ok_iff (offset : Nat) (b : Block 28) (e : Option Endpoint) :
    (⟨b⟩ : SocketField).endpoint? offset = .ok e ↔
      (b.little 0 2 = 0 ∨ b.little 0 2 = 2 ∨ b.little 0 2 = 23) ∧ readEndpoint b = e := by
  have hzero : (⟨b⟩ : SocketField).family = 0 ↔ b.little 0 2 = 0 := by
    rw [← UInt16.toNat_inj]
    exact Eq.congr_left (b.toNat_little_two 0)
  have hcode : Family.ofCode? (⟨b⟩ : SocketField).family = _ := ofCode?_little b 0
  rw [SocketField.endpoint?, readEndpoint]
  by_cases h0 : b.little 0 2 = 0
  · rw [if_pos (hzero.mpr h0), if_neg (by omega), if_neg (by omega)]
    exact ⟨fun h => ⟨Or.inl h0, Except.ok.inj h⟩, fun h => congrArg Except.ok h.2⟩
  · rw [if_neg (fun h => h0 (hzero.mp h)), hcode]
    by_cases hv4 : b.little 0 2 = 2
    · rw [if_pos hv4, if_pos hv4]
      exact ⟨fun h => ⟨Or.inr (Or.inl hv4), Except.ok.inj h⟩, fun h => congrArg Except.ok h.2⟩
    · by_cases hv6 : b.little 0 2 = 23
      · rw [if_neg hv4, if_pos hv6, if_neg hv4, if_pos hv6]
        exact ⟨fun h => ⟨Or.inr (Or.inr hv6), Except.ok.inj h⟩, fun h => congrArg Except.ok h.2⟩
      · rw [if_neg hv4, if_neg hv6, if_neg hv4, if_neg hv6]
        refine iff_of_false error_ne_ok ?_
        rintro ⟨h, -⟩
        omega

end Layout

/-! ## Peers -/

/-- The reading of a peer without its early exits. -/
theorem Peer.ofEntry_eq (e : PeerEntry) :
    Peer.ofEntry e =
      if e.record.flags.contains PeerFlags.publicKey = false then
        .error (.missingPublicKey e.offset)
      else if e.record.flags.contains PeerFlags.removal then
        if e.record.flags.intersects PeerFlags.notOnRemoval || e.record.networkCount != 0 then
          .error (.contradictoryFlags e.offset e.record.flags.bits)
        else
          .ok ⟨⟨e.record.publicKey⟩, .remove⟩
      else
        Network.readRun e.record.networkCount.toNat (e.place.advance PeerRecord.size) [] >>=
          fun networks => Profile.ofRecord e.offset e.record networks >>= fun profile =>
            .ok ⟨⟨e.record.publicKey⟩,
              if e.record.flags.contains PeerFlags.update then .update profile
              else .set profile⟩ := by
  rw [Peer.ofEntry]
  cases hkey : e.record.flags.contains PeerFlags.publicKey with
  | false => rfl
  | true =>
    cases hremoval : e.record.flags.contains PeerFlags.removal with
    | true =>
      cases e.record.flags.intersects PeerFlags.notOnRemoval || e.record.networkCount != 0 <;> rfl
    | false =>
      cases e.record.flags.contains PeerFlags.update <;> rfl

namespace PeerBlocks

theorem ofRecord_eq_ok_iff (p : PeerBlocks) (offset : Nat) (networks : List Network)
    (profile : Profile) :
    Profile.ofRecord offset (PeerRecord.ofBlock p.record) networks = .ok profile ↔
      (p.record.flag 3 = true →
        p.endpoint.little 0 2 = 0 ∨ p.endpoint.little 0 2 = 2 ∨ p.endpoint.little 0 2 = 23) ∧
        { p.profile with networks := networks } = profile := by
  have hpreshared := Layout.contains_peerFlags p.record (k := 1) (by decide)
  have hkeepalive := Layout.contains_peerFlags p.record (k := 2) (by decide)
  have hendpoint := Layout.contains_peerFlags p.record (k := 3) (by decide)
  have hreplace := Layout.contains_peerFlags p.record (k := 5) (by decide)
  have hfield : ∀ e, Profile.endpointOf offset (PeerRecord.ofBlock p.record) = .ok e ↔
      (p.record.flag 3 = true →
        p.endpoint.little 0 2 = 0 ∨ p.endpoint.little 0 2 = 2 ∨ p.endpoint.little 0 2 = 23) ∧
        p.profile.endpoint = e := by
    intro e
    show (if (PeerRecord.ofBlock p.record).flags.contains (Flags.single 3) then
        (⟨p.endpoint⟩ : SocketField).endpoint? offset
      else .ok none) = _ ↔ _ ∧ (if _ then _ else _) = _
    rw [hendpoint]
    cases p.record.flag 3 with
    | false => simp
    | true => simpa using Layout.endpoint?_eq_ok_iff offset p.endpoint e
  rw [Profile.ofRecord, bind_eq_ok_iff]
  simp only [hfield]
  constructor
  · rintro ⟨e, ⟨hallowed, rfl⟩, hprofile⟩
    refine ⟨hallowed, ?_⟩
    rw [← Except.ok.inj hprofile, PeerBlocks.profile, ← hpreshared, ← hkeepalive, ← hreplace]
    rfl
  · rintro ⟨hallowed, rfl⟩
    refine ⟨_, ⟨hallowed, rfl⟩, ?_⟩
    rw [PeerBlocks.profile, ← hpreshared, ← hkeepalive, ← hreplace]
    rfl

theorem intersects_notOnRemoval_iff (b : Block 136) :
    ((PeerRecord.ofBlock b).flags.intersects PeerFlags.notOnRemoval ||
        (PeerRecord.ofBlock b).networkCount != 0) = false ↔
      b.flag 7 = false ∧ b.flag 5 = false ∧ b.flag 1 = false ∧ b.flag 2 = false ∧
        b.flag 3 = false ∧ b.little 128 4 = 0 := by
  have hbits := PeerFlags.intersects_notOnRemoval (PeerRecord.ofBlock b).flags
  have hcount : (PeerRecord.ofBlock b).networkCount = 0 ↔ b.little 128 4 = 0 := by
    rw [← UInt32.toNat_inj]
    exact Eq.congr_left (b.toNat_little_four 128)
  simp only [Layout.has_peerFlags] at hbits
  rw [Bool.or_eq_false_iff, bne_eq_false_iff_eq, hcount, ← Bool.not_eq_true, hbits]
  simp only [not_or, Bool.not_eq_true, and_assoc]

/-- A peer with its networks after it reads as a peer exactly if it is allowed. -/
theorem ofEntry_eq_ok_iff {p : PeerBlocks} (hcounted : p.Counted) (offset : Nat) (rest : Bytes)
    (q : Peer) :
    Peer.ofEntry ⟨⟨offset, p.bytes ++ rest⟩, PeerRecord.ofBlock p.record⟩ = .ok q ↔
      p.Allowed ∧ p.peer = q := by
  have hkey := Layout.contains_peerFlags p.record (k := 0) (by decide)
  have hremoval := Layout.contains_peerFlags p.record (k := 6) (by decide)
  have hupdate := Layout.contains_peerFlags p.record (k := 7) (by decide)
  have hcount : (PeerRecord.ofBlock p.record).networkCount.toNat = p.networks.length :=
    (p.record.toNat_little_four 128).trans hcounted.symm
  have hplace : (⟨offset, p.bytes ++ rest⟩ : Cursor).advance PeerRecord.size =
      ⟨offset + 136, p.networks.flatMap Block.toList ++ rest⟩ := by
    rw [bytes, List.append_assoc]
    exact Cursor.advance_append offset p.record.length_toList
  rw [Peer.ofEntry_eq]
  show (if (PeerRecord.ofBlock p.record).flags.contains (Flags.single 0) = false then _
    else if (PeerRecord.ofBlock p.record).flags.contains (Flags.single 6) = true then _
    else _) = _ ↔ _
  rw [hkey, hremoval]
  cases h0 : p.record.flag 0 with
  | false =>
    refine iff_of_false error_ne_ok ?_
    rintro ⟨h, -⟩
    exact absurd h.publicKey (by simp [h0])
  | true =>
    rw [if_neg (by decide)]
    cases h6 : p.record.flag 6 with
    | true =>
      have hclean := intersects_notOnRemoval_iff p.record
      have hpeer : p.peer = ⟨⟨p.record.piece 8 32⟩, .remove⟩ := by
        rw [peer, change, if_pos h6]
      rw [if_pos rfl, hpeer]
      cases hbad : (PeerRecord.ofBlock p.record).flags.intersects PeerFlags.notOnRemoval ||
          (PeerRecord.ofBlock p.record).networkCount != 0 with
      | true =>
        rw [if_pos rfl]
        refine iff_of_false error_ne_ok ?_
        rintro ⟨h, -⟩
        exact absurd (hclean.mpr (h.removal h6)) (by simp [hbad])
      | false =>
        rw [if_neg (by decide)]
        refine ⟨fun h => ⟨⟨h0, fun _ => hclean.mp hbad, ?_, ?_⟩, Except.ok.inj h⟩,
          fun h => congrArg Except.ok h.2⟩
        · exact fun h => absurd h6 (by simp [h])
        · exact fun h => absurd h6 (by simp [h])
    | false =>
      rw [if_neg (by decide), bind_eq_ok_iff]
      simp only [hcount, hplace, Layout.readRun_networks, bind_eq_ok_iff, ofRecord_eq_ok_iff]
      have hpeer : p.peer = ⟨⟨p.record.piece 8 32⟩,
          if p.record.flag 7 then .update p.profile else .set p.profile⟩ := by
        rw [peer, change, if_neg (by simp [h6])]
      rw [hpeer]
      constructor
      · rintro ⟨networks, ⟨hnetworks, rfl⟩, profile, ⟨hendpoint, rfl⟩, hq⟩
        refine ⟨⟨h0, fun h => absurd h6 (by simp [h]), fun _ => hnetworks, fun _ => hendpoint⟩, ?_⟩
        rw [← hupdate]
        exact Except.ok.inj hq
      · rintro ⟨hallowed, rfl⟩
        refine ⟨_, ⟨hallowed.networks h6, rfl⟩, _, ⟨hallowed.endpoint h6, rfl⟩, ?_⟩
        rw [← hupdate]
        rfl

/-! ## Rows of peers -/

/-- A cursor at a peer visits it and goes on behind its networks. -/
theorem entry_append {p : PeerBlocks} (hcounted : p.Counted) (offset : Nat) (rest : Bytes) :
    (⟨offset, p.bytes ++ rest⟩ : Cursor).entry =
      .ok (⟨⟨offset, p.bytes ++ rest⟩, PeerRecord.ofBlock p.record⟩, ⟨offset + p.size, rest⟩) := by
  have hbytes : p.bytes ++ rest =
      p.record.toList ++ (p.networks.flatMap Block.toList ++ rest) := by
    rw [bytes, List.append_assoc]
  have hrecord : (⟨offset, p.bytes ++ rest⟩ : Cursor).peer = .ok (PeerRecord.ofBlock p.record) := by
    rw [hbytes, Cursor.peer_append]
  have hnetworks : (⟨offset, p.bytes ++ rest⟩ : Cursor).advance PeerRecord.size =
      ⟨offset + 136, p.networks.flatMap Block.toList ++ rest⟩ := by
    rw [hbytes]
    exact Cursor.advance_append offset p.record.length_toList
  have hspan : (PeerRecord.ofBlock p.record).networkCount.toNat * NetworkRecord.size =
      (p.networks.flatMap Block.toList).length := by
    rw [Block.length_flatMap_toList, hcounted]
    exact congrArg (· * 24) (p.record.toNat_little_four 128)
  have hskip : (⟨offset, p.bytes ++ rest⟩ : Cursor).skipPeer (PeerRecord.ofBlock p.record) =
      .ok ⟨offset + p.size, rest⟩ := by
    rw [Cursor.skipPeer, hnetworks, hspan, if_pos, Cursor.advance_append (offset + 136) rfl,
      Block.length_flatMap_toList, size, Nat.add_assoc]
    rw [Cursor.holds_iff, List.length_append]
    exact Nat.le_add_right _ _
  rw [Cursor.entry, hrecord]
  show (Cursor.skipPeer _ _ >>= fun next => _) = _
  rw [hskip]
  rfl

/-- Where a peer can be visited, there is a peer with its networks. -/
theorem exists_peerBlocks {c next : Cursor} {e : PeerEntry} (h : c.entry = .ok (e, next)) :
    ∃ p : PeerBlocks, p.Counted ∧ c.rest = p.bytes ++ next.rest := by
  obtain ⟨r, hr, h⟩ := bind_eq_ok_iff.mp h
  obtain ⟨next', hskip, h⟩ := bind_eq_ok_iff.mp h
  obtain ⟨-, rfl⟩ : _ ∧ next' = next := Prod.ext_iff.mp (Except.ok.inj h)
  obtain ⟨record, hrecord, rfl⟩ := map_eq_ok_iff.mp hr
  obtain ⟨rest, hrest⟩ := Cursor.block_eq_ok_iff.mp hrecord
  have hplace : c.advance PeerRecord.size = ⟨c.offset + 136, rest⟩ := by
    obtain ⟨offset, bs⟩ := c
    rw [show bs = record.toList ++ rest from hrest]
    exact Cursor.advance_append offset record.length_toList
  rw [Cursor.skipPeer, hplace] at hskip
  by_cases hholds : (⟨c.offset + 136, rest⟩ : Cursor).holds
      ((PeerRecord.ofBlock record).networkCount.toNat * NetworkRecord.size) = true
  · rw [if_pos hholds] at hskip
    -- The networks could be skipped, so there are as many bytes as the record announces.
    obtain rfl := Except.ok.inj hskip
    have hlength := Cursor.holds_iff.mp hholds
    obtain ⟨networks, hcount, hnetworks⟩ := Block.exists_blocks 24
      (PeerRecord.ofBlock record).networkCount.toNat
      (rest.take ((PeerRecord.ofBlock record).networkCount.toNat * NetworkRecord.size))
      (by rw [List.length_take, Nat.min_eq_left hlength]; rfl)
    refine ⟨⟨record, networks⟩, hcount.trans (record.toNat_little_four 128), ?_⟩
    rw [hrest, bytes, hnetworks, List.append_assoc]
    exact congrArg (record.toList ++ ·) (List.take_append_drop _ rest).symm
  · rw [if_neg hholds] at hskip
    exact absurd hskip error_ne_ok

/-- A cursor at a row of peers reads them one after another. -/
theorem readRun_eq_ok_iff {ps : List PeerBlocks} (hcounted : ∀ p ∈ ps, p.Counted) (offset : Nat)
    (rest : Bytes) (read qs : List Peer) :
    Peer.readRun ps.length ⟨offset, ps.flatMap bytes ++ rest⟩ read = .ok qs ↔
      (∀ p ∈ ps, p.Allowed) ∧ read.reverse ++ ps.map peer = qs := by
  induction ps generalizing offset read with
  | nil => simp [Peer.readRun]
  | cons p ps ih =>
    have hp : p.Counted := hcounted p List.mem_cons_self
    have hps : ∀ q ∈ ps, q.Counted := fun q hq => hcounted q (List.mem_cons_of_mem p hq)
    rw [List.length_cons, Peer.readRun, List.flatMap_cons, List.append_assoc, entry_append hp]
    show (Peer.ofEntry _ >>= fun q => _) = _ ↔ _
    rw [bind_eq_ok_iff]
    simp only [ofEntry_eq_ok_iff hp, ih hps, List.forall_mem_cons, List.map_cons,
      List.reverse_cons, List.append_assoc, List.singleton_append]
    constructor
    · rintro ⟨q, ⟨hallowed, rfl⟩, hrest, hqs⟩
      exact ⟨⟨hallowed, hrest⟩, hqs⟩
    · rintro ⟨⟨hallowed, hrest⟩, hqs⟩
      exact ⟨_, ⟨hallowed, rfl⟩, hrest, hqs⟩

/-- Where a row of peers can be read, there are the peers with their networks. -/
theorem exists_peers {count : Nat} {c : Cursor} {read qs : List Peer}
    (h : Peer.readRun count c read = .ok qs) :
    ∃ (ps : List PeerBlocks) (rest : Bytes),
      ps.length = count ∧ (∀ p ∈ ps, p.Counted) ∧ c.rest = ps.flatMap bytes ++ rest := by
  induction count generalizing c read with
  | zero => exact ⟨[], c.rest, rfl, by simp, rfl⟩
  | succ count ih =>
    obtain ⟨⟨e, next⟩, hentry, h⟩ := bind_eq_ok_iff.mp h
    obtain ⟨q, -, h⟩ := bind_eq_ok_iff.mp h
    obtain ⟨p, hp, hbytes⟩ := exists_peerBlocks hentry
    obtain ⟨ps, rest, hcount, hps, hrest⟩ := ih h
    refine ⟨p :: ps, rest, congrArg Nat.succ hcount, List.forall_mem_cons.mpr ⟨hp, hps⟩, ?_⟩
    rw [hbytes, hrest, List.flatMap_cons, List.append_assoc]

end PeerBlocks

namespace Layout

/-! ## Whole buffers -/

theorem interface_start (l : Layout) :
    (Cursor.start l.bytes).interface = .ok (InterfaceRecord.ofBlock l.interface) := by
  rw [Cursor.start, bytes, List.append_assoc, Cursor.interface_append]

theorem firstPeer_start (l : Layout) :
    (Cursor.start l.bytes).firstPeer = ⟨80, l.peers.flatMap PeerBlocks.bytes ++ l.rest⟩ := by
  rw [Cursor.firstPeer, Cursor.start, bytes, List.append_assoc]
  exact Cursor.advance_append 0 l.interface.length_toList

theorem length_peers_le (ps : List PeerBlocks) :
    ps.length * 136 ≤ (ps.flatMap PeerBlocks.bytes).length := by
  induction ps with
  | nil => simp
  | cons p ps ih =>
    rw [List.flatMap_cons, List.length_append, p.length_bytes, PeerBlocks.size, List.length_cons]
    omega

/-- The peers that are there pass the check of their number. -/
theorem peers_start {l : Layout} (h : l.Counted) :
    (Cursor.start l.bytes).peers =
      .ok ⟨⟨80, l.peers.flatMap PeerBlocks.bytes ++ l.rest⟩, l.peers.length, false⟩ := by
  have hcount : (InterfaceRecord.ofBlock l.interface).peerCount.toNat = l.peers.length :=
    (l.interface.toNat_little_four 72).trans h.peers.symm
  rw [Cursor.peers, interface_start]
  show (if _ then _ else _) = _
  rw [hcount, firstPeer_start, if_pos]
  · rfl
  · rw [Cursor.holds_iff, List.length_append]
    exact Nat.le_trans (length_peers_le l.peers) (Nat.le_add_right _ _)

/-- A buffer in pieces decodes exactly if the pieces are allowed, and then to what they say. -/
theorem decode_bytes_eq_ok_iff {l : Layout} (h : l.Counted) (c : Configuration) :
    Configuration.decode l.bytes = .ok c ↔ l.Allowed ∧ l.configuration = c := by
  have hdecode : Configuration.decode l.bytes =
      Peer.readRun l.peers.length ⟨80, l.peers.flatMap PeerBlocks.bytes ++ l.rest⟩ [] >>=
        fun peers => .ok ⟨readInterface l.interface, peers⟩ := by
    rw [Configuration.decode, interface_start, peers_start h, ← ofRecord_ofBlock]
    rfl
  rw [hdecode, bind_eq_ok_iff]
  simp only [PeerBlocks.readRun_eq_ok_iff h.networks, List.reverse_nil, List.nil_append]
  constructor
  · rintro ⟨peers, ⟨hallowed, rfl⟩, hc⟩
    exact ⟨hallowed, Except.ok.inj hc⟩
  · rintro ⟨hallowed, rfl⟩
    exact ⟨_, ⟨hallowed, rfl⟩, rfl⟩

/-- A buffer that decodes is made of pieces. -/
theorem exists_layout {buffer : Bytes} {c : Configuration}
    (h : Configuration.decode buffer = .ok c) : ∃ l : Layout, l.Counted ∧ l.bytes = buffer := by
  obtain ⟨r, hinterface, h⟩ := bind_eq_ok_iff.mp h
  obtain ⟨walk, hwalk, h⟩ := bind_eq_ok_iff.mp h
  obtain ⟨qs, hread, -⟩ := bind_eq_ok_iff.mp h
  obtain ⟨interface, hblock, rfl⟩ := map_eq_ok_iff.mp hinterface
  obtain ⟨rest, hrest⟩ := Cursor.block_eq_ok_iff.mp hblock
  replace hrest : buffer = interface.toList ++ rest := hrest
  have hplace : (Cursor.start buffer).firstPeer = ⟨80, rest⟩ := by
    rw [hrest]
    exact Cursor.advance_append 0 interface.length_toList
  have hwalk' : walk = ⟨⟨80, rest⟩, interface.little 72 4, false⟩ := by
    rw [Cursor.peers, hinterface, hplace] at hwalk
    change (if _ then Except.ok _ else Except.error _) = _ at hwalk
    split at hwalk
    · rw [← Except.ok.inj hwalk]
      exact congrArg (PeerWalk.mk ⟨80, rest⟩ · false) (interface.toNat_little_four 72)
    · exact absurd hwalk error_ne_ok
  rw [hwalk'] at hread
  obtain ⟨ps, tail, hcount, hps, htail⟩ := PeerBlocks.exists_peers hread
  replace htail : rest = ps.flatMap PeerBlocks.bytes ++ tail := htail
  refine ⟨⟨interface, ps, tail⟩, ⟨hcount, hps⟩, ?_⟩
  rw [bytes, hrest, htail, List.append_assoc]

/-- **Decoding accepts exactly the grammar.** A buffer decodes to a configuration if and only if it
is cut into an interface record, as many peers as that announces, each with as many networks as its
record announces, and a rest, all peers are allowed, and the configuration is what the pieces say.
The peers of any buffer that is cut so pass the check of their number, allowed or not. -/
theorem decode_eq_ok_iff (buffer : Bytes) (c : Configuration) :
    (Configuration.decode buffer = .ok c ↔
      ∃ l : Layout, l.bytes = buffer ∧ l.Counted ∧ l.Allowed ∧ l.configuration = c) ∧
    ∀ l : Layout, l.Counted → (Cursor.start l.bytes).peers =
      .ok ⟨⟨80, l.peers.flatMap PeerBlocks.bytes ++ l.rest⟩, l.peers.length, false⟩ := by
  refine ⟨?_, fun l h => peers_start h⟩
  constructor
  · intro h
    obtain ⟨l, hcounted, rfl⟩ := exists_layout h
    exact ⟨l, rfl, hcounted, (decode_bytes_eq_ok_iff hcounted c).mp h⟩
  · rintro ⟨l, rfl, hcounted, h⟩
    exact (decode_bytes_eq_ok_iff hcounted c).mpr h

end Layout

end TunnelConfig
