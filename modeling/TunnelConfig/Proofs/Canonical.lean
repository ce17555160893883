import TunnelConfig.Proofs.Encoding

/-!
# Canonical buffers

**Theorem (`encode_decode`).** Encoding what was decoded from a buffer yields the canonical form of
that buffer.

Many buffers describe the same configuration: bytes after the last record do not count, neither do
the gaps between fields, flags without a meaning, and fields whose flag is not set. The canonical
form keeps what counts and puts zeros everywhere else. It is defined on the bytes, record by record,
without reading the records; what remains of a buffer can be seen there.

The encoder makes the same choices from the other side. A record that is read and written again is
the canonical record (`block_readInterface`, `block_readNetwork`, `blocks_peer`), because a written
flag says which fields were given and a given field is written as it was read. So the layout of a
configuration that was read from pieces is the canonical layout of those pieces
(`layout_configuration`), and this holds for buffers of any size.
-/

namespace TunnelConfig

open Wire

/-- The bits of a word whose numbers are listed. -/
def keepBits (bits : List Nat) (word : Nat) : Nat :=
  word &&& bits.foldr (fun k mask => 2 ^ k ||| mask) 0

/-- The block if it counts, otherwise zeros. -/
def Block.keepIf {n : Nat} (present : Bool) (b : Block n) : Block n := if present then b else zero

/-! ## Canonical records -/

namespace Layout

/-- An interface record with flags 0 to 3 only, without the keys and the port whose flag is not set,
and with zeros in the gaps. -/
def canonicalInterface (b : Block 80) : Block 80 :=
  let word := keepBits [0, 1, 2, 3] (b.little 0 4)
  ⟨Bytes.littleEndian 4 word
    ++ (Block.keepIf (word.testBit 2) (b.piece 4 2)).toList
    ++ (Block.keepIf (word.testBit 1) (b.piece 6 32)).toList
    ++ (Block.keepIf (word.testBit 0) (b.piece 38 32)).toList
    ++ Bytes.zeros 2 ++ (b.piece 72 4).toList ++ Bytes.zeros 4,
    by simp [Block.length_toList]⟩

/-- An endpoint field, with zeros after an IPv4 address. -/
def canonicalEndpoint (b : Block 28) : Block 28 :=
  if b.little 0 2 = 2 then
    ⟨(b.piece 0 8).toList ++ Bytes.zeros 20, by simp [Block.length_toList]⟩
  else
    b

/-- The flags that a peer record keeps. An endpoint that is not there has no flag. -/
def canonicalWord (b : Block 136) : Nat :=
  if b.flag 6 then keepBits [0, 6] (b.little 0 4)
  else if (b.piece 76 28).little 0 2 = 0 then keepBits [0, 1, 2, 5, 7] (b.little 0 4)
  else keepBits [0, 1, 2, 3, 5, 7] (b.little 0 4)

/-- A removal with its public key only. Any other peer record without the fields whose flag is not
kept, and with zeros in the gaps. -/
def canonicalPeer (b : Block 136) : Block 136 :=
  let word := canonicalWord b
  if b.flag 6 then
    ⟨Bytes.littleEndian 4 word ++ Bytes.zeros 4 ++ (b.piece 8 32).toList
      ++ Bytes.zeros 96, by simp [Block.length_toList]⟩
  else
    ⟨Bytes.littleEndian 4 word ++ Bytes.zeros 4 ++ (b.piece 8 32).toList
      ++ (Block.keepIf (word.testBit 1) (b.piece 40 32)).toList
      ++ (Block.keepIf (word.testBit 2) (b.piece 72 2)).toList
      ++ Bytes.zeros 2
      ++ (Block.keepIf (word.testBit 3) (canonicalEndpoint (b.piece 76 28))).toList
      ++ (b.piece 104 8).toList ++ (b.piece 112 8).toList
      ++ (b.piece 120 8).toList ++ (b.piece 128 4).toList
      ++ Bytes.zeros 4, by simp [Block.length_toList]⟩

/-- A network record with zeros after the prefix length and after an IPv4 address. -/
def canonicalNetwork (b : Block 24) : Block 24 :=
  if b.little 16 2 = 2 then
    ⟨(b.piece 0 4).toList ++ Bytes.zeros 12 ++ (b.piece 16 2).toList
      ++ (b.piece 18 1).toList ++ Bytes.zeros 5, by simp [Block.length_toList]⟩
  else
    ⟨(b.piece 0 16).toList ++ (b.piece 16 2).toList
      ++ (b.piece 18 1).toList ++ Bytes.zeros 5, by simp [Block.length_toList]⟩

end Layout

/-- The canonical records of a peer. -/
def PeerBlocks.canonical (p : PeerBlocks) : PeerBlocks :=
  ⟨Layout.canonicalPeer p.record, p.networks.map Layout.canonicalNetwork⟩

/-- The canonical records, and nothing after them. -/
def Layout.canonical (l : Layout) : Layout :=
  ⟨canonicalInterface l.interface, l.peers.map PeerBlocks.canonical, []⟩

/-- The canonical form of a buffer. -/
def canonical (buffer : Bytes) : Bytes := (Layout.cut buffer).canonical.bytes

/-! ## Flags -/

theorem testBit_mask (bits : List Nat) (k : Nat) :
    (bits.foldr (fun k mask => 2 ^ k ||| mask) 0).testBit k = decide (k ∈ bits) := by
  induction bits with
  | nil => rw [List.foldr_nil, Nat.zero_testBit, decide_eq_false List.not_mem_nil]
  | cons i bits ih =>
    rw [List.foldr_cons, Nat.testBit_or, ih, Nat.testBit_two_pow, ← Bool.decide_or]
    simp only [List.mem_cons, eq_comm]

theorem testBit_keepBits (bits : List Nat) (word k : Nat) :
    (keepBits bits word).testBit k = (word.testBit k && decide (k ∈ bits)) := by
  rw [keepBits, Nat.testBit_and, testBit_mask]

/-- Written flags are the kept ones if they are as they were read where the list says so, and not
set anywhere else. -/
theorem Wire.Flags.toNat_eq_keepBits {owner : FlagOwner} {f : Flags owner} {bits : List Nat}
    {word : Nat} (hkept : ∀ k ∈ bits, f.has k = word.testBit k)
    (hother : ∀ k, k ∉ bits → f.has k = false) : f.bits.toNat = keepBits bits word := by
  apply Nat.eq_of_testBit_eq
  intro k
  show f.has k = _
  rw [testBit_keepBits]
  by_cases hk : k ∈ bits
  · rw [hkept k hk, decide_eq_true hk, Bool.and_true]
  · rw [hother k hk, decide_eq_false hk, Bool.and_false]

/-! ## Fields, read and written -/

theorem isSome_ite {α : Type} (present : Bool) (x : α) :
    (if present then some x else none).isSome = present := by
  cases present <;> rfl

namespace Block

variable {n : Nat} (b : Block n)

theorem getD_key (present : Bool) (k : Block 32) :
    (((if present then some ⟨k⟩ else none : Option Key)).map Key.block).getD .zero =
      keepIf present k := by
  cases present <;> rfl

theorem littleEndian_getD (present : Bool) {offset : Nat} (fits : offset + 2 ≤ n) :
    Bytes.littleEndian 2
        ((if present then some (UInt16.ofNat (b.little offset 2)) else none).getD 0).toNat =
      (keepIf present (b.piece offset 2)).toList := by
  cases present with
  | false => exact Bytes.littleEndian_zero 2
  | true =>
    show Bytes.littleEndian 2 (UInt16.ofNat (b.little offset 2)).toNat = _
    rw [toNat_little_two, littleEndian_little b fits]
    rfl

theorem littleEndian_four {offset : Nat} (fits : offset + 4 ≤ n) :
    Bytes.littleEndian 4 (UInt32.ofNat (b.little offset 4)).toNat =
      (b.piece offset 4).toList := by
  rw [toNat_little_four, littleEndian_little b fits]

theorem littleEndian_eight {offset : Nat} (fits : offset + 8 ≤ n) :
    Bytes.littleEndian 8 (UInt64.ofNat (b.little offset 8)).toNat =
      (b.piece offset 8).toList := by
  rw [toNat_little_eight, littleEndian_little b fits]

end Block

/-! ## Interfaces -/

namespace Layout

/-- An interface record that is read and written again is canonical. -/
theorem block_readInterface (b : Block 80) :
    ((readInterface b).record (UInt32.ofNat (b.little 72 4))).block = canonicalInterface b := by
  have hword : ((readInterface b).record (UInt32.ofNat (b.little 72 4))).flags.bits.toNat =
      keepBits [0, 1, 2, 3] (b.little 0 4) := by
    apply Flags.toNat_eq_keepBits
    · intro k hk
      show _ = b.flag k
      rw [Interface.has_flags]
      simp only [List.mem_cons, List.not_mem_nil, or_false] at hk
      rcases hk with rfl | rfl | rfl | rfl <;> simp [readInterface, isSome_ite]
    · intro k hk
      rw [Interface.has_flags]
      simp only [List.mem_cons, List.not_mem_nil, or_false, not_or] at hk
      simp [hk]
  have hbit : ∀ k ∈ [0, 1, 2, 3], (keepBits [0, 1, 2, 3] (b.little 0 4)).testBit k = b.flag k := by
    intro k hk
    rw [testBit_keepBits, decide_eq_true hk, Bool.and_true]
    rfl
  apply Block.ext
  show Bytes.littleEndian 4
        ((readInterface b).record (UInt32.ofNat (b.little 72 4))).flags.bits.toNat
      ++ Bytes.littleEndian 2 ((readInterface b).listenPort.getD 0).toNat
      ++ (((readInterface b).privateKey.map Key.block).getD .zero).toList
      ++ (((readInterface b).publicKey.map Key.block).getD .zero).toList
      ++ Bytes.zeros 2 ++ Bytes.littleEndian 4 (UInt32.ofNat (b.little 72 4)).toNat
      ++ Bytes.zeros 4 = _
  rw [hword, canonicalInterface, readInterface, Block.getD_key, Block.getD_key,
    b.littleEndian_getD _ (by decide), b.littleEndian_four (by decide)]
  simp only [hbit, List.mem_cons, true_or, or_true]

/-! ## Networks and endpoints -/

/-- An allowed network record that is read and written again is canonical. -/
theorem block_readNetwork {b : Block 24} (h : NetworkAllowed b) :
    (readNetwork b).block = canonicalNetwork b := by
  have hlength := length_le_of_allowed h
  have hone : Bytes.littleEndian 1 (UInt8.ofNat (b.little 18 1)).toNat =
      (b.piece 18 1).toList := by
    rw [b.toNat_little_one, b.littleEndian_little (by decide)]
  have hcode : Bytes.littleEndian 2 (b.little 16 2) = (b.piece 16 2).toList :=
    b.littleEndian_little (by decide)
  apply Block.ext
  rw [readNetwork, dif_pos hlength]
  show (NetworkRecord.addressBlock (readAddress b)).toList
    ++ Bytes.littleEndian 2 (readAddress b).family.code.toNat
    ++ Bytes.littleEndian 1 (UInt8.ofNat (b.little 18 1)).toNat ++ Bytes.zeros 5 = _
  rw [hone, canonicalNetwork, readAddress]
  rcases h with ⟨hfamily, -⟩ | ⟨hfamily, -⟩
  · rw [hfamily] at hcode
    rw [if_pos hfamily, if_pos hfamily]
    show (IPv4.ofBlock (b.piece 0 4)).octets ++ Bytes.zeros 12
      ++ Bytes.littleEndian 2 2 ++ _ ++ _ = _
    rw [IPv4.octets_ofBlock, hcode]
  · rw [hfamily] at hcode
    rw [if_neg (by omega), if_neg (by omega)]
    show (IPv6.ofBlock (b.piece 0 16)).octets ++ Bytes.littleEndian 2 23 ++ _ ++ _ = _
    rw [IPv6.octets_ofBlock, hcode]

/-- An endpoint field that is read and written again is canonical, if it holds an endpoint. -/
theorem block_readEndpoint {b : Block 28} (h : b.little 0 2 = 2 ∨ b.little 0 2 = 23) :
    ((readEndpoint b).map SocketField.ofEndpoint).getD .unspecified = ⟨canonicalEndpoint b⟩ := by
  have hfamily : Bytes.littleEndian 2 (b.little 0 2) = (b.piece 0 2).toList :=
    b.littleEndian_little (by decide)
  have hport : Bytes.bigEndian 2 (UInt16.ofNat (b.big 2 2)).toNat =
      (b.piece 2 2).toList := by
    rw [b.toNat_big_two, b.bigEndian_big (by decide)]
  rw [readEndpoint, canonicalEndpoint]
  apply congrArg SocketField.mk
  apply Block.ext
  rcases h with hv4 | hv6
  · rw [hv4] at hfamily
    rw [if_pos hv4, if_pos hv4]
    show Bytes.littleEndian 2 2 ++ Bytes.bigEndian 2 (UInt16.ofNat (b.big 2 2)).toNat
      ++ (IPv4.ofBlock (b.piece 4 4)).octets ++ Bytes.zeros 20 =
      (b.piece 0 8).toList ++ Bytes.zeros 20
    rw [hfamily, hport, IPv4.octets_ofBlock, b.toList_piece_append (by decide),
      b.toList_piece_append (by decide)]
  · have hflow : Bytes.bigEndian 4 (UInt32.ofNat (b.big 4 4)).toNat =
        (b.piece 4 4).toList := by
      rw [b.toNat_big_four, b.bigEndian_big (by decide)]
    rw [hv6] at hfamily
    rw [if_neg (by omega), if_pos hv6, if_neg (by omega)]
    show Bytes.littleEndian 2 23 ++ Bytes.bigEndian 2 (UInt16.ofNat (b.big 2 2)).toNat
      ++ Bytes.bigEndian 4 (UInt32.ofNat (b.big 4 4)).toNat
      ++ (IPv6.ofBlock (b.piece 8 16)).octets
      ++ Bytes.littleEndian 4 (UInt32.ofNat (b.little 24 4)).toNat = b.toList
    rw [hfamily, hport, hflow, IPv6.octets_ofBlock, b.littleEndian_four (by decide),
      b.toList_piece_append (by decide), b.toList_piece_append (by decide),
      b.toList_piece_append (by decide), b.toList_piece_append (by decide),
      b.toList_piece_zero]

theorem readEndpoint_eq_none {b : Block 28} (h : b.little 0 2 = 0) : readEndpoint b = none := by
  rw [readEndpoint, if_neg (by omega), if_neg (by omega)]

theorem isSome_readEndpoint {b : Block 28} (h : b.little 0 2 = 2 ∨ b.little 0 2 = 23) :
    (readEndpoint b).isSome = true := by
  rw [readEndpoint]
  rcases h with hv4 | hv6
  · rw [if_pos hv4]
    rfl
  · rw [if_neg (by omega), if_pos hv6]
    rfl

/-! ## Peers -/

/-- The flags that a record keeps unless it is a removal. -/
theorem testBit_canonicalWord {b : Block 136} (h : b.flag 6 = false) (k : Nat) :
    (canonicalWord b).testBit k =
      (b.flag k && (decide (k ∈ [0, 1, 2, 5, 7]) ||
        decide (k = 3) && (b.piece 76 28).little 0 2 != 0)) := by
  rw [canonicalWord, if_neg (by simp [h])]
  by_cases hfamily : (b.piece 76 28).little 0 2 = 0
  · rw [if_pos hfamily, testBit_keepBits, hfamily, bne_self_eq_false, Bool.and_false,
      Bool.or_false]
    rfl
  · rw [if_neg hfamily, testBit_keepBits, bne_iff_ne.mpr hfamily, Bool.and_true,
      ← Bool.decide_or]
    refine congrArg (b.flag k && ·) (decide_eq_decide.mpr ?_)
    simp only [List.mem_cons, List.not_mem_nil, or_false]
    omega

end Layout

/-- A record that gives flags and a public key only. -/
theorem Wire.PeerRecord.bytes_blank (flags : PeerFlags) (key : Block 32) :
    PeerRecord.bytes { PeerRecord.blank with flags := flags, publicKey := key } =
      Bytes.littleEndian 4 flags.bits.toNat ++ Bytes.zeros 4 ++ key.toList ++ Bytes.zeros 96 := by
  rw [PeerRecord.bytes]
  simp only [List.append_assoc]
  rfl

namespace PeerBlocks

variable {p : PeerBlocks}

/-- The flags that are written for a removal are the flags that are kept. -/
theorem flags_removal (hallowed : p.Allowed) (h : p.record.flag 6 = true) :
    (PeerFlags.publicKey.union PeerFlags.removal).bits.toNat = Layout.canonicalWord p.record := by
  rw [Layout.canonicalWord, if_pos h]
  apply Flags.toNat_eq_keepBits
  · intro k hk
    show _ = p.record.flag k
    rw [Flags.has_union, PeerFlags.has_publicKey, PeerFlags.has_removal]
    simp only [List.mem_cons, List.not_mem_nil, or_false] at hk
    rcases hk with rfl | rfl
    · exact hallowed.publicKey.symm
    · exact h.symm
  · intro k hk
    rw [Flags.has_union, PeerFlags.has_publicKey, PeerFlags.has_removal]
    simp only [List.mem_cons, List.not_mem_nil, or_false, not_or] at hk
    simp [Ne.symm hk.1, Ne.symm hk.2]

/-- A removal that is read and written again is canonical. -/
theorem blocks_removal (hcounted : p.Counted) (hallowed : p.Allowed)
    (h : p.record.flag 6 = true) : p.peer.blocks = p.canonical := by
  have hcount : p.record.little 128 4 = 0 := (hallowed.removal h).2.2.2.2.2
  have hnetworks : p.networks = [] := List.eq_nil_of_length_eq_zero (hcounted.trans hcount)
  have hpeer : p.peer = ⟨⟨p.record.piece 8 32⟩, .remove⟩ := by
    rw [peer, change, if_pos h]
  have hrecord : (Peer.record ⟨⟨p.record.piece 8 32⟩, .remove⟩ 0).block =
      Layout.canonicalPeer p.record := by
    have hbytes := PeerRecord.bytes_blank (PeerFlags.publicKey.union PeerFlags.removal)
      (p.record.piece 8 32)
    rw [flags_removal hallowed h] at hbytes
    apply Block.ext
    rw [Layout.canonicalPeer, if_pos h]
    exact hbytes
  rw [hpeer, canonical, hnetworks, ← hrecord]
  rfl

/-- An endpoint is read exactly if the endpoint flag is kept. -/
theorem isSome_endpoint (hallowed : p.Allowed) (h : p.record.flag 6 = false) :
    p.profile.endpoint.isSome = (p.record.flag 3 && p.endpoint.little 0 2 != 0) := by
  rw [profile]
  cases hflag : p.record.flag 3 with
  | false => rfl
  | true =>
    show (Layout.readEndpoint p.endpoint).isSome = _
    rw [Bool.true_and]
    rcases hallowed.endpoint h hflag with h0 | hfamily
    · rw [Layout.readEndpoint_eq_none h0, h0]
      rfl
    · rw [Layout.isSome_readEndpoint hfamily, eq_comm, bne_iff_ne]
      omega

/-- The endpoint field that is written for the endpoint that was read. -/
theorem bytes_endpoint (hallowed : p.Allowed) (h : p.record.flag 6 = false) :
    ((p.profile.endpoint.map SocketField.ofEndpoint).getD .unspecified).bytes =
      (Block.keepIf (p.record.flag 3 && p.endpoint.little 0 2 != 0)
        (Layout.canonicalEndpoint p.endpoint)).toList := by
  rw [profile]
  cases hflag : p.record.flag 3 with
  | false => rfl
  | true =>
    show (((Layout.readEndpoint p.endpoint).map SocketField.ofEndpoint).getD .unspecified).bytes = _
    rw [Bool.true_and]
    rcases hallowed.endpoint h hflag with h0 | hfamily
    · rw [Layout.readEndpoint_eq_none h0, h0]
      rfl
    · have hne : (p.endpoint.little 0 2 != 0) = true := by
        rw [bne_iff_ne]
        omega
      rw [Layout.block_readEndpoint hfamily, hne]
      rfl

/-- The flags that are written for a peer are the flags that are kept. -/
theorem flags_profile (hallowed : p.Allowed) (h : p.record.flag 6 = false) {purpose : PeerFlags}
    (hpurpose : ∀ k, purpose.has k = (decide (0 = k) || decide (7 = k) && p.record.flag 7)) :
    (purpose.union p.profile.flags).bits.toNat = Layout.canonicalWord p.record := by
  apply Nat.eq_of_testBit_eq
  intro k
  show (purpose.union p.profile.flags).has k = _
  have hpreshared : p.profile.presharedKey.isSome = p.record.flag 1 := isSome_ite _ _
  have hkeepalive : p.profile.keepalive.isSome = p.record.flag 2 := isSome_ite _ _
  have hreplace : p.profile.replaceNetworks = p.record.flag 5 := rfl
  rw [Layout.testBit_canonicalWord h, Flags.has_union, hpurpose, Profile.has_flags, hpreshared,
    hkeepalive, hreplace, isSome_endpoint hallowed h]
  show _ = (p.record.flag k && (decide (k ∈ [0, 1, 2, 5, 7]) ||
    decide (k = 3) && p.endpoint.little 0 2 != 0))
  by_cases hk : k ∈ [0, 1, 2, 3, 5, 7]
  · simp only [List.mem_cons, List.not_mem_nil, or_false] at hk
    rcases hk with rfl | rfl | rfl | rfl | rfl | rfl <;> simp [hallowed.publicKey]
  · simp only [List.mem_cons, List.not_mem_nil, or_false, not_or] at hk
    obtain ⟨h0, h1, h2, h3, h5, h7⟩ := hk
    simp [h0, h1, h2, h3, h5, h7, Ne.symm h0, Ne.symm h7]

/-- A peer record with a profile that is read and written again is canonical. -/
theorem block_profile (hallowed : p.Allowed) (h : p.record.flag 6 = false) {purpose : PeerFlags}
    (hpurpose : ∀ k, purpose.has k = (decide (0 = k) || decide (7 = k) && p.record.flag 7)) :
    (p.profile.record ⟨p.record.piece 8 32⟩ purpose
      (UInt32.ofNat (p.record.little 128 4))).block = Layout.canonicalPeer p.record := by
  have hbit : ∀ k, k = 1 ∨ k = 2 → (Layout.canonicalWord p.record).testBit k = p.record.flag k := by
    intro k hk
    rw [Layout.testBit_canonicalWord h]
    rcases hk with rfl | rfl <;> simp
  have hbit3 : (Layout.canonicalWord p.record).testBit 3 =
      (p.record.flag 3 && p.endpoint.little 0 2 != 0) := by
    rw [Layout.testBit_canonicalWord h]
    rfl
  have hflag : ¬p.record.flag 6 = true := by simp [h]
  apply Block.ext
  rw [Layout.canonicalPeer, if_neg hflag]
  -- Field by field: what is written for the profile is what the canonical record keeps.
  show Bytes.littleEndian 4 (purpose.union p.profile.flags).bits.toNat ++ Bytes.zeros 4
      ++ (p.record.piece 8 32).toList
      ++ ((p.profile.presharedKey.map Key.block).getD .zero).toList
      ++ Bytes.littleEndian 2 (p.profile.keepalive.getD 0).toNat ++ Bytes.zeros 2
      ++ ((p.profile.endpoint.map SocketField.ofEndpoint).getD .unspecified).bytes
      ++ Bytes.littleEndian 8 (UInt64.ofNat (p.record.little 104 8)).toNat
      ++ Bytes.littleEndian 8 (UInt64.ofNat (p.record.little 112 8)).toNat
      ++ Bytes.littleEndian 8 (UInt64.ofNat (p.record.little 120 8)).toNat
      ++ Bytes.littleEndian 4 (UInt32.ofNat (p.record.little 128 4)).toNat ++ Bytes.zeros 4 = _
  rw [flags_profile hallowed h hpurpose, bytes_endpoint hallowed h, profile, Block.getD_key,
    p.record.littleEndian_getD _ (by decide), p.record.littleEndian_eight (by decide),
    p.record.littleEndian_eight (by decide), p.record.littleEndian_eight (by decide),
    p.record.littleEndian_four (by decide), ← hbit3, ← hbit 1 (Or.inl rfl),
    ← hbit 2 (Or.inr rfl)]
  rfl

/-- A peer that is read and written again is canonical. -/
theorem blocks_peer (hcounted : p.Counted) (hallowed : p.Allowed) :
    p.peer.blocks = p.canonical := by
  cases h : p.record.flag 6 with
  | true => exact blocks_removal hcounted hallowed h
  | false =>
    have hnetworks : (p.networks.map Layout.readNetwork).map Network.block =
        p.networks.map Layout.canonicalNetwork := by
      rw [List.map_map]
      exact List.map_congr_left fun b hb => Layout.block_readNetwork (hallowed.networks h b hb)
    have hcount : (p.networks.map Layout.readNetwork).length = p.record.little 128 4 :=
      (List.length_map _).trans hcounted
    -- A set and an update differ in what the record is for, and in nothing else.
    have hblocks : ∀ purpose : PeerFlags,
        (∀ k, purpose.has k = (decide (0 = k) || decide (7 = k) && p.record.flag 7)) →
        p.profile.blocks ⟨p.record.piece 8 32⟩ purpose
          (UInt32.ofNat p.profile.networks.length) = p.canonical := by
      intro purpose hpurpose
      have hrecord := block_profile hallowed h hpurpose
      rw [← hcount] at hrecord
      rw [canonical, ← hrecord, ← hnetworks]
      rfl
    rw [peer, change, h]
    cases hupdate : p.record.flag 7 with
    | true => exact hblocks (PeerFlags.publicKey.union PeerFlags.update) (by simp [hupdate])
    | false => exact hblocks PeerFlags.publicKey (by simp [hupdate])

end PeerBlocks

/-! ## Whole buffers -/

namespace Layout

variable {l : Layout}

/-- The layout of a configuration that was read is the canonical layout. -/
theorem layout_configuration (hcounted : l.Counted) (hallowed : l.Allowed) :
    l.configuration.layout = l.canonical := by
  have hpeers : (l.peers.map PeerBlocks.peer).map Peer.blocks =
      l.peers.map PeerBlocks.canonical := by
    rw [List.map_map]
    exact List.map_congr_left fun p hp =>
      PeerBlocks.blocks_peer (hcounted.networks p hp) (hallowed p hp)
  have hcount : (l.peers.map PeerBlocks.peer).length = l.interface.little 72 4 :=
    (List.length_map _).trans hcounted.peers
  have hinterface := block_readInterface l.interface
  rw [← hcount] at hinterface
  rw [canonical, ← hinterface, ← hpeers]
  rfl

/-- The counts of a configuration that was read fit, because they were read from their fields. -/
theorem countsFit_configuration (hcounted : l.Counted) : l.configuration.CountsFit := by
  constructor
  · rw [configuration, List.length_map, hcounted.peers]
    exact l.interface.little_lt 72 4
  · intro q hq
    obtain ⟨p, hp, rfl⟩ := List.mem_map.mp hq
    have hlt : p.networks.length < 4294967296 := by
      rw [hcounted.networks p hp]
      exact p.record.little_lt 128 4
    have hprofile : p.profile.networks.length = p.networks.length := List.length_map _
    rw [← hprofile] at hlt
    rw [PeerBlocks.peer, PeerBlocks.change]
    cases p.record.flag 6 with
    | true => exact Nat.succ_pos _
    | false => cases p.record.flag 7 <;> exact hlt

/-- The canonical layout takes up no more room. -/
theorem length_canonical_le (l : Layout) : l.canonical.bytes.length ≤ l.bytes.length := by
  have hpeers : ∀ ps : List PeerBlocks,
      ((ps.map PeerBlocks.canonical).flatMap PeerBlocks.bytes).length =
        (ps.flatMap PeerBlocks.bytes).length := by
    intro ps
    induction ps with
    | nil => rfl
    | cons p ps ih =>
      have hsize : p.canonical.size = p.size := by
        rw [PeerBlocks.size, PeerBlocks.canonical, List.length_map, PeerBlocks.size]
      rw [List.map_cons, List.flatMap_cons, List.flatMap_cons, List.length_append,
        List.length_append, ih, p.length_bytes, PeerBlocks.length_bytes, hsize]
  rw [bytes, bytes, canonical, List.append_nil, List.length_append, List.length_append,
    List.length_append, hpeers, Block.length_toList, Block.length_toList]
  exact Nat.le_add_right _ _

end Layout

/-- The canonical form of an accepted buffer is the layout of what it decodes to. -/
theorem bytes_layout_eq_canonical {buffer : Bytes} {c : Configuration}
    (h : Configuration.decode buffer = .ok c) :
    c.CountsFit ∧ c.layout.bytes = canonical buffer ∧
      (canonical buffer).length ≤ buffer.length := by
  obtain ⟨l, hcounted, rfl⟩ := Layout.exists_layout h
  obtain ⟨hallowed, rfl⟩ := (Layout.decode_bytes_eq_ok_iff hcounted c).mp h
  rw [canonical, Layout.cut_bytes hcounted, Layout.layout_configuration hcounted hallowed]
  exact ⟨Layout.countsFit_configuration hcounted, rfl, l.length_canonical_le⟩

theorem decode_canonical {buffer : Bytes} {c : Configuration}
    (h : Configuration.decode buffer = .ok c) :
    Configuration.decode (canonical buffer) = .ok c := by
  obtain ⟨hcounts, hbytes, -⟩ := bytes_layout_eq_canonical h
  rw [← hbytes]
  exact Configuration.decode_layout hcounts

/-- **Decoding and encoding again.** If a buffer that is not too large for the driver decodes, the
configuration is encoded as the canonical form of the buffer. That form is not longer than the
buffer and decodes to the same configuration, and it is shared by exactly the buffers that do. -/
theorem encode_decode (buffer : Bytes) (c : Configuration) (hsize : buffer.length ≤ 4294967295)
    (h : Configuration.decode buffer = .ok c) :
    c.encode = .ok ⟨canonical buffer⟩ ∧ (canonical buffer).length ≤ buffer.length ∧
      Configuration.decode (canonical buffer) = .ok c ∧
      ∀ other d, Configuration.decode other = .ok d →
        (d = c ↔ canonical other = canonical buffer) := by
  obtain ⟨-, hbytes, hle⟩ := bytes_layout_eq_canonical h
  refine ⟨?_, hle, decode_canonical h, ?_⟩
  · have hlt : c.requestSize < 4294967296 := by
      rw [← c.length_layout, hbytes]
      omega
    rw [Configuration.encode_eq hlt, hbytes]
  · intro other d hother
    constructor
    · rintro rfl
      rw [← hbytes, ← (bytes_layout_eq_canonical hother).2.1]
    · intro hcanonical
      have hd := decode_canonical hother
      rw [hcanonical, decode_canonical h] at hd
      exact (Except.ok.inj hd).symm

/-- A buffer with many bytes that do not count: an update whose endpoint has no family, its network,
a removal, and three bytes more. -/
def untidy : Bytes :=
  Bytes.littleEndian 4 0xf4 ++ Bytes.littleEndian 2 51820 ++ List.replicate 66 5
    ++ Bytes.littleEndian 4 2 ++ List.replicate 4 6
    ++ Bytes.littleEndian 4 0x89 ++ List.replicate 4 7 ++ List.replicate 32 1
    ++ List.replicate 36 8 ++ Bytes.zeros 2 ++ List.replicate 26 9 ++ Bytes.littleEndian 8 10
    ++ Bytes.littleEndian 8 11 ++ Bytes.littleEndian 8 12 ++ Bytes.littleEndian 4 1
    ++ List.replicate 4 13
    ++ [10, 0, 0, 1] ++ List.replicate 12 14 ++ [2, 0, 32] ++ List.replicate 5 15
    ++ Bytes.littleEndian 4 0x41 ++ List.replicate 4 16 ++ List.replicate 32 2
    ++ List.replicate 88 17 ++ Bytes.littleEndian 4 0 ++ List.replicate 4 18
    ++ [1, 2, 3]

/-- What `untidy` describes. -/
def tidy : Configuration where
  interface := ⟨none, none, some 51820, false⟩
  peers :=
    [⟨.filled 1, .update
        { Profile.blank with
          networks := [⟨.v4 ⟨10, 0, 0, 1⟩, 32, by decide⟩]
          traffic := ⟨10, 11, 12⟩ }⟩,
      ⟨.filled 2, .remove⟩]

theorem encode_decode_untidy :
    untidy.length ≤ 4294967295 ∧ Configuration.decode untidy = .ok tidy ∧
      tidy.encode = .ok ⟨canonical untidy⟩ ∧ (canonical untidy).length ≤ untidy.length ∧
      Configuration.decode (canonical untidy) = .ok tidy ∧
      ∀ other d, Configuration.decode other = .ok d →
        (d = tidy ↔ canonical other = canonical untidy) :=
  have hsize : untidy.length ≤ 4294967295 := by decide +kernel
  have h : Configuration.decode untidy = .ok tidy := by decide +kernel
  ⟨hsize, h, encode_decode untidy tidy hsize h⟩

end TunnelConfig
