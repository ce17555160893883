import TunnelConfig.Proofs.Records

/-!
# What the tables of fields say

Every kind of record comes with a table that says where each of its fields stands.

**Theorem (`fields_describe`).** For each kind of record, the table describes the reader and the
writer. A written record reads back as itself. A record that is read and written again keeps the
bytes that some field covers, and all its other bytes become zero. And if two records differ only
in bytes that one field covers, they are read as the same in every field but that one.

**Tables.** The fields of a table are `Ordered`: each starts where the one before has ended, or
later, and the last ends within the record. So no two fields cover the same byte
(`Ordered.disjoint`). `keep` goes through a record from one field to the next and puts zeros in the
gaps; byte for byte it does what the theorem says of reading and writing (`getElem?_keep`).

**Records.** The reader, the writer and the table of a kind each list the fields on their own. That
the three lists agree is `bytes_ofBlock` (the bytes of a record that was read are what `keep` leaves
of it) and `agreeBut_ofBlock` (a field is read from the bytes that it covers), for each kind.
-/

namespace TunnelConfig.Wire

/-! ## Tables -/

namespace Field

/-- The byte with this index is one of the field. -/
def Covers (f : Field) (i : Nat) : Prop := f.offset ≤ i ∧ i < f.offset + f.size

instance (f : Field) (i : Nat) : Decidable (f.Covers i) := inferInstanceAs (Decidable (_ ∧ _))

/-- The bytes of the field. -/
def cut (f : Field) (bs : Bytes) : Bytes := (bs.drop f.offset).take f.size

/-- The fields stand one behind another, from `start` to `stop`, with gaps or without. -/
def Ordered : (start : Nat) → List Field → (stop : Nat) → Prop
  | start, [], stop => start ≤ stop
  | start, f :: fields, stop => start ≤ f.offset ∧ Ordered (f.offset + f.size) fields stop

instance decidableOrdered : (start : Nat) → (fields : List Field) → (stop : Nat) →
    Decidable (Ordered start fields stop)
  | start, [], stop => inferInstanceAs (Decidable (start ≤ stop))
  | start, f :: fields, stop =>
    have := decidableOrdered (f.offset + f.size) fields stop
    inferInstanceAs (Decidable (start ≤ f.offset ∧ Ordered (f.offset + f.size) fields stop))

/-- The bytes from `start` to `stop`, with zeros for those that no field covers. -/
def keep : (start : Nat) → List Field → (stop : Nat) → Bytes → Bytes
  | start, [], stop, _ => Bytes.zeros (stop - start)
  | start, f :: fields, stop, bs =>
    Bytes.zeros (f.offset - start) ++ f.cut bs ++ keep (f.offset + f.size) fields stop bs

theorem getElem?_cut (f : Field) (bs : Bytes) (i : Nat) :
    (f.cut bs)[i]? = if i < f.size then bs[f.offset + i]? else none := by
  rw [cut, List.getElem?_take, List.getElem?_drop]

theorem length_cut {f : Field} {bs : Bytes} (h : f.offset + f.size ≤ bs.length) :
    (f.cut bs).length = f.size := by
  simp [cut]
  omega

/-- Fields of an ordered table lie between its ends. -/
theorem Ordered.bounds {start stop : Nat} {fields : List Field} (h : Ordered start fields stop) :
    start ≤ stop ∧ ∀ f ∈ fields, start ≤ f.offset ∧ f.offset + f.size ≤ stop := by
  induction fields generalizing start with
  | nil => exact ⟨h, by simp⟩
  | cons f fields ih =>
    obtain ⟨hle, hrest⟩ := ih h.2
    have hstart := h.1
    refine ⟨by omega, ?_⟩
    intro g hg
    rcases List.mem_cons.mp hg with rfl | hg
    · exact ⟨hstart, hle⟩
    · have := hrest g hg
      omega

/-- Two fields of an ordered table share no byte. -/
theorem Ordered.disjoint {start stop : Nat} {fields : List Field} (h : Ordered start fields stop)
    {f g : Field} (hf : f ∈ fields) (hg : g ∈ fields) (hne : f ≠ g) :
    f.offset + f.size ≤ g.offset ∨ g.offset + g.size ≤ f.offset := by
  induction fields generalizing start with
  | nil => simp at hf
  | cons first fields ih =>
    have hrest := h.2.bounds.2
    rcases List.mem_cons.mp hf with rfl | hf' <;> rcases List.mem_cons.mp hg with rfl | hg'
    · exact absurd rfl hne
    · exact .inl (hrest g hg').1
    · exact .inr (hrest f hf').1
    · exact ih h.2 hf' hg'

/-- What is kept is what some field covers. -/
theorem getElem?_keep {start stop : Nat} {fields : List Field} (h : Ordered start fields stop)
    {bs : Bytes} (hstop : stop ≤ bs.length) {i : Nat} (hi : start + i < stop) :
    (keep start fields stop bs)[i]? =
      if ∃ f ∈ fields, f.Covers (start + i) then bs[start + i]? else some 0 := by
  induction fields generalizing start i with
  | nil => simp [keep, Bytes.zeros, show i < stop - start by omega]
  | cons f fields ih =>
    obtain ⟨hle, hrest⟩ := h.2.bounds
    have hstart := h.1
    have hcut : (f.cut bs).length = f.size := length_cut (by omega)
    rw [keep, List.append_assoc]
    by_cases hbefore : start + i < f.offset
    -- In the gap before the first field, and so before every field.
    · have hnone : ¬∃ g ∈ f :: fields, g.Covers (start + i) := by
        rintro ⟨g, hg, hcovers⟩
        rcases List.mem_cons.mp hg with rfl | hg
        · exact absurd hcovers.1 (by omega)
        · have := (hrest g hg).1
          exact absurd hcovers.1 (by omega)
      have hgap : i < f.offset - start := by omega
      rw [if_neg hnone, List.getElem?_append_left (by simpa using hgap)]
      simp [Bytes.zeros, hgap]
    · have hgap : (Bytes.zeros (f.offset - start)).length ≤ i := by
        rw [Bytes.length_zeros]
        omega
      rw [List.getElem?_append_right hgap, Bytes.length_zeros]
      by_cases hin : start + i < f.offset + f.size
      · have hsome : ∃ g ∈ f :: fields, g.Covers (start + i) :=
          ⟨f, List.mem_cons_self, by omega, hin⟩
        have hindex : f.offset + (i - (f.offset - start)) = start + i := by omega
        rw [if_pos hsome, List.getElem?_append_left (by omega), getElem?_cut,
          if_pos (by omega), hindex]
      · have hlater : (∃ g ∈ f :: fields, g.Covers (start + i)) ↔
            ∃ g ∈ fields, g.Covers (start + i) := by
          have hf : ¬f.Covers (start + i) := fun hcovers => hin hcovers.2
          simp [hf]
        have hindex : start + i =
            f.offset + f.size + (i - (f.offset - start) - (f.cut bs).length) := by omega
        rw [List.getElem?_append_right (by omega), ih h.2 (by omega), ← hindex]
        simp only [hlater]

/-- A field that is not the one in which two strings differ has the same bytes in both. -/
theorem Ordered.cut_eq {start stop : Nat} {fields : List Field} (h : Ordered start fields stop)
    {f g : Field} (hf : f ∈ fields) (hg : g ∈ fields) (hne : g ≠ f) {bs bs' : Bytes}
    (hsame : ∀ i, ¬f.Covers i → bs[i]? = bs'[i]?) : g.cut bs = g.cut bs' := by
  apply List.ext_getElem?
  intro i
  rw [getElem?_cut, getElem?_cut]
  by_cases hi : i < g.size
  · have houtside : ¬f.Covers (g.offset + i) := by
      intro hcovers
      have := h.disjoint hg hf hne
      have := hcovers.1
      have := hcovers.2
      omega
    rw [if_pos hi, if_pos hi, hsame _ houtside]
  · rw [if_neg hi, if_neg hi]

/-- A table describes how records of `n` bytes are read and written. -/
structure Describes {Record : Type} {n : Nat} (fields : List Field) (ofBlock : Block n → Record)
    (toBlock : Record → Block n) (AgreeBut : String → Record → Record → Prop) : Prop where
  /-- The fields are in the record, and none reaches into the next. -/
  ordered : Ordered 0 fields n
  /-- A written record reads back as itself. -/
  ofBlock_toBlock : ∀ r, ofBlock (toBlock r) = r
  /-- Reading and writing keeps the bytes of the fields and clears all others. -/
  toBlock_ofBlock : ∀ (b : Block n), ∀ i < n, (toBlock (ofBlock b)).toList[i]? =
    if ∃ f ∈ fields, f.Covers i then b.toList[i]? else some 0
  /-- The bytes of a field count for the field of that name only. -/
  agreeBut : ∀ f ∈ fields, ∀ b b' : Block n,
    (∀ i, ¬f.Covers i → b.toList[i]? = b'.toList[i]?) →
      AgreeBut f.name (ofBlock b) (ofBlock b')

/-- A table describes a reader that looks at the bytes of its fields and a writer that keeps
them. -/
theorem describes {Record : Type} {n : Nat} {fields : List Field} {ofBlock : Block n → Record}
    {toBlock : Record → Block n} {AgreeBut : String → Record → Record → Prop}
    (hordered : Ordered 0 fields n) (hread : ∀ r, ofBlock (toBlock r) = r)
    (hkeep : ∀ b : Block n, (toBlock (ofBlock b)).toList = keep 0 fields n b.toList)
    (hagree : ∀ (name : String) (b b' : Block n),
      (∀ g ∈ fields, g.name ≠ name → g.cut b.toList = g.cut b'.toList) →
        AgreeBut name (ofBlock b) (ofBlock b')) :
    Describes fields ofBlock toBlock AgreeBut where
  ordered := hordered
  ofBlock_toBlock := hread
  toBlock_ofBlock b i hi := by
    have h := getElem?_keep hordered (Nat.le_of_eq b.length_toList.symm)
      (show 0 + i < n by omega)
    rw [hkeep, h, Nat.zero_add]
  agreeBut f hf b b' hsame := by
    apply hagree
    intro g hg hname
    exact hordered.cut_eq hf hg (fun h => hname (congrArg Field.name h)) hsame

end Field

/-- A number is written as the bytes that it was read from. -/
theorem littleEndian_little_eq {n : Nat} (b : Block n) {offset width : Nat}
    (fits : offset + width ≤ n) :
    Bytes.littleEndian width (b.little offset width) = (b.toList.drop offset).take width := by
  rw [b.littleEndian_little fits, b.piece_eq_slice fits, Block.toList_slice]

/-- A number is the same in two records that have the same bytes there. -/
theorem little_eq_of_cut {n : Nat} {b b' : Block n} {f : Field}
    (h : f.cut b.toList = f.cut b'.toList) : b.little f.offset f.size = b'.little f.offset f.size :=
  congrArg Bytes.littleValue h

/-! ## Interface records -/

namespace InterfaceRecord

/-- Two records agree in every field but the one of this name. -/
structure AgreeBut (name : String) (r s : InterfaceRecord) : Prop where
  flags : name ≠ "flags" → r.flags = s.flags
  listenPort : name ≠ "listen_port" → r.listenPort = s.listenPort
  privateKey : name ≠ "private_key" → r.privateKey = s.privateKey
  publicKey : name ≠ "public_key" → r.publicKey = s.publicKey
  peerCount : name ≠ "peer_count" → r.peerCount = s.peerCount

theorem bytes_ofBlock (b : Block size) :
    (ofBlock b).bytes = Field.keep 0 fields size b.toList := by
  simp (disch := decide) only [bytes, ofBlock, fields, Field.keep, Field.cut,
    Block.toNat_little_two, Block.toNat_little_four, littleEndian_little_eq, Block.toList_slice]
  simp [Bytes.zeros, size]

theorem agreeBut_ofBlock (name : String) (b b' : Block size)
    (h : ∀ f ∈ fields, f.name ≠ name → f.cut b.toList = f.cut b'.toList) :
    AgreeBut name (ofBlock b) (ofBlock b') where
  flags hname := by
    have hcut := h ⟨"flags", 0, 4⟩ (by decide) hname.symm
    exact congrArg (fun value => Flags.mk (UInt32.ofNat value)) (little_eq_of_cut hcut)
  listenPort hname := by
    have hcut := h ⟨"listen_port", 4, 2⟩ (by decide) hname.symm
    exact congrArg UInt16.ofNat (little_eq_of_cut hcut)
  privateKey hname := Block.ext (h ⟨"private_key", 6, 32⟩ (by decide) hname.symm)
  publicKey hname := Block.ext (h ⟨"public_key", 38, 32⟩ (by decide) hname.symm)
  peerCount hname := by
    have hcut := h ⟨"peer_count", 72, 4⟩ (by decide) hname.symm
    exact congrArg UInt32.ofNat (little_eq_of_cut hcut)

end InterfaceRecord

/-! ## Peer records -/

namespace PeerRecord

structure AgreeBut (name : String) (r s : PeerRecord) : Prop where
  flags : name ≠ "flags" → r.flags = s.flags
  publicKey : name ≠ "public_key" → r.publicKey = s.publicKey
  presharedKey : name ≠ "preshared_key" → r.presharedKey = s.presharedKey
  keepalive : name ≠ "persistent_keepalive" → r.keepalive = s.keepalive
  endpoint : name ≠ "endpoint" → r.endpoint = s.endpoint
  sent : name ≠ "tx_bytes" → r.sent = s.sent
  received : name ≠ "rx_bytes" → r.received = s.received
  lastHandshake : name ≠ "last_handshake" → r.lastHandshake = s.lastHandshake
  networkCount : name ≠ "allowed_ip_count" → r.networkCount = s.networkCount

theorem bytes_ofBlock (b : Block size) :
    (ofBlock b).bytes = Field.keep 0 fields size b.toList := by
  simp (disch := decide) only [bytes, ofBlock, fields, Field.keep, Field.cut, SocketField.bytes,
    Block.toNat_little_two, Block.toNat_little_four, Block.toNat_little_eight,
    littleEndian_little_eq, Block.toList_slice]
  simp [Bytes.zeros, size, SocketField.offsetInPeer]

theorem agreeBut_ofBlock (name : String) (b b' : Block size)
    (h : ∀ f ∈ fields, f.name ≠ name → f.cut b.toList = f.cut b'.toList) :
    AgreeBut name (ofBlock b) (ofBlock b') where
  flags hname := by
    have hcut := h ⟨"flags", 0, 4⟩ (by decide) hname.symm
    exact congrArg (fun value => Flags.mk (UInt32.ofNat value)) (little_eq_of_cut hcut)
  publicKey hname := Block.ext (h ⟨"public_key", 8, 32⟩ (by decide) hname.symm)
  presharedKey hname := Block.ext (h ⟨"preshared_key", 40, 32⟩ (by decide) hname.symm)
  keepalive hname := by
    have hcut := h ⟨"persistent_keepalive", 72, 2⟩ (by decide) hname.symm
    exact congrArg UInt16.ofNat (little_eq_of_cut hcut)
  endpoint hname := by
    have hcut := h ⟨"endpoint", SocketField.offsetInPeer, 28⟩ (by decide) hname.symm
    exact congrArg SocketField.mk (Block.ext hcut)
  sent hname := by
    have hcut := h ⟨"tx_bytes", 104, 8⟩ (by decide) hname.symm
    exact congrArg UInt64.ofNat (little_eq_of_cut hcut)
  received hname := by
    have hcut := h ⟨"rx_bytes", 112, 8⟩ (by decide) hname.symm
    exact congrArg UInt64.ofNat (little_eq_of_cut hcut)
  lastHandshake hname := by
    have hcut := h ⟨"last_handshake", 120, 8⟩ (by decide) hname.symm
    exact congrArg UInt64.ofNat (little_eq_of_cut hcut)
  networkCount hname := by
    have hcut := h ⟨"allowed_ip_count", 128, 4⟩ (by decide) hname.symm
    exact congrArg UInt32.ofNat (little_eq_of_cut hcut)

end PeerRecord

/-! ## Network records -/

namespace NetworkRecord

structure AgreeBut (name : String) (r s : NetworkRecord) : Prop where
  address : name ≠ "address" → r.address = s.address
  family : name ≠ "address_family" → r.family = s.family
  length : name ≠ "cidr" → r.length = s.length

theorem bytes_ofBlock (b : Block size) :
    (ofBlock b).bytes = Field.keep 0 fields size b.toList := by
  simp (disch := decide) only [bytes, ofBlock, fields, Field.keep, Field.cut,
    Block.toNat_little_one, Block.toNat_little_two, littleEndian_little_eq, Block.toList_slice]
  simp [Bytes.zeros, size]

theorem agreeBut_ofBlock (name : String) (b b' : Block size)
    (h : ∀ f ∈ fields, f.name ≠ name → f.cut b.toList = f.cut b'.toList) :
    AgreeBut name (ofBlock b) (ofBlock b') where
  address hname := Block.ext (h ⟨"address", 0, 16⟩ (by decide) hname.symm)
  family hname := by
    have hcut := h ⟨"address_family", 16, 2⟩ (by decide) hname.symm
    exact congrArg UInt16.ofNat (little_eq_of_cut hcut)
  length hname := by
    have hcut := h ⟨"cidr", 18, 1⟩ (by decide) hname.symm
    exact congrArg UInt8.ofNat (little_eq_of_cut hcut)

end NetworkRecord

/-! ## All records -/

/-- **The tables describe the codec.** For interface, peer and network records, the table of fields
describes how a record is read and written. -/
theorem fields_describe :
    Field.Describes InterfaceRecord.fields InterfaceRecord.ofBlock InterfaceRecord.toBlock
      InterfaceRecord.AgreeBut ∧
    Field.Describes PeerRecord.fields PeerRecord.ofBlock PeerRecord.toBlock PeerRecord.AgreeBut ∧
    Field.Describes NetworkRecord.fields NetworkRecord.ofBlock NetworkRecord.toBlock
      NetworkRecord.AgreeBut := by
  refine ⟨?_, ?_, ?_⟩
  · exact Field.describes (by decide) InterfaceRecord.ofBlock_toBlock
      InterfaceRecord.bytes_ofBlock InterfaceRecord.agreeBut_ofBlock
  · exact Field.describes (by decide) PeerRecord.ofBlock_toBlock PeerRecord.bytes_ofBlock
      PeerRecord.agreeBut_ofBlock
  · exact Field.describes (by decide) NetworkRecord.ofBlock_toBlock NetworkRecord.bytes_ofBlock
      NetworkRecord.agreeBut_ofBlock

end TunnelConfig.Wire
