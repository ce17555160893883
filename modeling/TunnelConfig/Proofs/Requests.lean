import TunnelConfig.Proofs.Encoding
import TunnelConfig.Proofs.Visits

/-!
# Requests put together

**Theorem (`encode_append`).** The request for the peers `p ++ q` is as large as was found before
anything was written, and room was made for just that. Behind the interface record it is the request
for `p` and then that for `q`; in the interface record it differs from the request for `p` in the
peer count only.

A request is the interface record and then the records of one peer after another, none of which
looks at the interface or at the other peers (`layout_bytes`). So requests are put together like the
lists of peers, and the only place that knows of all peers is the peer count, whose four bytes are
written between bytes that do not depend on it (`bytes_record`).
-/

namespace TunnelConfig

open Wire

/-- How many bytes the records of peers take up: 136 for a peer and 24 for each of its networks, of
which a removal has none. -/
def peersSize (ps : List Peer) : Nat :=
  ps.foldr (fun p size => 136 + 24 * p.networks.length + size) 0

theorem peersSize_cons (p : Peer) (ps : List Peer) :
    peersSize (p :: ps) = 136 + 24 * p.networks.length + peersSize ps := rfl

theorem peersSize_append (p q : List Peer) : peersSize (p ++ q) = peersSize p + peersSize q := by
  induction p with
  | nil => exact (Nat.zero_add _).symm
  | cons peer p ih =>
    rw [List.cons_append, peersSize_cons, ih, peersSize_cons]
    omega

/-- Only four bytes of an interface record depend on the number of peers. -/
theorem Interface.bytes_record (i : Interface) :
    ∃ front : Bytes, front.length = 72 ∧ ∀ count : UInt32,
      (i.record count).bytes = front ++ (Bytes.littleEndian 4 count.toNat ++ Bytes.zeros 4) := by
  refine ⟨Bytes.littleEndian 4 (i.record 0).flags.bits.toNat ++
    Bytes.littleEndian 2 (i.record 0).listenPort.toNat ++ (i.record 0).privateKey.toList ++
    (i.record 0).publicKey.toList ++ Bytes.zeros 2, ?_, fun count => ?_⟩
  · simp [Block.length_toList]
  · rw [InterfaceRecord.bytes, List.append_assoc]
    rfl

namespace Configuration

theorem requestSize_eq (i : Interface) (ps : List Peer) :
    requestSize ⟨i, ps⟩ = 80 + peersSize ps := by
  induction ps with
  | nil => rfl
  | cons p ps ih =>
    have hcons : requestSize ⟨i, p :: ps⟩ = p.size + requestSize ⟨i, ps⟩ := rfl
    have hsize : p.size = 136 + p.networks.length * 24 := rfl
    rw [hcons, ih, hsize, peersSize_cons]
    omega

/-- The records of peers, one after another. -/
def peerBytes (ps : List Peer) : Bytes := (ps.map Peer.blocks).flatMap PeerBlocks.bytes

theorem peerBytes_append (p q : List Peer) : peerBytes (p ++ q) = peerBytes p ++ peerBytes q := by
  rw [peerBytes, List.map_append, List.flatMap_append]
  rfl

theorem layout_bytes (i : Interface) (ps : List Peer) :
    (layout ⟨i, ps⟩).bytes = (i.record (UInt32.ofNat ps.length)).bytes ++ peerBytes ps :=
  List.append_nil _

theorem drop_layout_bytes (i : Interface) (ps : List Peer) :
    (layout ⟨i, ps⟩).bytes.drop 80 = peerBytes ps := by
  rw [layout_bytes]
  exact List.drop_left' (InterfaceRecord.length_bytes _)

/-- The first bytes of a request are those of any other for the same interface, apart from the peer
count. -/
theorem getElem?_layout_bytes (i : Interface) (ps qs : List Peer) {k : Nat} (hk : k < 80)
    (hcount : ¬(72 ≤ k ∧ k < 76)) :
    (layout ⟨i, ps⟩).bytes[k]? = (layout ⟨i, qs⟩).bytes[k]? := by
  obtain ⟨front, hfront, hbytes⟩ := i.bytes_record
  have hbyte : ∀ ps, (layout ⟨i, ps⟩).bytes[k]? = if k < 72 then front[k]? else some 0 := by
    intro ps
    have hwidth := Bytes.length_littleEndian 4 (UInt32.ofNat ps.length).toNat
    rw [layout_bytes, hbytes, List.append_assoc]
    split
    · exact List.getElem?_append_left (by omega)
    · rw [List.append_assoc, List.getElem?_append_right (by omega),
        List.getElem?_append_right (by omega),
        List.getElem?_append_left (by rw [Bytes.length_zeros]; omega)]
      exact List.getElem?_replicate_of_lt (by omega)
  rw [hbyte, hbyte]

theorem peerCount_layout_bytes (i : Interface) {ps : List Peer} (h : ps.length < 4294967296) :
    (layout ⟨i, ps⟩).bytes.numberAt 72 4 = ps.length := by
  obtain ⟨front, hfront, hbytes⟩ := i.bytes_record
  have hcount : (UInt32.ofNat ps.length).toNat = ps.length := by
    rw [UInt32.toNat_ofNat']
    exact Nat.mod_eq_of_lt h
  rw [Bytes.numberAt, layout_bytes, hbytes, List.append_assoc, List.drop_left' hfront,
    List.append_assoc, List.take_left' (Bytes.length_littleEndian 4 _),
    Bytes.littleValue_littleEndian_of_lt (UInt32.toNat_lt _), hcount]

/-- **Requests are put together like their peers.** If the records of the peers `p ++ q` are not too
large for the driver, there is a request for them. Its size is the sum of the sizes of its records,
it was computed in advance, and room was made for just so many bytes. Behind the interface record
stand the peers of the request for `p` and then those of the request for `q`, whatever the
interface. The interface record is that of the request for `p` but for the number of peers. -/
theorem encode_append (i : Interface) (p q : List Peer)
    (h : 80 + peersSize (p ++ q) ≤ 4294967295) :
    ∃ whole first second : Buffer, encode ⟨i, p ++ q⟩ = .ok whole ∧
      encode ⟨i, p⟩ = .ok first ∧ encode ⟨i, q⟩ = .ok second ∧
      whole.size = 80 + peersSize (p ++ q) ∧
      (∃ b, build ⟨i, p ++ q⟩ = .ok b ∧ b.finish? = some whole ∧
        whole.size = requestSize ⟨i, p ++ q⟩ ∧ whole.size = b.room) ∧
      whole.bytes.drop 80 = first.bytes.drop 80 ++ second.bytes.drop 80 ∧
      (∀ other : Interface, ∃ buffer, encode ⟨other, p ++ q⟩ = .ok buffer ∧
        buffer.bytes.drop 80 = whole.bytes.drop 80) ∧
      (∀ k < 80, ¬(72 ≤ k ∧ k < 76) → whole.bytes[k]? = first.bytes[k]?) ∧
      whole.bytes.numberAt 72 4 = (p ++ q).length := by
  have happend := peersSize_append p q
  have hfits : ∀ (other : Interface) (ps : List Peer), peersSize ps ≤ peersSize (p ++ q) →
      requestSize ⟨other, ps⟩ < 4294967296 := by
    intro other ps hle
    rw [requestSize_eq]
    omega
  have hwhole := hfits i (p ++ q) (Nat.le_refl _)
  obtain ⟨b, hb, hfinish, hroom⟩ := build_eq_ok hwhole
  have hsize : (layout ⟨i, p ++ q⟩).bytes.length = requestSize ⟨i, p ++ q⟩ := length_layout _
  refine ⟨_, _, _, encode_eq hwhole, encode_eq (hfits i p (by omega)),
    encode_eq (hfits i q (by omega)), hsize.trans (requestSize_eq i _),
    ⟨b, hb, hfinish, hsize, hsize.trans hroom.symm⟩, ?_, ?_, ?_, ?_⟩
  · rw [drop_layout_bytes, drop_layout_bytes, drop_layout_bytes, peerBytes_append]
  · intro other
    refine ⟨_, encode_eq (hfits other _ (Nat.le_refl _)), ?_⟩
    rw [drop_layout_bytes, drop_layout_bytes]
  · exact fun k hk hcount => getElem?_layout_bytes i _ _ hk hcount
  · exact peerCount_layout_bytes i (countsFit_of_lt hwhole).peers

theorem encode_append_mixed :
    80 + peersSize (mixed.peers.take 1 ++ mixed.peers.drop 1) ≤ 4294967295 ∧
      ∃ whole first second : Buffer, encode mixed = .ok whole ∧
        encode { mixed with peers := mixed.peers.take 1 } = .ok first ∧
        encode { mixed with peers := mixed.peers.drop 1 } = .ok second ∧
        whole.size = 536 ∧ whole.bytes.numberAt 72 4 = 3 ∧
        whole.bytes.drop 80 = first.bytes.drop 80 ++ second.bytes.drop 80 := by
  have h : 80 + peersSize (mixed.peers.take 1 ++ mixed.peers.drop 1) ≤ 4294967295 := by decide
  obtain ⟨whole, first, second, hwhole, hfirst, hsecond, hsize, -, hpeers, -, -, hcount⟩ :=
    encode_append mixed.interface (mixed.peers.take 1) (mixed.peers.drop 1) h
  exact ⟨h, whole, first, second, hwhole, hfirst, hsecond, hsize, hcount, hpeers⟩

end Configuration

end TunnelConfig
