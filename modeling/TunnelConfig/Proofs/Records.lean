import TunnelConfig.Proofs.Bytes
import TunnelConfig.Wire.Record

/-!
# Records, written and read

A written record reads back as the same record (`ofBlock_toBlock`, for each kind of record). The
record of a network describes that network (`network_ofNetwork`) and the field of an endpoint holds
that endpoint (`endpoint?_ofEndpoint`). An address is the same as its octets
(`IPv4.octets_ofBlock`, `IPv6.octets_ofBlock` and their converses).

A written record is an appended string of its fields. Each field is found in it by dropping what
stands before, and each number by the laws about values.
-/

namespace TunnelConfig

/-! ## Addresses -/

theorem IPv4.ofBlock_octets (ip : IPv4) : IPv4.ofBlock ⟨ip.octets, ip.length_octets⟩ = ip := rfl

theorem IPv4.octets_ofBlock (b : Block 4) : (IPv4.ofBlock b).octets = b.toList := by
  obtain ⟨bs, h⟩ := b
  match bs, h with
  | [_, _, _, _], _ => rfl

namespace IPv6

theorem groupsOf_flatMap (groups : List UInt16) :
    groupsOf (groups.flatMap fun g => Bytes.bigEndian 2 g.toNat) = groups := by
  induction groups with
  | nil => rfl
  | cons g groups ih =>
    have hg : UInt16.ofNat (Bytes.bigValue (Bytes.bigEndian 2 g.toNat)) = g := by
      rw [Bytes.bigValue_bigEndian_of_lt g.toNat_lt, UInt16.ofNat_toNat]
    show UInt16.ofNat (Bytes.bigValue (Bytes.bigEndian 2 g.toNat)) ::
      groupsOf (groups.flatMap fun g => Bytes.bigEndian 2 g.toNat) = _
    rw [hg, ih]

theorem flatMap_groupsOf (count : Nat) (bs : Bytes) (h : bs.length = 2 * count) :
    ((groupsOf bs).flatMap fun g => Bytes.bigEndian 2 g.toNat) = bs := by
  induction count generalizing bs with
  | zero => rw [List.eq_nil_of_length_eq_zero h]; rfl
  | succ count ih =>
    match bs, h with
    | high :: low :: rest, h =>
      have hvalue : Bytes.bigValue [high, low] < 256 ^ 2 := Bytes.bigValue_lt [high, low]
      have hword : (UInt16.ofNat (Bytes.bigValue [high, low])).toNat =
          Bytes.bigValue [high, low] := by
        rw [UInt16.toNat_ofNat']
        exact Nat.mod_eq_of_lt hvalue
      have hpair : Bytes.bigEndian 2 (Bytes.bigValue [high, low]) = [high, low] :=
        Bytes.bigEndian_bigValue [high, low]
      have hrest : rest.length = 2 * count := by
        simp only [List.length_cons] at h
        omega
      rw [groupsOf, List.flatMap_cons, hword, hpair, ih rest hrest]
      rfl
    | [_], h =>
      simp only [List.length_cons, List.length_nil] at h
      omega
    | [], h =>
      simp only [List.length_nil] at h
      omega

theorem ofBlock_octets (ip : IPv6) : IPv6.ofBlock ⟨ip.octets, ip.length_octets⟩ = ip := by
  obtain ⟨groups, h⟩ := ip
  rw [ofBlock, mk.injEq]
  exact groupsOf_flatMap groups

theorem octets_ofBlock (b : Block 16) : (IPv6.ofBlock b).octets = b.toList :=
  flatMap_groupsOf 8 b.toList b.length_toList

end IPv6

namespace Block

variable {n : Nat}

theorem little_eq_of_piece {b : Block n} {offset width value : Nat}
    (h : (b.toList.drop offset).take width = Bytes.littleEndian width value)
    (hvalue : value < 256 ^ width) : b.little offset width = value := by
  rw [little, h, Bytes.littleValue_littleEndian_of_lt hvalue]

theorem big_eq_of_piece {b : Block n} {offset width value : Nat}
    (h : (b.toList.drop offset).take width = Bytes.bigEndian width value)
    (hvalue : value < 256 ^ width) : b.big offset width = value := by
  rw [big, h, Bytes.bigValue_bigEndian_of_lt hvalue]

end Block

namespace Wire

open Bytes (take_drop_append)

/-! ## Interface records -/

namespace InterfaceRecord

theorem ofBlock_toBlock (r : InterfaceRecord) : ofBlock r.toBlock = r := by
  have hflags : r.toBlock.little 0 4 = r.flags.bits.toNat := by
    refine Block.little_eq_of_piece ?_ r.flags.bits.toNat_lt
    simp [toBlock, bytes]
  have hport : r.toBlock.little 4 2 = r.listenPort.toNat := by
    refine Block.little_eq_of_piece ?_ r.listenPort.toNat_lt
    simp [toBlock, bytes]
  have hprivate : r.toBlock.slice 6 32 (by decide) = r.privateKey := by
    apply Block.ext
    simp [toBlock, bytes, take_drop_append, Block.length_toList]
  have hpublic : r.toBlock.slice 38 32 (by decide) = r.publicKey := by
    apply Block.ext
    simp [toBlock, bytes, take_drop_append, Block.length_toList]
  have hcount : r.toBlock.little 72 4 = r.peerCount.toNat := by
    refine Block.little_eq_of_piece ?_ r.peerCount.toNat_lt
    simp [toBlock, bytes, take_drop_append, Block.length_toList]
  rw [ofBlock, hflags, hport, hprivate, hpublic, hcount]
  simp only [UInt16.ofNat_toNat, UInt32.ofNat_toNat]

end InterfaceRecord

/-! ## Peer records -/

namespace PeerRecord

theorem ofBlock_toBlock (r : PeerRecord) : ofBlock r.toBlock = r := by
  have hflags : r.toBlock.little 0 4 = r.flags.bits.toNat := by
    refine Block.little_eq_of_piece ?_ r.flags.bits.toNat_lt
    simp [toBlock, bytes]
  have hkey : r.toBlock.slice 8 32 (by decide) = r.publicKey := by
    apply Block.ext
    simp [toBlock, bytes, take_drop_append, Block.length_toList]
  have hpreshared : r.toBlock.slice 40 32 (by decide) = r.presharedKey := by
    apply Block.ext
    simp [toBlock, bytes, take_drop_append, Block.length_toList]
  have hkeepalive : r.toBlock.little 72 2 = r.keepalive.toNat := by
    refine Block.little_eq_of_piece ?_ r.keepalive.toNat_lt
    simp [toBlock, bytes, take_drop_append, Block.length_toList]
  have hendpoint : r.toBlock.slice SocketField.offsetInPeer 28 (by decide) = r.endpoint.block := by
    apply Block.ext
    simp [toBlock, bytes, take_drop_append, Block.length_toList, SocketField.bytes,
      SocketField.offsetInPeer]
  have hsent : r.toBlock.little 104 8 = r.sent.toNat := by
    refine Block.little_eq_of_piece ?_ r.sent.toNat_lt
    simp [toBlock, bytes, take_drop_append, Block.length_toList, SocketField.bytes]
  have hreceived : r.toBlock.little 112 8 = r.received.toNat := by
    refine Block.little_eq_of_piece ?_ r.received.toNat_lt
    simp [toBlock, bytes, take_drop_append, Block.length_toList, SocketField.bytes]
  have hhandshake : r.toBlock.little 120 8 = r.lastHandshake.toNat := by
    refine Block.little_eq_of_piece ?_ r.lastHandshake.toNat_lt
    simp [toBlock, bytes, take_drop_append, Block.length_toList, SocketField.bytes]
  have hcount : r.toBlock.little 128 4 = r.networkCount.toNat := by
    refine Block.little_eq_of_piece ?_ r.networkCount.toNat_lt
    simp [toBlock, bytes, take_drop_append, Block.length_toList, SocketField.bytes]
  rw [ofBlock, hflags, hkey, hpreshared, hkeepalive, hendpoint, hsent, hreceived, hhandshake,
    hcount]
  simp only [UInt16.ofNat_toNat, UInt32.ofNat_toNat, UInt64.ofNat_toNat]

end PeerRecord

/-! ## Network records -/

namespace NetworkRecord

theorem ofBlock_toBlock (r : NetworkRecord) : ofBlock r.toBlock = r := by
  have haddress : r.toBlock.slice 0 16 (by decide) = r.address := by
    apply Block.ext
    simp [toBlock, bytes, Block.length_toList]
  have hfamily : r.toBlock.little 16 2 = r.family.toNat := by
    refine Block.little_eq_of_piece ?_ r.family.toNat_lt
    simp [toBlock, bytes, Block.length_toList]
  have hlength : r.toBlock.little 18 1 = r.length.toNat := by
    refine Block.little_eq_of_piece ?_ r.length.toNat_lt
    simp [toBlock, bytes, take_drop_append, Block.length_toList]
  rw [ofBlock, haddress, hfamily, hlength]
  simp only [UInt8.ofNat_toNat, UInt16.ofNat_toNat]

/-- The record of a network describes that network. -/
theorem network_ofNetwork (offset : Nat) (n : Network) :
    (ofNetwork n).network offset = .ok n := by
  obtain ⟨address, length, hle⟩ := n
  have haddress : (ofNetwork ⟨address, length, hle⟩).address? = some address := by
    rw [ofNetwork, address?, family?, ofAddress, Family.ofCode?_code]
    cases address with
    | v4 ip => rfl
    | v6 ip => exact congrArg (fun ip => some (Address.v6 ip)) ip.ofBlock_octets
  rw [network, haddress]
  show (Network.make address length).mapError Error.overlongPrefix = _
  rw [Network.make, dif_pos hle]
  rfl

end NetworkRecord

/-! ## Endpoint fields -/

namespace SocketField

/-- The field of an endpoint holds that endpoint. -/
theorem endpoint?_ofEndpoint (offset : Nat) (e : Endpoint) :
    (ofEndpoint e).endpoint? offset = .ok (some e) := by
  cases e with
  | v4 ip port =>
    have hfamily : (ofEndpoint (.v4 ip port)).family = 2 := rfl
    have hport : (ofEndpoint (.v4 ip port)).block.big 2 2 = port.toNat := by
      refine Block.big_eq_of_piece ?_ port.toNat_lt
      simp [ofEndpoint]
    have hip : (ofEndpoint (.v4 ip port)).block.slice 4 4 (by decide) =
        ⟨ip.octets, ip.length_octets⟩ := by
      have htake : (ip.octets ++ Bytes.zeros 20).take 4 = ip.octets :=
        List.take_left' ip.length_octets
      apply Block.ext
      simp [ofEndpoint, take_drop_append, htake]
    rw [endpoint?, hfamily, hport, hip, IPv4.ofBlock_octets, UInt16.ofNat_toNat]
    rfl
  | v6 ip port flow scope =>
    have hfamily : (ofEndpoint (.v6 ip port flow scope)).family = 23 := rfl
    have hport : (ofEndpoint (.v6 ip port flow scope)).block.big 2 2 = port.toNat := by
      refine Block.big_eq_of_piece ?_ port.toNat_lt
      simp [ofEndpoint]
    have hflow : (ofEndpoint (.v6 ip port flow scope)).block.big 4 4 = flow.toNat := by
      refine Block.big_eq_of_piece ?_ flow.toNat_lt
      simp [ofEndpoint, take_drop_append]
    have hip : (ofEndpoint (.v6 ip port flow scope)).block.slice 8 16 (by decide) =
        ⟨ip.octets, ip.length_octets⟩ := by
      apply Block.ext
      simp [ofEndpoint, take_drop_append]
    have hscope : (ofEndpoint (.v6 ip port flow scope)).block.little 24 4 = scope.toNat := by
      have htake := List.take_of_length_le
        (Nat.le_of_eq (Bytes.length_littleEndian 4 scope.toNat))
      refine Block.little_eq_of_piece ?_ scope.toNat_lt
      simp [ofEndpoint, take_drop_append, htake]
    rw [endpoint?, hfamily, hport, hflow, hip, hscope, IPv6.ofBlock_octets, UInt16.ofNat_toNat,
      UInt32.ofNat_toNat, UInt32.ofNat_toNat]
    rfl

end SocketField

end Wire

end TunnelConfig
