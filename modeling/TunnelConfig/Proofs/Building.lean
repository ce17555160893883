import TunnelConfig.Proofs.Encoding
import TunnelConfig.Proofs.Prefixes
import TunnelConfig.Wire.Builder

/-!
# Building a buffer and walking over it

**Theorem (`walk_built`).** A builder writes the records that it is given one after another,
wherever room is made in between. If these are an interface record and then groups of a peer record
and network records, and every record announces what follows it, then the walks over the buffer read
the same records back, each at the sum of the sizes before it. The records need not mean anything.

**Building.** A step writes its record behind what is there, or nothing (`bytes_take`). So the bytes
after a list of steps are those of its records (`bytes_after`), and their number is found from the
kinds of the records alone.

**Walking.** Groups are the pieces of a counted layout, so the walk over the peers visits them in a
row (`PeerBlocks.yields_peers`). A visited peer has its networks right behind its record, and the
walk over these steps from one to the next as long as the offsets can be written down
(`NetworkWalk.yields_networks`).
-/

namespace TunnelConfig

namespace Wire

/-! ## Records of any kind -/

/-- A record that a builder takes. -/
inductive Record
  | interface (r : InterfaceRecord)
  | peer (r : PeerRecord)
  | network (r : NetworkRecord)

namespace Record

def bytes : Record → Bytes
  | interface r => r.bytes
  | peer r => r.bytes
  | network r => r.bytes

def size : Record → Nat
  | interface _ => InterfaceRecord.size
  | peer _ => PeerRecord.size
  | network _ => NetworkRecord.size

/-- The size of a row of records. -/
def span (rs : List Record) : Nat := rs.foldr (fun r size => r.size + size) 0

theorem length_bytes (r : Record) : r.bytes.length = r.size := by
  cases r with
  | interface r => exact r.length_bytes
  | peer r => exact r.length_bytes
  | network r => exact r.length_bytes

theorem size_pos (r : Record) : 0 < r.size := by
  cases r <;> exact Nat.zero_lt_succ _

theorem length_flatMap_bytes (rs : List Record) : (rs.flatMap bytes).length = span rs := by
  induction rs with
  | nil => rfl
  | cons r rs ih =>
    rw [List.flatMap_cons, List.length_append, r.length_bytes, ih]
    rfl

theorem flatMap_bytes_eq_nil_iff (rs : List Record) : rs.flatMap bytes = [] ↔ rs = [] := by
  cases rs with
  | nil => exact iff_of_true rfl rfl
  | cons r rs =>
    have hspan : span (r :: rs) = r.size + span rs := rfl
    have hr := r.size_pos
    rw [← List.length_eq_zero_iff, length_flatMap_bytes, hspan]
    exact iff_of_false (by omega) (List.cons_ne_nil r rs)

end Record

/-! ## Steps of a builder -/

namespace Builder

/-- What a builder is asked for. -/
inductive Step
  | append (r : Record)
  | reserve (room : Nat)

namespace Step

/-- The builder after the step. -/
def take (b : Builder) : Step → Builder
  | append (.interface r) => b.interface r
  | append (.peer r) => b.peer r
  | append (.network r) => b.network r
  | reserve room => b.reserve room

/-- The record that the step appends. -/
def record? : Step → Option Record
  | append r => some r
  | reserve _ => none

end Step

/-- The new builder after the steps. -/
def after (steps : List Step) : Builder := steps.foldl Step.take empty

/-- The records that the steps append. -/
def records (steps : List Step) : List Record := steps.filterMap Step.record?

/-- A step writes its record behind what is there. -/
theorem bytes_take (b : Builder) (step : Step) :
    (step.take b).bytes = b.bytes ++ (records [step]).flatMap Record.bytes := by
  cases step with
  | append r =>
    have hrecords : (records [.append r]).flatMap Record.bytes = r.bytes := List.append_nil _
    rw [hrecords]
    cases r <;> exact bytes_append _ b
  | reserve room =>
    have hrecords : (records [.reserve room]).flatMap Record.bytes = [] := rfl
    rw [hrecords, List.append_nil]
    exact bytes_reserve room b

theorem bytes_foldl (steps : List Step) (b : Builder) :
    (steps.foldl Step.take b).bytes = b.bytes ++ (records steps).flatMap Record.bytes := by
  induction steps generalizing b with
  | nil => simp [records]
  | cons step steps ih =>
    have hrecords : records (step :: steps) = records [step] ++ records steps :=
      List.filterMap_append (l := [step])
    rw [List.foldl_cons, ih, bytes_take, hrecords, List.flatMap_append, List.append_assoc]

/-- What is built is the records, one after another. -/
theorem bytes_after (steps : List Step) :
    (after steps).bytes = (records steps).flatMap Record.bytes := by
  rw [after, bytes_foldl, bytes_empty, List.nil_append]

theorem size_after (steps : List Step) : (after steps).size = Record.span (records steps) := by
  rw [size_eq_length_bytes, bytes_after, Record.length_flatMap_bytes]

theorem finish?_after_eq_none_iff (steps : List Step) :
    (after steps).finish? = none ↔ records steps = [] := by
  rw [finish?_eq_none_iff, bytes_after, Record.flatMap_bytes_eq_nil_iff]

theorem finish?_after {steps : List Step} (h : records steps ≠ []) :
    (after steps).finish? = some ⟨(records steps).flatMap Record.bytes⟩ := by
  have hbytes : (after steps).bytes ≠ [] := by
    rw [bytes_after, ne_eq, Record.flatMap_bytes_eq_nil_iff]
    exact h
  rw [finish?_of_ne_nil hbytes, bytes_after]

end Builder

/-! ## Walks over networks -/

theorem Cursor.network_bytes (offset : Nat) (r : NetworkRecord) (rest : Bytes) :
    (⟨offset, r.bytes ++ rest⟩ : Cursor).network = .ok r :=
  (network_append offset r.block rest).trans (congrArg Except.ok r.ofBlock_toBlock)

/-- A walk over networks that are there visits each, with its offset. -/
theorem NetworkWalk.yields_networks (rs : List NetworkRecord) (offset : Nat) (rest : Bytes)
    (h : offset + 24 * rs.length < addressLimit) :
    ∃ v, Yields next ⟨.ok ⟨offset, rs.flatMap NetworkRecord.bytes ++ rest⟩, rs.length⟩
      (rs.mapIdx fun i r => .ok (offset + 24 * i, r)) v := by
  induction rs generalizing offset with
  | nil => exact ⟨_, .done rfl⟩
  | cons r rs ih =>
    rw [List.length_cons] at h
    have hplace : (⟨offset, r.bytes ++ (rs.flatMap NetworkRecord.bytes ++ rest)⟩ :
        Cursor).nextNetwork = .ok ⟨offset + 24, rs.flatMap NetworkRecord.bytes ++ rest⟩ := by
      have hlimit : offset + NetworkRecord.size < addressLimit := by
        rw [NetworkRecord.size]
        omega
      rw [Cursor.nextNetwork, if_pos hlimit, Cursor.advance_append offset r.length_bytes]
      rfl
    have hnext : (⟨.ok ⟨offset, (r :: rs).flatMap NetworkRecord.bytes ++ rest⟩,
          (r :: rs).length⟩ : NetworkWalk).next =
        some (.ok (offset, r),
          ⟨.ok ⟨offset + 24, rs.flatMap NetworkRecord.bytes ++ rest⟩, rs.length⟩) := by
      rw [next, if_neg (by simp), List.flatMap_cons, List.append_assoc]
      simp only [Cursor.network_bytes, hplace]
      rfl
    have hoffset : ∀ i, offset + 24 * (i + 1) = offset + 24 + 24 * i := by
      intro i
      omega
    obtain ⟨v, hyields⟩ := ih (offset + 24) (by omega)
    refine ⟨v, ?_⟩
    rw [List.mapIdx_cons]
    simp only [hoffset]
    exact .more hnext hyields

/-! ## Groups -/

/-- A peer record and the network records after it. -/
structure Group where
  peer : PeerRecord
  networks : List NetworkRecord

namespace Group

/-- The records of the group in order. -/
def records (g : Group) : List Record := .peer g.peer :: g.networks.map .network

/-- The peer record announces the network records after it. -/
def Counted (g : Group) : Prop := g.peer.networkCount.toNat = g.networks.length

/-- The size of a row of groups. -/
def span (gs : List Group) : Nat :=
  gs.foldr (fun g size => 136 + 24 * g.networks.length + size) 0

/-- The group as pieces of a buffer. -/
def blocks (g : Group) : PeerBlocks := ⟨g.peer.block, g.networks.map NetworkRecord.block⟩

/-- The visit to a peer reads back the group: its peer record, which is at `start`, and its network
records in order, each at its offset. -/
structure Visited (g : Group) (start : Nat) (e : PeerEntry) : Prop where
  offset : e.offset = start
  record : e.record = g.peer
  networks : e.networks.toList =
    g.networks.mapIdx fun i r => .ok (start + 136 + 24 * i, r)

theorem flatMap_records (g : Group) : g.records.flatMap Record.bytes = g.blocks.bytes := by
  have hnetworks : (g.networks.map Record.network).flatMap Record.bytes =
      (g.networks.map NetworkRecord.block).flatMap Block.toList := by
    rw [List.flatMap_map, List.flatMap_map]
    rfl
  rw [records, List.flatMap_cons, hnetworks]
  rfl

theorem flatMap_flatMap_records (gs : List Group) :
    (gs.flatMap records).flatMap Record.bytes = (gs.map blocks).flatMap PeerBlocks.bytes := by
  rw [List.flatMap_assoc, List.flatMap_map]
  exact congrArg (List.flatMap · gs) (funext flatMap_records)

theorem counted_blocks {g : Group} (h : g.Counted) : g.blocks.Counted := by
  rw [PeerBlocks.Counted, blocks, PeerRecord.networkCount_block, List.length_map, h]

theorem length_flatMap_blocks (gs : List Group) :
    ((gs.map blocks).flatMap PeerBlocks.bytes).length = span gs := by
  induction gs with
  | nil => rfl
  | cons g gs ih =>
    have hsize : g.blocks.size = 136 + 24 * g.networks.length := by
      rw [PeerBlocks.size, blocks, List.length_map, Nat.mul_comm]
    rw [List.map_cons, List.flatMap_cons, List.length_append, ih, PeerBlocks.length_bytes, hsize]
    rfl

/-- The visit to a group that is there reads it back. -/
theorem visited_entry {g : Group} (h : g.Counted) {offset : Nat}
    (hlimit : offset + (136 + 24 * g.networks.length) < addressLimit) (rest : Bytes) :
    g.Visited offset
      ⟨⟨offset, g.blocks.bytes ++ rest⟩, PeerRecord.ofBlock g.blocks.record⟩ := by
  have hrecord : PeerRecord.ofBlock g.blocks.record = g.peer := g.peer.ofBlock_block
  have hnetworks : g.blocks.networks.flatMap Block.toList =
      g.networks.flatMap NetworkRecord.bytes := List.flatMap_map _ _ g.networks
  have hfirst : (⟨offset, g.blocks.bytes ++ rest⟩ : Cursor).firstNetwork =
      .ok ⟨offset + 136, g.networks.flatMap NetworkRecord.bytes ++ rest⟩ := by
    have hfirst : offset + PeerRecord.size < addressLimit := by
      rw [PeerRecord.size]
      omega
    rw [Cursor.firstNetwork, if_pos hfirst, PeerBlocks.bytes, List.append_assoc, hnetworks]
    exact congrArg Except.ok (Cursor.advance_append offset g.blocks.record.length_toList)
  obtain ⟨v, hyields⟩ := NetworkWalk.yields_networks g.networks (offset + 136) rest (by omega)
  refine ⟨rfl, hrecord, ?_⟩
  rw [PeerEntry.networks, hfirst, hrecord, h]
  exact NetworkWalk.toList_eq hyields

end Group

/-! ## Walks over what was built -/

/-- The records of an interface and of groups, with nothing after them. -/
def Group.layout (i : InterfaceRecord) (gs : List Group) : Layout :=
  ⟨i.block, gs.map Group.blocks, []⟩

namespace Group

variable {i : InterfaceRecord} {gs : List Group}

theorem counted_layout (hpeers : i.peerCount.toNat = gs.length) (hgroups : ∀ g ∈ gs, g.Counted) :
    (layout i gs).Counted := by
  constructor
  · have hcount : (layout i gs).interface.little 72 4 = i.peerCount.toNat := i.peerCount_block
    rw [hcount, hpeers]
    exact List.length_map _
  · intro p hp
    obtain ⟨g, hg, rfl⟩ := List.mem_map.mp hp
    exact counted_blocks (hgroups g hg)

theorem bytes_layout (i : InterfaceRecord) (gs : List Group) :
    (layout i gs).bytes =
      (.interface i :: gs.flatMap records : List Record).flatMap Record.bytes := by
  rw [List.flatMap_cons, flatMap_flatMap_records, Layout.bytes, layout, List.append_nil]
  rfl

theorem length_layout (i : InterfaceRecord) (gs : List Group) :
    (layout i gs).bytes.length = 80 + span gs := by
  rw [Layout.bytes, layout, List.append_nil, List.length_append, length_flatMap_blocks,
    i.block.length_toList]

theorem span_append (gs others : List Group) : span (gs ++ others) = span gs + span others := by
  rw [← length_flatMap_blocks, List.map_append, List.flatMap_append, List.length_append,
    length_flatMap_blocks, length_flatMap_blocks]

/-- A group and those before it take up no more than all. -/
theorem span_take_add_le {k : Nat} {g : Group} (hg : gs[k]? = some g) :
    span (gs.take k) + (136 + 24 * g.networks.length) ≤ span gs := by
  obtain ⟨hk, rfl⟩ := List.getElem?_eq_some_iff.mp hg
  have hsplit : gs = gs.take k ++ gs[k] :: gs.drop (k + 1) := by
    rw [← List.drop_eq_getElem_cons hk, List.take_append_drop]
  have hspan : span gs = span (gs.take k) + span (gs[k] :: gs.drop (k + 1)) := by
    rw [← span_append, ← hsplit]
  have hcons : span (gs[k] :: gs.drop (k + 1)) =
      136 + 24 * gs[k].networks.length + span (gs.drop (k + 1)) := rfl
  omega

/-- The walk over the peers of the groups visits them one after another and ends behind the last. -/
theorem walk_layout (hpeers : i.peerCount.toNat = gs.length) (hgroups : ∀ g ∈ gs, g.Counted)
    (hlimit : (layout i gs).bytes.length < addressLimit) :
    ∃ walk, (Cursor.start (layout i gs).bytes).peers = .ok walk ∧ walk.run.1.length = gs.length ∧
      walk.run.2.position = (layout i gs).bytes.length ∧
      ∀ (k : Nat) (g : Group), gs[k]? = some g →
        ∃ e, walk.run.1[k]? = some (.ok e) ∧ g.Visited (80 + span (gs.take k)) e := by
  have hcounted := counted_layout hpeers hgroups
  have hend : (layout i gs).peers.length = gs.length := List.length_map _
  have hrun := PeerWalk.run_eq (PeerBlocks.yields_peers hcounted.networks 80 (layout i gs).rest)
  refine ⟨_, Layout.peers_start hcounted, ?_, ?_, ?_⟩
  · rw [hrun, List.length_map, PeerBlocks.length_entries, hend]
  · rw [Layout.position_run hcounted (Layout.peers_start hcounted)]
    exact congrArg List.length (List.append_nil _).symm
  · intro k g hg
    have hspan := span_take_add_le hg
    rw [length_layout] at hlimit
    rw [hrun, List.getElem?_map, PeerBlocks.getElem?_entries, layout, List.getElem?_map, hg,
      ← List.map_take, length_flatMap_blocks]
    exact ⟨_, rfl, visited_entry (hgroups g (List.mem_of_getElem? hg)) (by omega) _⟩

end Group

namespace Builder

/-- **What a builder wrote, the walks read back.** After every step of a builder its size is the sum
of the sizes of the records so far; there is a buffer as soon as there is a record, and it is the
records one after another, wherever room was made. If these are an interface record and groups, and
each record announces as many peers or networks as follow it, then the interface record is read
back, and the walk over the peers visits each group at the sum of the sizes before it, reads back
its peer record and its network records, and ends where the buffer ends. What else the records say
is of no importance. Any buffer in memory is smaller than `addressLimit`, where offsets end, and
memory for the room that is made is taken for granted. -/
theorem walk_built (steps : List Step) :
    (∀ part, part <+: steps → (after part).size = Record.span (records part)) ∧
    ((after steps).finish? = none ↔ records steps = []) ∧
    (records steps ≠ [] →
      (after steps).finish? = some ⟨(records steps).flatMap Record.bytes⟩) ∧
    ∀ (i : InterfaceRecord) (gs : List Group) (buffer : Buffer),
      records steps = .interface i :: gs.flatMap Group.records →
      i.peerCount.toNat = gs.length → (∀ g ∈ gs, g.Counted) →
      (after steps).finish? = some buffer → buffer.size < addressLimit →
      (Cursor.start buffer.bytes).interface = .ok i ∧
        ∃ walk, (Cursor.start buffer.bytes).peers = .ok walk ∧
          walk.run.1.length = gs.length ∧ walk.run.2.position = buffer.size ∧
          ∀ (k : Nat) (g : Group), gs[k]? = some g →
            ∃ e, walk.run.1[k]? = some (.ok e) ∧ g.Visited (80 + Group.span (gs.take k)) e := by
  refine ⟨fun part _ => size_after part, finish?_after_eq_none_iff steps, finish?_after, ?_⟩
  intro i gs buffer hrecords hpeers hgroups hbuffer hlimit
  have hne : records steps ≠ [] := by
    rw [hrecords]
    exact List.cons_ne_nil _ _
  have hbytes : buffer.bytes = (Group.layout i gs).bytes := by
    rw [finish?_after hne, Option.some.injEq] at hbuffer
    rw [← hbuffer, Group.bytes_layout, ← hrecords]
  rw [Buffer.size, hbytes] at hlimit ⊢
  refine ⟨?_, Group.walk_layout hpeers hgroups hlimit⟩
  rw [Layout.interface_start]
  exact congrArg Except.ok i.ofBlock_toBlock

/-- An interface record with all flags set. -/
def unrulyInterface : InterfaceRecord :=
  { InterfaceRecord.blank with flags := ⟨4294967295⟩, peerCount := 2 }

/-- A peer record with all flags set and an endpoint of no family, before a network record of no
family, and a peer record without a key. -/
def unrulyGroups : List Group :=
  [⟨{ PeerRecord.blank with
        flags := ⟨4294967295⟩
        endpoint := ⟨⟨List.replicate 28 238, List.length_replicate⟩⟩
        networkCount := 1 }, [⟨.zero, 99, 255⟩]⟩,
    ⟨{ PeerRecord.blank with keepalive := 1 }, []⟩]

/-- The steps that write these records, with room made before each. -/
def unrulySteps : List Step :=
  (.interface unrulyInterface :: unrulyGroups.flatMap Group.records).flatMap fun r =>
    [.reserve 7, .append r]

theorem walk_built_unruly :
    ∃ buffer walk, (after unrulySteps).finish? = some buffer ∧
      (Cursor.start buffer.bytes).interface = .ok unrulyInterface ∧
      (Cursor.start buffer.bytes).peers = .ok walk ∧ walk.run.2.position = 376 ∧
      ∃ e, walk.run.1[1]? = some (.ok e) ∧
        Group.Visited ⟨{ PeerRecord.blank with keepalive := 1 }, []⟩ 240 e := by
  have hbuilt := walk_built unrulySteps
  have hrecords : records unrulySteps =
      .interface unrulyInterface :: unrulyGroups.flatMap Group.records := rfl
  have hne : records unrulySteps ≠ [] := by
    rw [hrecords]
    exact List.cons_ne_nil _ _
  have hbuffer := hbuilt.2.2.1 hne
  have hsize : ((records unrulySteps).flatMap Record.bytes).length = 376 := by decide +kernel
  have hcounted : ∀ g ∈ unrulyGroups, g.Counted := by
    simp only [unrulyGroups, List.forall_mem_cons]
    exact ⟨rfl, rfl, List.forall_mem_nil _⟩
  have hlimit : ((records unrulySteps).flatMap Record.bytes).length < addressLimit := by
    rw [hsize]
    decide
  obtain ⟨hinterface, walk, hwalk, -, hend, hvisits⟩ :=
    hbuilt.2.2.2 unrulyInterface unrulyGroups _ hrecords rfl hcounted hbuffer hlimit
  exact ⟨_, walk, hbuffer, hinterface, hwalk, hend.trans hsize, hvisits 1 _ rfl⟩

end Builder

end Wire

end TunnelConfig
