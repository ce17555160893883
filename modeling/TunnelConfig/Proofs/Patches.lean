import Mathlib.Data.List.Nodup
import TunnelConfig.Proofs.Tunnels

/-!
# What a request does to one peer

**Theorem (`configure_patches`).** What a request leaves of a peer depends on nothing but what the
tunnel had for its key and the changes for that key, in the order of the request. So changes of
different peers can be exchanged, peers that are not named stay as they are and in their order, and
a request can be divided anywhere into two. A buffer that does not decode changes nothing.

`Change.effect` says what one change makes of the profile that is there. The driver keeps its peers
in a list and walks along it, so there are two things to show about a change: at its own key it has
its effect (`lookup_changePeer_self`, where two peers with one key would be in the way), and at
other keys it has none (`lookup_changePeer_of_ne`). By induction over the request its peers are
sorted out by key (`lookup_changePeers`). Peers with different keys are known by their profiles up
to their order (`perm_of_lookup`), so everything else follows from that.
-/

namespace TunnelConfig

/-- What a change makes of the profile that is kept for its peer, if there is one. -/
def Change.effect : Change → Option Profile → Option Profile
  | set profile, _ => some { profile with replaceNetworks := false, traffic := .none }
  | update _, none => none
  | update patch, some current => some { current with
      presharedKey := patch.presharedKey.or current.presharedKey
      keepalive := patch.keepalive.or current.keepalive
      endpoint := patch.endpoint.or current.endpoint
      networks :=
        if patch.replaceNetworks then patch.networks else current.networks ++ patch.networks }
  | remove, _ => none

/-! ## Peers by their keys -/

section Keys

variable {α : Type} {key : Key} {value : α} {peers others : List (Key × α)}

theorem lookup_eq_none_of_not_mem (h : key ∉ peers.map Prod.fst) : peers.lookup key = none := by
  rw [List.lookup_eq_none_iff]
  intro p hp
  rw [bne_iff_ne]
  rintro rfl
  exact h (List.mem_map.mpr ⟨p, hp, rfl⟩)

theorem lookup_cons_of_ne {k : Key} (h : key ≠ k) :
    ((k, value) :: peers).lookup key = peers.lookup key := by
  rw [List.lookup_cons, beq_false_of_ne h]

theorem mem_iff_lookup (hkeys : (peers.map Prod.fst).Nodup) :
    (key, value) ∈ peers ↔ peers.lookup key = some value := by
  induction peers with
  | nil => exact iff_of_false List.not_mem_nil nofun
  | cons peer rest ih =>
    obtain ⟨k, v⟩ := peer
    obtain ⟨hk, hrest⟩ := List.nodup_cons.mp hkeys
    rw [List.mem_cons]
    by_cases hne : key = k
    · subst hne
      have hnot : (key, value) ∉ rest := fun h => hk (List.mem_map.mpr ⟨_, h, rfl⟩)
      rw [List.lookup_cons_self, or_iff_left hnot, Prod.mk.injEq, Option.some.injEq]
      exact ⟨fun h => h.2.symm, fun h => ⟨rfl, h.symm⟩⟩
    · rw [lookup_cons_of_ne hne, ← ih hrest, or_iff_right fun h => hne (Prod.mk.inj h).1]

/-- Without two peers with one key, all that peers can differ in is their order, once the same is
found for every key. -/
theorem perm_of_lookup (hkeys : (peers.map Prod.fst).Nodup) (hothers : (others.map Prod.fst).Nodup)
    (h : ∀ k, peers.lookup k = others.lookup k) : peers.Perm others := by
  rw [List.perm_ext_iff_of_nodup (List.Nodup.of_map _ hkeys) (List.Nodup.of_map _ hothers)]
  rintro ⟨k, v⟩
  rw [mem_iff_lookup hkeys, mem_iff_lookup hothers, h]

end Keys

/-- Lists of peers that name each key in the same way have the same peers. -/
theorem Peer.perm_of_filter {ps qs : List Peer}
    (h : ∀ k, ps.filter (·.publicKey = k) = qs.filter (·.publicKey = k)) : ps.Perm qs := by
  rw [List.perm_iff_count]
  intro p
  have hcount : ∀ rs : List Peer, (rs.filter (·.publicKey = p.publicKey)).count p = rs.count p :=
    fun rs => List.count_filter (decide_eq_true rfl)
  rw [← hcount, h, hcount]

/-! ## Sizes of requests -/

namespace Configuration

theorem requestSize_perm {i : Interface} {ps qs : List Peer} (h : ps.Perm qs) :
    (⟨i, ps⟩ : Configuration).requestSize = (⟨i, qs⟩ : Configuration).requestSize :=
  h.foldr_eq' (fun p _ q _ size => Nat.add_left_comm q.size p.size size) _

theorem requestSize_le_of_sublist {i j : Interface} {ps qs : List Peer} (h : ps.Sublist qs) :
    (⟨i, ps⟩ : Configuration).requestSize ≤ (⟨j, qs⟩ : Configuration).requestSize := by
  induction h with
  | slnil => exact Nat.le_refl _
  | cons q _ ih => exact Nat.le_trans ih (Nat.le_add_left _ _)
  | cons_cons p _ ih => exact Nat.add_le_add_left ih _

end Configuration

namespace Driver

namespace Tunnel

/-! ## One change -/

section ChangePeer

variable {key : Key} {change : Change} {peers : List (Key × Profile)}

/-- At the key of its peer a change has its effect. -/
theorem lookup_changePeer_self (hkeys : (peers.map Prod.fst).Nodup) :
    (changePeer key change peers).lookup key = change.effect (peers.lookup key) := by
  fun_induction changePeer key change peers with
  | case1 profile hchange =>
    rw [hchange, List.lookup_cons_self]
    rfl
  | case2 hset =>
    cases change with
    | set profile => exact absurd rfl (hset profile)
    | update patch => rfl
    | remove => rfl
  | case3 current rest profile hchange =>
    rw [hchange, List.lookup_cons_self]
    rfl
  | case4 current rest patch hchange =>
    rw [hchange, List.lookup_cons_self, List.lookup_cons_self, patchProfile, Change.effect]
    cases patch.replaceNetworks <;> rfl
  | case5 current rest hchange =>
    rw [hchange]
    exact lookup_eq_none_of_not_mem (List.nodup_cons.mp hkeys).1
  | case6 k current rest hne ih =>
    rw [lookup_cons_of_ne (Ne.symm hne), lookup_cons_of_ne (Ne.symm hne)]
    exact ih (List.nodup_cons.mp hkeys).2

/-- A change leaves the peers apart from its own, whichever they are, as they are and in their
order. -/
theorem filter_changePeer {others : Key → Bool} (h : others key = false) :
    (changePeer key change peers).filter (fun p => others p.1) =
      peers.filter fun p => others p.1 := by
  fun_induction changePeer key change peers with
  | case1 profile => rw [List.filter_cons_of_neg (by simp [h])]
  | case2 => rfl
  | case3 current rest profile =>
    rw [List.filter_cons_of_neg (by simp [h]), List.filter_cons_of_neg (by simp [h])]
  | case4 current rest patch =>
    rw [List.filter_cons_of_neg (by simp [h]), List.filter_cons_of_neg (by simp [h])]
  | case5 current rest => rw [List.filter_cons_of_neg (by simp [h])]
  | case6 k current rest hne ih => rw [List.filter_cons, List.filter_cons, ih]

/-- At another key a change has no effect. -/
theorem lookup_changePeer_of_ne {k : Key} (h : k ≠ key) :
    (changePeer key change peers).lookup k = peers.lookup k := by
  fun_induction changePeer key change peers with
  | case1 profile => exact lookup_cons_of_ne h
  | case2 => rfl
  | case3 current rest profile => rw [lookup_cons_of_ne h, lookup_cons_of_ne h]
  | case4 current rest patch => rw [lookup_cons_of_ne h, lookup_cons_of_ne h]
  | case5 current rest => rw [lookup_cons_of_ne h]
  | case6 k' current rest hne ih => rw [List.lookup_cons, List.lookup_cons, ih]

end ChangePeer

/-! ## All changes of a request -/

/-- What peers are found for a key is settled by the changes for this key alone. -/
theorem lookup_changePeers (changes : List Peer) {peers : List (Key × Profile)}
    (hkeys : (peers.map Prod.fst).Nodup) (k : Key) :
    (changePeers changes peers).lookup k =
      (changes.filter (·.publicKey = k)).foldl (fun profile p => p.change.effect profile)
        (peers.lookup k) := by
  induction changes generalizing peers with
  | nil => rfl
  | cons p changes ih =>
    refine (ih (nodup_changePeer hkeys)).trans ?_
    by_cases hp : p.publicKey = k
    · rw [List.filter_cons_of_pos (by simp [hp]), ← hp, lookup_changePeer_self hkeys]
      rfl
    · rw [List.filter_cons_of_neg (by simp [hp]), lookup_changePeer_of_ne (Ne.symm hp)]

theorem filter_changePeers (changes : List Peer) (peers : List (Key × Profile)) :
    (changePeers changes peers).filter (fun p => p.1 ∉ changes.map Peer.publicKey) =
      peers.filter fun p => p.1 ∉ changes.map Peer.publicKey := by
  have hothers : ∀ (others : Key → Bool) (ps : List Peer) (peers : List (Key × Profile)),
      (∀ p ∈ ps, others p.publicKey = false) →
      (changePeers ps peers).filter (fun p => others p.1) = peers.filter fun p => others p.1 := by
    intro others ps
    induction ps with
    | nil => exact fun _ _ => rfl
    | cons p ps ih =>
      intro peers h
      obtain ⟨hp, hps⟩ := List.forall_mem_cons.mp h
      exact (ih _ hps).trans (filter_changePeer hp)
  refine hothers (fun k => k ∉ changes.map Peer.publicKey) changes peers fun p hp => ?_
  exact decide_eq_false fun h => h (List.mem_map.mpr ⟨p, hp, rfl⟩)

/-- A request in two parts, of which the second one leaves the interface alone. -/
theorem configure_append (t : Tunnel) (i : Interface) (ps qs : List Peer) :
    (t.configure ⟨i, ps⟩).configure ⟨.blank, qs⟩ = t.configure ⟨i, ps ++ qs⟩ := by
  have hpeers : changePeers qs (changePeers ps (t.startingPeers ⟨i, ps⟩)) =
      changePeers (ps ++ qs) (t.startingPeers ⟨i, ps ++ qs⟩) := List.foldl_append.symm
  exact congrArg (Tunnel.mk (patchInterface t.interface i) · t.up) hpeers

end Tunnel

/-! ## Requests to the driver -/

namespace Memory

variable {m : Memory} {handle : Handle} {t : Tunnel}

theorem put_put (handle : Handle) (t t' : Tunnel) (m : Memory) :
    (m.put handle t).put handle t' = m.put handle t' := by
  have htunnels : ∀ h, (if h = handle then some t' else if h = handle then some t
      else m.tunnels h) = if h = handle then some t' else m.tunnels h := by
    intro h
    split <;> rfl
  exact congrArg (fun tunnels => (⟨tunnels, m.deny, m.gets⟩ : Memory)) (funext htunnels)

/-- A buffer that does not decode is refused with the reason, and nothing changes. -/
theorem serve_undecodable (hdeny : m.deny = false) (ht : m.tunnels handle = some t)
    {buffer : Bytes} {e : Wire.Error} (h : Configuration.decode buffer = .error e) :
    serve handle (.set buffer) m = (.error (.driver e.message), m) := by
  unfold serve
  rw [if_neg (by simp [hdeny]), ht]
  dsimp only
  rw [Tunnel.serve, h]
  show (_, m.put handle t) = _
  rw [put_self ht]

end Memory

namespace Adapter

/-- What a request for a tunnel of a driver leads to. -/
structure Patched (m : Memory) (handle : Handle) (t : Tunnel) (c : Configuration)
    (next : Tunnel) : Prop where
  /-- The driver takes the request over, and nothing else changes. -/
  run_eq : (configure c).run Memory.serve handle m = (.ok (), m.put handle next)
  keys : (next.peers.map Prod.fst).Nodup
  /-- What there is for a key is what the changes for this key make, in their order, of what there
  was, or of nothing if the request replaces all peers. -/
  lookup_eq : ∀ k, next.peers.lookup k = (c.peers.filter (·.publicKey = k)).foldl
    (fun profile p => p.change.effect profile)
    (if c.interface.replacePeers then none else t.peers.lookup k)
  /-- Unless all peers are replaced, those that are not named are there as they were and in their
  order. -/
  unnamed : c.interface.replacePeers = false →
    next.peers.filter (fun p => p.1 ∉ c.peers.map Peer.publicKey) =
      t.peers.filter fun p => p.1 ∉ c.peers.map Peer.publicKey
  /-- A request with the same changes for each key, but in another order otherwise, leads to the
  same up to the order of the peers. -/
  reordered : ∀ ps, (∀ k, ps.filter (·.publicKey = k) = c.peers.filter (·.publicKey = k)) →
    ∃ other, (configure ⟨c.interface, ps⟩).run Memory.serve handle m =
        (.ok (), m.put handle other) ∧
      other.peers.Perm next.peers ∧ other.interface = next.interface ∧ other.up = next.up
  /-- The request can be divided into two, the second with nothing for the interface. -/
  divided : ∀ ps qs, c.peers = ps ++ qs →
    ∃ between, (configure ⟨c.interface, ps⟩).run Memory.serve handle m = (.ok (), between) ∧
      (configure ⟨.blank, qs⟩).run Memory.serve handle between = (.ok (), m.put handle next)

/-- **Changes by key.** A tunnel without two peers with one key takes over every request that is not
too large for the driver, and what it then has for a key is settled by the changes for this key. A
buffer that does not decode is refused with the reason, and the driver stays as it is. -/
theorem configure_patches {m : Memory} {handle : Handle} {t : Tunnel} (hdeny : m.deny = false)
    (ht : m.tunnels handle = some t) (hkeys : (t.peers.map Prod.fst).Nodup) :
    (∀ c : Configuration, c.requestSize ≤ 4294967295 → ∃ next, Patched m handle t c next) ∧
    ∀ (buffer : Bytes) (e : Wire.Error), Configuration.decode buffer = .error e →
      Memory.serve handle (.set buffer) m = (.error (.driver e.message), m) ∧
      (buffer.length ≤ 4294967295 → (apply ⟨buffer⟩).run Memory.serve handle m =
        (.error (.refused (.driver e.message)), m)) := by
  constructor
  · rintro ⟨i, changes⟩ hle
    have hsize : (⟨i, changes⟩ : Configuration).requestSize < 4294967296 := Nat.lt_succ_of_le hle
    have hlookup : ∀ (ps : List Peer) (k : Key), (t.configure ⟨i, ps⟩).peers.lookup k =
        (ps.filter (·.publicKey = k)).foldl (fun profile p => p.change.effect profile)
          (if i.replacePeers then none else t.peers.lookup k) := by
      intro ps k
      rw [Tunnel.peers_configure_eq,
        Tunnel.lookup_changePeers _ (Tunnel.nodup_startingPeers hkeys _), Tunnel.startingPeers]
      cases i.replacePeers <;> rfl
    refine ⟨t.configure ⟨i, changes⟩, Memory.run_configure hdeny ht hsize,
      Tunnel.nodup_configure hkeys _, hlookup changes, ?_, ?_, ?_⟩
    · intro hreplace
      rw [Tunnel.peers_configure_eq, Tunnel.startingPeers, hreplace, if_neg Bool.false_ne_true]
      exact Tunnel.filter_changePeers changes t.peers
    · intro ps hsame
      rw [← Configuration.requestSize_perm (Peer.perm_of_filter hsame)] at hsize
      refine ⟨_, Memory.run_configure hdeny ht hsize, ?_, rfl, rfl⟩
      refine perm_of_lookup (Tunnel.nodup_configure hkeys _) (Tunnel.nodup_configure hkeys _) ?_
      intro k
      rw [hlookup, hlookup, hsame]
    · rintro ps qs rfl
      have hfirst : (⟨i, ps⟩ : Configuration).requestSize < 4294967296 := Nat.lt_of_le_of_lt
        (Configuration.requestSize_le_of_sublist (List.sublist_append_left ps qs)) hsize
      have hsecond : (⟨.blank, qs⟩ : Configuration).requestSize < 4294967296 := Nat.lt_of_le_of_lt
        (Configuration.requestSize_le_of_sublist (List.sublist_append_right ps qs)) hsize
      have hthere : (m.put handle (t.configure ⟨i, ps⟩)).tunnels handle =
          some (t.configure ⟨i, ps⟩) := if_pos rfl
      have hstill : (m.put handle (t.configure ⟨i, ps⟩)).deny = false := hdeny
      refine ⟨_, Memory.run_configure hdeny ht hfirst, ?_⟩
      rw [Memory.run_configure hstill hthere hsecond, Tunnel.configure_append, Memory.put_put]
  · intro buffer e he
    have hserve := Memory.serve_undecodable hdeny ht he
    refine ⟨hserve, fun hlength => ?_⟩
    have hfits : (⟨buffer⟩ : Wire.Buffer).size < 4294967296 := Nat.lt_succ_of_le hlength
    rw [apply, Wire.Buffer.size32, if_pos hfits]
    dsimp only
    rw [request, Dialogue.run_ask, hserve]
    rfl

/-- A tunnel with two peers. -/
def neighbours : Tunnel :=
  { Tunnel.blank with peers :=
    [(.filled 1, { Profile.blank with
        keepalive := some 25
        networks := [⟨.v4 ⟨10, 0, 0, 0⟩, 24, by decide⟩] }),
      (.filled 2, .blank)] }

/-- One of the neighbours gets another network, and the other one leaves; what comes after that for
it is without effect. -/
def leaving : Configuration :=
  ⟨.blank, [⟨.filled 2, .remove⟩,
    ⟨.filled 1, .update { Profile.blank with
        networks := [⟨.v4 ⟨192, 168, 0, 0⟩, 16, by decide⟩] }⟩,
    ⟨.filled 2, .update { Profile.blank with keepalive := some 10 }⟩]⟩

theorem configure_patches_neighbours :
    let m := Memory.empty.put ⟨1⟩ neighbours
    (m.deny = false ∧ m.tunnels ⟨1⟩ = some neighbours ∧
      (neighbours.peers.map Prod.fst).Nodup ∧ leaving.requestSize ≤ 4294967295) ∧
    (∃ next, Patched m ⟨1⟩ neighbours leaving next ∧
      next.peers.lookup (.filled 1) = some { Profile.blank with
        keepalive := some 25
        networks := [⟨.v4 ⟨10, 0, 0, 0⟩, 24, by decide⟩, ⟨.v4 ⟨192, 168, 0, 0⟩, 16, by decide⟩] } ∧
      next.peers.lookup (.filled 2) = none) ∧
    (apply ⟨[1, 2, 3]⟩).run Memory.serve ⟨1⟩ m =
      (.error (.refused (.driver (Wire.Error.truncated 0 80 3).message)), m) := by
  intro m
  have hkeys : (neighbours.peers.map Prod.fst).Nodup := by decide
  have hsize : leaving.requestSize ≤ 4294967295 := by decide
  have hshort : Configuration.decode [1, 2, 3] = .error (.truncated 0 80 3) := by decide
  have ht : m.tunnels ⟨1⟩ = some neighbours := rfl
  obtain ⟨hpatched, hrefused⟩ := configure_patches (m := m) rfl ht hkeys
  obtain ⟨next, hnext⟩ := hpatched leaving hsize
  refine ⟨⟨rfl, ht, hkeys, hsize⟩, ⟨next, hnext, ?_, ?_⟩, ?_⟩
  · exact (hnext.lookup_eq _).trans (by decide)
  · exact (hnext.lookup_eq _).trans (by decide)
  · exact (hrefused _ _ hshort).2 (by decide)

end Adapter

end Driver

end TunnelConfig
