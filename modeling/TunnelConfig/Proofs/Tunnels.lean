import TunnelConfig.Proofs.Snapshots

/-!
# What a driver in memory keeps

**Theorem (`fetch_configure`).** A tunnel that starts blank and is then served any requests at all
has no two peers with one key, keeps no flag of a request and no traffic, and has a public key
exactly if it has a private key, whose bytes it has in opposite order. So a configuration that was
read can be given back: the tunnel stays as it is, and given to another tunnel in place of its
peers, it brings over the peers in the order in which they are kept.

`WellFormed` is the invariant. A request changes one peer after the other, each by `changePeer`, so
the one thing to show is what that keeps (`nodup_changePeer`, `kept_changePeer`).

Given back to the tunnel it came from, each peer is put in its own place (`changePeer_set_mem`);
given to a tunnel without peers, each one goes to the end (`changePeer_set_fresh`).
-/

namespace TunnelConfig.Driver

namespace Tunnel

/-! ## One peer -/

/-- A profile as a driver keeps it. -/
def Kept (p : Profile) : Prop := p.replaceNetworks = false ∧ p.traffic = .none

theorem kept_stored (p : Profile) : Kept (stored p) := ⟨rfl, rfl⟩

theorem kept_patchProfile {current : Profile} (h : Kept current) (patch : Profile) :
    Kept (patchProfile current patch) := h

theorem stored_eq_self {p : Profile} (h : Kept p) : stored p = p := by
  obtain ⟨presharedKey, keepalive, endpoint, replaceNetworks, networks, traffic⟩ := p
  obtain ⟨hreplace, htraffic⟩ := h
  cases hreplace
  cases htraffic
  rfl

section ChangePeer

variable {key : Key} {change : Change} {profile : Profile} {peers : List (Key × Profile)}

theorem mem_keys_changePeer {k : Key}
    (h : k ∈ (changePeer key change peers).map Prod.fst) : k = key ∨ k ∈ peers.map Prod.fst := by
  fun_induction changePeer key change peers with
  | case1 => exact .inl (List.mem_singleton.mp h)
  | case2 => cases h
  | case3 => exact .inr h
  | case4 => exact .inr h
  | case5 => exact .inr (List.mem_cons_of_mem key h)
  | case6 k' current rest _ ih =>
    rcases List.mem_cons.mp h with rfl | h
    · exact .inr List.mem_cons_self
    · exact (ih h).imp_right (List.mem_cons_of_mem k')

theorem nodup_changePeer (h : (peers.map Prod.fst).Nodup) :
    ((changePeer key change peers).map Prod.fst).Nodup := by
  fun_induction changePeer key change peers with
  | case1 => exact List.nodup_cons.mpr ⟨List.not_mem_nil, List.nodup_nil⟩
  | case2 => exact h
  | case3 => exact h
  | case4 => exact h
  | case5 => exact (List.nodup_cons.mp h).2
  | case6 k current rest hne ih =>
    obtain ⟨hk, hrest⟩ := List.nodup_cons.mp h
    refine List.nodup_cons.mpr ⟨fun hmem => ?_, ih hrest⟩
    exact (mem_keys_changePeer hmem).elim hne hk

theorem kept_changePeer (h : ∀ p ∈ peers, Kept p.2) :
    ∀ p ∈ changePeer key change peers, Kept p.2 := by
  fun_induction changePeer key change peers with
  | case1 profile =>
    intro p hp
    rw [List.mem_singleton.mp hp]
    exact kept_stored profile
  | case2 => exact h
  | case3 current rest profile =>
    exact List.forall_mem_cons.mpr ⟨kept_stored profile, (List.forall_mem_cons.mp h).2⟩
  | case4 current rest patch =>
    obtain ⟨hcurrent, hrest⟩ := List.forall_mem_cons.mp h
    exact List.forall_mem_cons.mpr ⟨kept_patchProfile hcurrent patch, hrest⟩
  | case5 => exact (List.forall_mem_cons.mp h).2
  | case6 k current rest _ ih =>
    obtain ⟨hcurrent, hrest⟩ := List.forall_mem_cons.mp h
    exact List.forall_mem_cons.mpr ⟨hcurrent, ih hrest⟩

/-- A peer that is set to what it is stays in its place. -/
theorem changePeer_set_mem (hmem : (key, profile) ∈ peers) (hkeys : (peers.map Prod.fst).Nodup)
    (hkept : Kept profile) : changePeer key (.set profile) peers = peers := by
  induction peers with
  | nil => cases hmem
  | cons peer rest ih =>
    obtain ⟨k, current⟩ := peer
    obtain ⟨hk, hrest⟩ := List.nodup_cons.mp hkeys
    rw [changePeer]
    rcases List.mem_cons.mp hmem with heq | hmem
    · cases heq
      rw [if_pos rfl, stored_eq_self hkept]
    · have hne : k ≠ key := by
        rintro rfl
        exact hk (List.mem_map.mpr ⟨_, hmem, rfl⟩)
      rw [if_neg hne, ih hmem hrest]

/-- A peer with a new key goes to the end. -/
theorem changePeer_set_fresh (hkey : key ∉ peers.map Prod.fst) :
    changePeer key (.set profile) peers = peers ++ [(key, stored profile)] := by
  induction peers with
  | nil => rfl
  | cons peer rest ih =>
    obtain ⟨k, current⟩ := peer
    obtain ⟨hne, hrest⟩ := List.ne_and_not_mem_of_not_mem_cons hkey
    rw [changePeer, if_neg (Ne.symm hne), ih hrest]
    rfl

end ChangePeer

/-! ## All peers -/

/-- The peers after a request, from those it finds. -/
def changePeers (changes : List Peer) (peers : List (Key × Profile)) : List (Key × Profile) :=
  changes.foldl (fun peers p => changePeer p.publicKey p.change peers) peers

theorem nodup_changePeers (changes : List Peer) {peers : List (Key × Profile)}
    (hkeys : (peers.map Prod.fst).Nodup) : ((changePeers changes peers).map Prod.fst).Nodup := by
  induction changes generalizing peers with
  | nil => exact hkeys
  | cons change changes ih => exact ih (nodup_changePeer hkeys)

theorem kept_changePeers (changes : List Peer) {peers : List (Key × Profile)}
    (hkept : ∀ p ∈ peers, Kept p.2) : ∀ p ∈ changePeers changes peers, Kept p.2 := by
  induction changes generalizing peers with
  | nil => exact hkept
  | cons change changes ih => exact ih (kept_changePeer hkept)

/-- The peers that a request finds: none if its own take their place. -/
def startingPeers (t : Tunnel) (c : Configuration) : List (Key × Profile) :=
  if c.interface.replacePeers then [] else t.peers

theorem peers_configure_eq (t : Tunnel) (c : Configuration) :
    (t.configure c).peers = changePeers c.peers (t.startingPeers c) := rfl

theorem nodup_startingPeers {t : Tunnel} (hkeys : (t.peers.map Prod.fst).Nodup)
    (c : Configuration) : ((t.startingPeers c).map Prod.fst).Nodup := by
  rw [startingPeers]
  split
  · exact List.nodup_nil
  · exact hkeys

theorem nodup_configure {t : Tunnel} (hkeys : (t.peers.map Prod.fst).Nodup) (c : Configuration) :
    ((t.configure c).peers.map Prod.fst).Nodup :=
  nodup_changePeers c.peers (nodup_startingPeers hkeys c)

/-- A peer as the driver writes it. -/
def written (peer : Key × Profile) : Peer := ⟨peer.1, .set peer.2⟩

theorem changePeers_written_subset {some peers : List (Key × Profile)} (hsubset : some ⊆ peers)
    (hkeys : (peers.map Prod.fst).Nodup) (hkept : ∀ p ∈ peers, Kept p.2) :
    changePeers (some.map written) peers = peers := by
  induction some with
  | nil => rfl
  | cons peer some ih =>
    obtain ⟨hpeer, hsome⟩ := List.cons_subset.mp hsubset
    show changePeers (some.map written) (changePeer peer.1 (.set peer.2) peers) = peers
    rw [changePeer_set_mem hpeer hkeys (hkept peer hpeer), ih hsome]

/-- Peers with new keys go to the end, each as the driver keeps it. -/
theorem changePeers_written_append {there peers : List (Key × Profile)}
    (hkeys : ((there ++ peers).map Prod.fst).Nodup) :
    changePeers (peers.map written) there = there ++ peers.map fun p => (p.1, stored p.2) := by
  induction peers generalizing there with
  | nil => exact (List.append_nil there).symm
  | cons peer peers ih =>
    have hfresh : peer.1 ∉ there.map Prod.fst := by
      rw [List.map_append, List.map_cons] at hkeys
      exact fun h => (List.nodup_append.mp hkeys).2.2 _ h _ List.mem_cons_self rfl
    show changePeers (peers.map written) (changePeer peer.1 (.set peer.2) there) = _
    rw [changePeer_set_fresh hfresh, ih (by simpa using hkeys), List.append_assoc,
      List.singleton_append]
    rfl

theorem map_stored_eq_self {peers : List (Key × Profile)} (hkept : ∀ p ∈ peers, Kept p.2) :
    (peers.map fun p => (p.1, stored p.2)) = peers := by
  refine (List.map_congr_left fun p hp => ?_).trans (List.map_id peers)
  rw [stored_eq_self (hkept p hp)]
  rfl

/-! ## The tunnel -/

/-- What holds of a tunnel whatever requests it has served. -/
structure WellFormed (t : Tunnel) : Prop where
  /-- No two peers have one key. -/
  keys : (t.peers.map Prod.fst).Nodup
  kept : ∀ p ∈ t.peers, Kept p.2
  replacePeers : t.interface.replacePeers = false
  /-- There is a public key exactly if there is a private key, and it is the one that goes with
  it. -/
  publicKey : t.interface.publicKey = t.interface.privateKey.map publicKeyOf

theorem WellFormed.bytes_publicKey {t : Tunnel} (h : t.WellFormed) :
    t.interface.publicKey.map Key.bytes = t.interface.privateKey.map fun k => k.bytes.reverse := by
  rw [h.publicKey, Option.map_map]
  rfl

theorem wellFormed_blank : blank.WellFormed := ⟨List.nodup_nil, by simp [blank], rfl, rfl⟩

theorem wellFormed_configure {t : Tunnel} (h : t.WellFormed) (c : Configuration) :
    (t.configure c).WellFormed := by
  have hkept : ∀ p ∈ t.startingPeers c, Kept p.2 := by
    rw [startingPeers]
    split
    · exact List.forall_mem_nil _
    · exact h.kept
  refine ⟨nodup_configure h.keys c, kept_changePeers c.peers hkept, h.replacePeers, ?_⟩
  show (c.interface.privateKey.map publicKeyOf).or t.interface.publicKey =
    (c.interface.privateKey.or t.interface.privateKey).map publicKeyOf
  rw [h.publicKey]
  cases c.interface.privateKey <;> rfl

/-- Being asked changes nothing. -/
theorem serve_get (room : Nat) (t : Tunnel) : (t.serve (.get room)).2 = t := by
  rw [serve]
  split
  · dsimp only
    split <;> rfl
  · rfl

theorem wellFormed_serve {t : Tunnel} (h : t.WellFormed) (request : Request) :
    (t.serve request).2.WellFormed := by
  cases request with
  | set buffer =>
    rw [serve]
    split
    · exact wellFormed_configure h _
    · exact h
  | get room =>
    rw [serve_get]
    exact h
  | link state => exact ⟨h.keys, h.kept, h.replacePeers, h.publicKey⟩

/-- What a tunnel says about itself changes nothing. -/
theorem configure_configuration {t : Tunnel} (h : t.WellFormed) :
    t.configure t.configuration = t := by
  have hinterface : patchInterface t.interface t.interface = t.interface := by
    rw [patchInterface, ← h.publicKey, Option.or_self, Option.or_self, Option.or_self]
  have hpeers : changePeers (t.peers.map written) t.peers = t.peers :=
    changePeers_written_subset (List.Subset.refl _) h.keys h.kept
  show (⟨patchInterface t.interface t.interface, changePeers (t.peers.map written)
    (if t.interface.replacePeers then [] else t.peers), t.up⟩ : Tunnel) = t
  rw [h.replacePeers, hinterface, if_neg Bool.false_ne_true, hpeers]

/-- What a tunnel says about its peers brings them to any tunnel that gives up its own. -/
theorem peers_configure {t : Tunnel} (h : t.WellFormed) {c : Configuration}
    (hreplace : c.interface.replacePeers = true) (hpeers : c.peers = t.peers.map written)
    (other : Tunnel) : (other.configure c).peers = t.peers := by
  have hkeys : (([] ++ t.peers).map Prod.fst).Nodup := h.keys
  rw [configure, if_pos hreplace, hpeers]
  exact (changePeers_written_append hkeys).trans (map_stored_eq_self h.kept)

end Tunnel

/-! ## The driver -/

namespace Memory

variable {m : Memory} {handle : Handle} {t : Tunnel}

/-- The driver after it has served requests, whatever it replied. -/
def after (calls : List (Handle × Request)) (m : Memory) : Memory :=
  calls.foldl (fun m call => (serve call.1 call.2 m).2) m

theorem tunnels_put_self (handle : Handle) (t : Tunnel) (m : Memory) :
    (m.put handle t).tunnels handle = some t := if_pos rfl

theorem tunnels_put_of_ne {other : Handle} (h : other ≠ handle) (t : Tunnel) (m : Memory) :
    (m.put handle t).tunnels other = m.tunnels other := if_neg h

theorem put_self (h : m.tunnels handle = some t) : m.put handle t = m := by
  have htunnels :
      (fun other => if other = handle then some t else m.tunnels other) = m.tunnels := by
    funext other
    split
    · next hother => rw [hother, h]
    · rfl
  rw [put, htunnels]

/-- One request for any tunnel, whether it is served or refused. -/
theorem wellFormed_serve (h : ∃ t, m.tunnels handle = some t ∧ t.WellFormed) (other : Handle)
    (request : Request) :
    ∃ t, (serve other request m).2.tunnels handle = some t ∧ t.WellFormed := by
  obtain ⟨t, ht, hwell⟩ := h
  cases hdeny : m.deny with
  | true =>
    rw [serve_denied hdeny]
    exact ⟨t, ht, hwell⟩
  | false =>
    cases ht' : m.tunnels other with
    | none =>
      rw [serve_unknown hdeny ht']
      exact ⟨t, ht, hwell⟩
    | some t' =>
      rw [(serve_known hdeny ht' request).2]
      by_cases hhandle : handle = other
      · subst hhandle
        cases ht.symm.trans ht'
        exact ⟨_, tunnels_put_self _ _ _, Tunnel.wellFormed_serve hwell request⟩
      · exact ⟨t, (tunnels_put_of_ne hhandle _ _).trans ht, hwell⟩

theorem wellFormed_after (h : ∃ t, m.tunnels handle = some t ∧ t.WellFormed)
    (calls : List (Handle × Request)) :
    ∃ t, (m.after calls).tunnels handle = some t ∧ t.WellFormed := by
  induction calls generalizing m with
  | nil => exact h
  | cons call calls ih => exact ih (wellFormed_serve h call.1 call.2)

theorem tunnels_serve_get (room : Nat) (m : Memory) :
    (serve handle (.get room) m).2.tunnels = m.tunnels := by
  cases hdeny : m.deny with
  | true => rw [serve_denied hdeny]
  | false =>
    cases ht : m.tunnels handle with
    | none => rw [serve_unknown hdeny ht]
    | some t => rw [(serve_known hdeny ht _).2, Tunnel.serve_get, put_self ht]

/-- A configuration that can be encoded is taken over. -/
theorem run_configure {c : Configuration} (hdeny : m.deny = false)
    (ht : m.tunnels handle = some t) (hsize : c.requestSize < 4294967296) :
    (Adapter.configure c).run serve handle m = (.ok (), m.put handle (t.configure c)) := by
  have hlength : (⟨c.layout.bytes⟩ : Wire.Buffer).size < 4294967296 := by
    rw [Wire.Buffer.size, c.length_layout]
    exact hsize
  have hdecode := Configuration.decode_layout (Configuration.countsFit_of_lt hsize)
  have hserve : serve handle (.set c.layout.bytes) m =
      (.ok ⟨UInt32.ofNat c.layout.bytes.length, []⟩, m.put handle (t.configure c)) := by
    unfold serve
    rw [if_neg (by simp [hdeny]), ht]
    dsimp only
    rw [Tunnel.serve, hdecode]
    rfl
  rw [Adapter.configure, Configuration.encode_eq hsize]
  dsimp only
  rw [Adapter.apply, Wire.Buffer.size32, if_pos hlength]
  dsimp only
  rw [Adapter.request, Dialogue.run_ask, hserve]
  rfl

end Memory

theorem asks_fetchWith (limits : Limits) (more size : Nat) :
    (fetchWith limits more size).Asks fun request => ∃ room, request = .get room := by
  induction more using Nat.strongRecOn generalizing size with
  | ind more ih =>
    rw [fetchWith]
    refine .ask ⟨size, rfl⟩ fun reply => ?_
    rcases reply with refusal | answer
    · cases refusal with
      | bufferTooSmall required =>
        cases more with
        | zero => exact .done _
        | succ more =>
          dsimp only
          split
          · exact .done _
          · exact ih more (Nat.lt_succ_self more) _
      | permissionDenied => exact .done _
      | invalidHandle => exact .done _
      | system text => exact .done _
      | driver text => exact .done _
    · dsimp only
      split <;> exact .done _

namespace Adapter

theorem asks_attempts (a : Adapter) :
    a.attempts.Asks fun request => ∃ room, request = .get room :=
  asks_fetchWith a.limits _ a.firstSize

/-- Reading changes no tunnel, and all its calls find the same ones. -/
theorem reaches_attempts (a : Adapter) (m : Memory) :
    (a.attempts.run Memory.serve a.handle m).2.tunnels = m.tunnels ∧
      (a.attempts.run Memory.serve a.handle m).2.deny = m.deny ∧
      ∃ found, (∀ s ∈ found, s.tunnels = m.tunnels ∧ s.deny = m.deny) ∧
        Dialogue.Reaches Memory.serve a.handle a.attempts found
          (.done (a.attempts.run Memory.serve a.handle m).1) := by
  have hkeep : ∀ request (s : Memory), (∃ room, request = .get room) →
      s.tunnels = m.tunnels ∧ s.deny = m.deny →
      (Memory.serve a.handle request s).2.tunnels = m.tunnels ∧
        (Memory.serve a.handle request s).2.deny = m.deny := by
    rintro request s ⟨room, rfl⟩ ⟨htunnels, hdeny⟩
    exact ⟨(Memory.tunnels_serve_get room s).trans htunnels,
      (Memory.deny_serve _ _ s).trans hdeny⟩
  obtain ⟨⟨htunnels, hdeny⟩, hfound⟩ :=
    a.asks_attempts.run_reaches hkeep (⟨rfl, rfl⟩ : m.tunnels = m.tunnels ∧ m.deny = m.deny)
  exact ⟨htunnels, hdeny, hfound⟩

/-- Reading yields what the driver has, and changes no tunnel. -/
theorem run_fetch (a : Adapter) {m : Memory} {c : Configuration}
    (h : (a.fetch.run Memory.serve a.handle m).1.1 = .ok c) :
    (a.fetch.run Memory.serve a.handle m).2.tunnels = m.tunnels ∧
      (a.fetch.run Memory.serve a.handle m).2.deny = false ∧
      ∃ t, m.tunnels a.handle = some t ∧ c = t.configuration ∧ c.requestSize < 4294967296 := by
  obtain ⟨htunnels, hdeny, found, hfound, hreaches⟩ := a.reaches_attempts m
  rw [fetch, Dialogue.run_map, a.fetchRaw_eq, Dialogue.run_map] at h ⊢
  generalize a.attempts.run Memory.serve a.handle m = ended at *
  obtain ⟨result, m'⟩ := ended
  cases result with
  | error e => exact absurd h error_ne_ok
  | ok buffer =>
    obtain ⟨s, t, hlast, hserves, ht, hsize, rfl⟩ := read_last hreaches
    obtain ⟨hsame, hsdeny⟩ := hfound s (List.mem_of_getLast? hlast)
    simp only [settle, Except.bind,
      Configuration.decode_layout (Configuration.countsFit_of_lt hsize)] at h
    cases h
    exact ⟨htunnels, hdeny.trans (hsdeny.symm.trans hserves), t, hsame ▸ ht, rfl, hsize⟩

/-- **Reading and giving back.** Whatever requests a tunnel has served since it was blank, no two of
its peers have one key, no profile keeps the flag of a request or traffic, and there is a public key
exactly if there is a private key, with its bytes in opposite order. What is read from it can be
given back to it, which changes nothing at all, and it can be given to any tunnel in place of its
peers, which then are those of the tunnel that was read. -/
theorem fetch_configure (a : Adapter) {start : Memory}
    (hblank : start.tunnels a.handle = some .blank) (calls : List (Handle × Request)) :
    let m := start.after calls
    ∃ t, m.tunnels a.handle = some t ∧
      (t.peers.map Prod.fst).Nodup ∧
      (∀ p ∈ t.peers, p.2.replaceNetworks = false ∧ p.2.traffic = .none) ∧
      t.interface.replacePeers = false ∧
      t.interface.publicKey.map Key.bytes =
        t.interface.privateKey.map (fun k => k.bytes.reverse) ∧
      ∀ (c : Configuration) (next : Adapter) (m' : Memory),
        a.fetch.run Memory.serve a.handle m = ((.ok c, next), m') →
        m'.tunnels = m.tunnels ∧
          (configure c).run Memory.serve a.handle m' = (.ok (), m') ∧
          ∀ (other : Memory) (handle : Handle) (old : Tunnel), other.deny = false →
            other.tunnels handle = some old →
            ∃ new, (configure { c with interface := { c.interface with replacePeers := true } }).run
                Memory.serve handle other = (.ok (), other.put handle new) ∧
              new.peers = t.peers := by
  intro m
  obtain ⟨t, ht, hwell⟩ := Memory.wellFormed_after ⟨_, hblank, Tunnel.wellFormed_blank⟩ calls
  refine ⟨t, ht, hwell.keys, hwell.kept, hwell.replacePeers, hwell.bytes_publicKey, ?_⟩
  intro c next m' hfetch
  have hread : (a.fetch.run Memory.serve a.handle m).1.1 = .ok c := by rw [hfetch]
  obtain ⟨htunnels, hdeny, t', ht', hc, hsize⟩ := a.run_fetch hread
  rw [hfetch] at htunnels hdeny
  cases ht.symm.trans ht'
  subst hc
  have ht'' : m'.tunnels a.handle = some t := htunnels ▸ ht
  refine ⟨htunnels, ?_, ?_⟩
  · rw [Memory.run_configure hdeny ht'' hsize, Tunnel.configure_configuration hwell,
      Memory.put_self ht'']
  · intro other handle old hother hold
    exact ⟨_, Memory.run_configure hother hold hsize, Tunnel.peers_configure hwell rfl rfl old⟩

/-- A private key, a port to listen at, and two peers. -/
def owned : Configuration :=
  { World.listening with interface := ⟨some .ascending, none, some 51820, false⟩ }

/-- Requests after which a tunnel has all of that and is up. One of them is refused. -/
def founding : List (Handle × Request) :=
  [(⟨1⟩, .set owned.layout.bytes), (⟨1⟩, .set [1, 2, 3]), (⟨1⟩, .link .up)]

/-- A driver with such a tunnel. -/
def owner : Memory := (Memory.empty.put ⟨1⟩ .blank).after founding

def reader : Adapter := make ⟨1⟩ .standard

theorem fetch_configure_owned :
    ∃ t c next m', owner.tunnels reader.handle = some t ∧
      t.interface.privateKey = some .ascending ∧
      t.interface.publicKey.map Key.bytes = some ((List.range 32).reverse.map UInt8.ofNat) ∧
      reader.fetch.run Memory.serve reader.handle owner = ((.ok c, next), m') ∧
      c.peers = World.listening.peers ∧
      (configure c).run Memory.serve reader.handle m' = (.ok (), m') := by
  have hread : (reader.fetch.run Memory.serve reader.handle owner).1.1 =
      .ok { owned with interface := Tunnel.patchInterface .blank owned.interface } := by
    decide +kernel
  have hfetch : reader.fetch.run Memory.serve reader.handle owner = ((.ok _, _), _) :=
    Prod.ext (Prod.ext hread rfl) rfl
  have hprivate : (owner.tunnels reader.handle).map (·.interface.privateKey) =
      some (some .ascending) := by
    decide +kernel
  have hblank : (Memory.empty.put ⟨1⟩ .blank).tunnels reader.handle = some .blank := rfl
  obtain ⟨t, ht, -, -, -, hpublic, hback⟩ := fetch_configure reader hblank founding
  rw [← owner] at ht hback
  rw [ht, Option.map_some, Option.some.injEq] at hprivate
  rw [hprivate] at hpublic
  exact ⟨t, _, _, _, ht, hprivate, hpublic, hfetch, rfl, (hback _ _ _ hfetch).2.1⟩

end Adapter

end TunnelConfig.Driver
