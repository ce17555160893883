import TunnelConfig.Proofs.Tunnels

/-!
# Replacing all peers and reading back

**Theorem (`fetch_replaced`).** Whatever a tunnel has been through since it was blank, a request
that replaces its peers by new ones is taken over, and reading it back gives these peers, in the
order of the request and as a driver keeps them, next to what the request gives for the interface
and, where it gives nothing, what was there before.

The peers of the request find none in their way, so each one goes to the end
(`configure_replacing`). A tunnel whose configuration the adapter has room for is read, whatever
size the adapter starts with (`run_fetch_of_hasRoom`).
-/

namespace TunnelConfig.Driver

namespace Tunnel

/-- A peer as it is read back after a request has set it. -/
def kept (peer : Key × Profile) : Peer :=
  ⟨peer.1, .set { peer.2 with replaceNetworks := false, traffic := .none }⟩

/-- A request that sets peers in place of those that are there. -/
theorem configure_replacing (t : Tunnel) {i : Interface} (hreplace : i.replacePeers = true)
    {peers : List (Key × Profile)} (hkeys : (peers.map Prod.fst).Nodup) :
    (t.configure ⟨i, peers.map written⟩).configuration =
      ⟨patchInterface t.interface i, peers.map kept⟩ := by
  have hpeers : (t.configure ⟨i, peers.map written⟩).peers =
      peers.map fun p => (p.1, stored p.2) := by
    have hnone : t.startingPeers ⟨i, peers.map written⟩ = [] := if_pos hreplace
    have hkeys' : (([] ++ peers).map Prod.fst).Nodup := hkeys
    rw [peers_configure_eq, hnone]
    exact changePeers_written_append hkeys'
  rw [configuration, hpeers, List.map_map]
  rfl

end Tunnel

theorem Memory.deny_after (calls : List (Handle × Request)) (m : Memory) :
    (m.after calls).deny = m.deny := by
  induction calls generalizing m with
  | nil => rfl
  | cons call calls ih => exact (ih _).trans (deny_serve _ _ m)

namespace Adapter

/-- Reading with enough room, at the start or in a second attempt. -/
theorem run_fetch_of_hasRoom (a : Adapter) {m : Memory} {t : Tunnel} (hdeny : m.deny = false)
    (ht : m.tunnels a.handle = some t) (hsize : t.configuration.requestSize < 4294967296)
    (hroom : a.HasRoom t.configuration.requestSize) :
    ∃ m', a.fetch.run Memory.serve a.handle m =
        ((.ok t.configuration, a.remember t.configuration.layout.bytes), m') ∧
      m'.tunnels = m.tunnels := by
  obtain ⟨htunnels, -, found, hfound, hreaches⟩ := a.reaches_attempts m
  have hreply : ∀ s ∈ found, ∀ room,
      (Memory.serve a.handle (.get room) s).1 = replyWith t.configuration room := by
    intro s hs room
    obtain ⟨hsame, hserves⟩ := hfound s hs
    refine Memory.reply_get (hserves.trans hdeny) ?_ hsize
    rw [hsame, ht]
    rfl
  have hmore : 0 < max a.limits.maxAttempts.toNat 1 - 1 ↔ 2 ≤ a.limits.maxAttempts.toNat := by
    omega
  obtain ⟨-, -, hresult⟩ := read_steady hsize hreply hreaches
  have hread := hresult _ rfl
  rw [hmore] at hread
  rcases hread with ⟨hread, -⟩ | ⟨-, hshort⟩
  · refine ⟨(a.attempts.run Memory.serve a.handle m).2, ?_, htunnels⟩
    rw [fetch, Dialogue.run_map, a.fetchRaw_eq, Dialogue.run_map, hread]
    simp only [settle, Except.bind,
      Configuration.decode_layout (Configuration.countsFit_of_lt hsize)]
    rfl
  · exact absurd hroom hshort

/-- **Replacing and reading back.** Whatever requests a tunnel has served since it was blank, it
takes over a request that gives other peers in place of its own, no two of them with one key. If
the adapter may make two attempts and what there is then is not too large for it, it reads, with
whatever size it starts, the peers of the request in their order, without the flag of the request
and without traffic, and the interface with what the request gives and otherwise as it was. -/
theorem fetch_replaced (a : Adapter) {start : Memory} (hdeny : start.deny = false)
    (hblank : start.tunnels a.handle = some .blank) (calls : List (Handle × Request))
    {i : Interface} (hreplace : i.replacePeers = true) {peers : List (Key × Profile)}
    (hkeys : (peers.map Prod.fst).Nodup)
    (hrequest : (⟨i, peers.map Tunnel.written⟩ : Configuration).requestSize ≤ 4294967295)
    (hattempts : 2 ≤ a.limits.maxAttempts.toNat) :
    let m := start.after calls
    ∃ t replaced, m.tunnels a.handle = some t ∧
      (configure ⟨i, peers.map Tunnel.written⟩).run Memory.serve a.handle m =
        (.ok (), m.put a.handle replaced) ∧
      (replaced.configuration.requestSize ≤ min a.limits.maxSize.toNat 4294967295 →
        ∃ c next m', a.fetch.run Memory.serve a.handle (m.put a.handle replaced) =
            ((.ok c, next), m') ∧
          m'.tunnels = (m.put a.handle replaced).tunnels ∧
          c.peers = peers.map Tunnel.kept ∧
          c.interface.privateKey = i.privateKey.or t.interface.privateKey ∧
          c.interface.publicKey.map Key.bytes =
            c.interface.privateKey.map (fun k => k.bytes.reverse) ∧
          c.interface.listenPort = i.listenPort.or t.interface.listenPort ∧
          c.interface.replacePeers = false) := by
  intro m
  have hserves : m.deny = false := (Memory.deny_after calls start).trans hdeny
  obtain ⟨t, ht, hwell⟩ := Memory.wellFormed_after ⟨_, hblank, Tunnel.wellFormed_blank⟩ calls
  have hreplaced := t.configure_replacing hreplace hkeys
  have hwell' := Tunnel.wellFormed_configure hwell ⟨i, peers.map Tunnel.written⟩
  have hrun := Memory.run_configure hserves ht (Nat.lt_succ_of_le hrequest)
  generalize t.configure ⟨i, peers.map Tunnel.written⟩ = replaced at *
  refine ⟨t, replaced, ht, hrun, fun hsize => ?_⟩
  obtain ⟨hmax, hfits⟩ := Nat.le_min.mp hsize
  have hthere := Memory.tunnels_put_self a.handle replaced m
  have hstill : (m.put a.handle replaced).deny = false := hserves
  obtain ⟨m', hfetch, htunnels⟩ := a.run_fetch_of_hasRoom hstill hthere
    (Nat.lt_succ_of_le hfits) (.inr ⟨hmax, hattempts⟩)
  obtain ⟨hinterface, hpeers⟩ := Configuration.mk.inj hreplaced
  refine ⟨_, _, m', hfetch, htunnels, hpeers, ?_, hwell'.bytes_publicKey, ?_, hwell'.replacePeers⟩
  · exact congrArg Interface.privateKey hinterface
  · exact congrArg Interface.listenPort hinterface

/-- An interface with a new private key, whose peers take the place of all others. -/
def rekeyed : Interface := ⟨some .ascending, none, none, true⟩

/-- A peer with everything that is not kept, and one without any settings. -/
def newcomers : List (Key × Profile) :=
  [(.filled 2, ⟨some (.filled 3), some 25, some (.v4 ⟨203, 0, 113, 7⟩ 51820), true,
    [⟨.v4 ⟨172, 16, 0, 0⟩, 12, by decide⟩], ⟨1, 2, 3⟩⟩), (.filled 1, .blank)]

/-- Requests after which a tunnel listens at a port and is up. One of them is refused. -/
def earlier : List (Handle × Request) :=
  [(⟨1⟩, .set World.listening.layout.bytes), (⟨1⟩, .set [1, 2, 3]), (⟨1⟩, .link .up)]

/-- A driver with such a tunnel. -/
def listener : Memory := (Memory.empty.put ⟨1⟩ .blank).after earlier

/-- An adapter that remembers a size of one byte. -/
def forgetful : Adapter := ⟨⟨1⟩, ⟨512, 2, 4096⟩, some 1⟩

theorem fetch_replaced_newcomers :
    (newcomers.map Prod.fst).Nodup ∧
    ∃ m c next m', (configure ⟨rekeyed, newcomers.map Tunnel.written⟩).run Memory.serve
        forgetful.handle listener = (.ok (), m) ∧
      forgetful.fetch.run Memory.serve forgetful.handle m = ((.ok c, next), m') ∧
      c.peers = newcomers.map Tunnel.kept ∧
      c.interface.privateKey = some .ascending ∧
      c.interface.publicKey.map Key.bytes = some ((List.range 32).reverse.map UInt8.ofNat) ∧
      c.interface.listenPort = some 51820 ∧ c.interface.replacePeers = false := by
  have hkeys : (newcomers.map Prod.fst).Nodup := by decide
  have hport : (listener.tunnels forgetful.handle).map (·.interface.listenPort) =
      some (some 51820) := by
    decide +kernel
  have hsize : (((configure ⟨rekeyed, newcomers.map Tunnel.written⟩).run Memory.serve
      forgetful.handle listener).2.tunnels forgetful.handle).map
        (·.configuration.requestSize) = some 376 := by
    decide +kernel
  have hblank : (Memory.empty.put ⟨1⟩ .blank).tunnels forgetful.handle = some .blank := rfl
  have hreplace : rekeyed.replacePeers = true := rfl
  obtain ⟨t, replaced, ht, hrun, hread⟩ := fetch_replaced forgetful rfl hblank earlier hreplace
    hkeys (by decide +kernel) (by decide)
  rw [← listener] at ht hrun hread
  rw [ht, Option.map_some, Option.some.injEq] at hport
  rw [hrun, Memory.tunnels_put_self, Option.map_some, Option.some.injEq] at hsize
  obtain ⟨c, next, m', hfetch, -, hpeers, hprivate, hpublic, hlisten, hcleared⟩ :=
    hread (by rw [hsize]; decide)
  rw [hport] at hlisten
  rw [hprivate] at hpublic
  exact ⟨hkeys, _, c, next, m', hrun, hfetch, hpeers, hprivate, hpublic, hlisten, hcleared⟩

end Adapter

end TunnelConfig.Driver
