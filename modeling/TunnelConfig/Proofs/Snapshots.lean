import TunnelConfig.Driver.Memory
import TunnelConfig.Proofs.Clients
import TunnelConfig.Proofs.Encoding
import TunnelConfig.Proofs.Fetching

/-!
# Reading amid other calls

**Theorem (`fetch_snapshot`).** A configuration that a client reads is what the driver had at the
last call of the reading, whatever other clients did before that call and between the calls. If the
configuration stays the same from the first call to the last, reading takes at most two calls and
fails only for want of room or attempts, and the next reading takes a single one.

A driver in memory answers with the request for what it has, whole or not at all (`reply_get`), and
the buffer that is offered holds nothing from earlier calls. So the last answer decodes to what was
there when it was given (`read_last`), by the round trip of encoding and decoding.

As long as the configuration stays the same, the second call offers exactly the size that the first
one was told (`nextSize_steady`), so there is no third one.
-/

namespace TunnelConfig

open Wire

theorem Configuration.encode_eq_ok_iff {c : Configuration} {buffer : Buffer} :
    c.encode = .ok buffer ↔ c.requestSize < 4294967296 ∧ buffer = ⟨c.layout.bytes⟩ := by
  by_cases hsize : c.requestSize < 4294967296
  · rw [encode_eq hsize]
    exact ⟨fun h => ⟨hsize, (Except.ok.inj h).symm⟩, fun h => congrArg Except.ok h.2.symm⟩
  · refine iff_of_false (fun h => ?_) fun h => hsize h.1
    obtain ⟨b, hb, -⟩ := bind_eq_ok_iff.mp h
    obtain ⟨count, -, hb⟩ := bind_eq_ok_iff.mp hb
    rw [if_neg hsize] at hb
    exact error_ne_ok hb

namespace Driver

/-! ## Answers of a driver in memory -/

/-- What a tunnel holds, as a configuration: its interface, and its peers, each of them set, in the
order in which they are kept. -/
def Tunnel.Holds (t : Tunnel) (c : Configuration) : Prop :=
  c.interface = t.interface ∧ c.peers = t.peers.map fun p => ⟨p.1, .set p.2⟩

theorem Tunnel.map_configuration_eq_iff {found : Option Tunnel} {c : Configuration} :
    found.map configuration = some c ↔ ∃ t, found = some t ∧ t.Holds c := by
  rw [Option.map_eq_some_iff]
  refine exists_congr fun t => and_congr_right fun _ => ?_
  constructor
  · rintro rfl
    exact ⟨rfl, rfl⟩
  · rintro ⟨hinterface, hpeers⟩
    exact Configuration.mk.injEq .. |>.mpr ⟨hinterface.symm, hpeers.symm⟩

/-- The answer with the request for a configuration. -/
def Answer.whole (c : Configuration) : Answer := ⟨UInt32.ofNat c.requestSize, c.layout.bytes⟩

theorem Answer.reported_whole {c : Configuration} (h : c.requestSize < 4294967296) :
    (whole c).reported.toNat = c.requestSize := by
  rw [whole, UInt32.toNat_ofNat']
  exact Nat.mod_eq_of_lt h

theorem Answer.taken_whole (c : Configuration) {room : Nat} (h : c.requestSize ≤ room) :
    (whole c).taken room c.requestSize = c.layout.bytes := by
  have hroom : c.layout.bytes.take room = c.layout.bytes :=
    List.take_of_length_le (c.length_layout ▸ h)
  have hall : c.layout.bytes.take c.requestSize = c.layout.bytes :=
    List.take_of_length_le (Nat.le_of_eq c.length_layout)
  show (c.layout.bytes.take room).take c.requestSize ++
    Bytes.zeros (c.requestSize - ((c.layout.bytes.take room).take c.requestSize).length) = _
  rw [hroom, hall, c.length_layout, Nat.sub_self]
  exact List.append_nil _

/-- What a driver replies that has a configuration. -/
def replyWith (c : Configuration) (room : Nat) : Reply :=
  if room < c.requestSize then .error (.bufferTooSmall (UInt32.ofNat c.requestSize))
  else .ok (.whole c)

namespace Memory

variable {m : Memory} {handle : Handle} {room : Nat}

theorem serve_denied (h : m.deny = true) (handle : Handle) (request : Request) :
    serve handle request m = (.error .permissionDenied, m) := if_pos h

theorem serve_unknown (hdeny : m.deny = false) (h : m.tunnels handle = none) (request : Request) :
    serve handle request m = (.error .invalidHandle, m) := by
  unfold serve
  rw [if_neg (by simp [hdeny]), h]

/-- What serving a request for a known tunnel leaves, up to the count of the readings. -/
theorem serve_known (hdeny : m.deny = false) {t : Tunnel} (h : m.tunnels handle = some t)
    (request : Request) :
    (serve handle request m).1 = (t.serve request).1 ∧
      (serve handle request m).2.tunnels = (m.put handle (t.serve request).2).tunnels := by
  unfold serve
  rw [if_neg (by simp [hdeny]), h]
  exact ⟨rfl, rfl⟩

theorem reply_get {c : Configuration} (hdeny : m.deny = false)
    (hc : (m.tunnels handle).map Tunnel.configuration = some c)
    (hsize : c.requestSize < 4294967296) :
    (serve handle (.get room) m).1 = replyWith c room := by
  obtain ⟨t, ht, rfl⟩ := Option.map_eq_some_iff.mp hc
  have hbuffer : (⟨t.configuration.layout.bytes⟩ : Buffer).size = t.configuration.requestSize :=
    t.configuration.length_layout
  rw [(serve_known hdeny ht _).1, Tunnel.serve, Configuration.encode_eq hsize, replyWith]
  simp only [hbuffer]
  split <;> rfl

/-- A driver that answers gives the whole request for what it has. -/
theorem of_reply_get {answer : Answer} (h : (serve handle (.get room) m).1 = .ok answer) :
    m.deny = false ∧ ∃ t, m.tunnels handle = some t ∧ t.configuration.requestSize < 4294967296 ∧
      t.configuration.requestSize ≤ room ∧ answer = .whole t.configuration := by
  cases hdeny : m.deny with
  | true =>
    rw [serve_denied hdeny] at h
    exact absurd h error_ne_ok
  | false =>
    cases ht : m.tunnels handle with
    | none =>
      rw [serve_unknown hdeny ht] at h
      exact absurd h error_ne_ok
    | some t =>
      have hsize : t.configuration.requestSize < 4294967296 := by
        cases hencode : t.configuration.encode with
        | ok buffer => exact (Configuration.encode_eq_ok_iff.mp hencode).1
        | error e =>
          rw [(serve_known hdeny ht _).1, Tunnel.serve, hencode] at h
          exact absurd h error_ne_ok
      rw [reply_get hdeny (by rw [ht]; rfl) hsize, replyWith] at h
      split at h
      · exact absurd h error_ne_ok
      · next hroom =>
        exact ⟨rfl, t, rfl, hsize, Nat.le_of_not_lt hroom, (Except.ok.inj h).symm⟩

theorem deny_serve (handle : Handle) (request : Request) (m : Memory) :
    (serve handle request m).2.deny = m.deny := by
  unfold serve
  split
  · rfl
  · cases m.tunnels handle <;> rfl

end Memory

/-! ## The last call -/

section Reading

variable {handle : Handle} {limits : Limits} {found : List Memory}

/-- Whatever the calls found before, the last one found what was read. -/
theorem read_last {more size : Nat} {buffer : Bytes}
    (h : Dialogue.Reaches Memory.serve handle (fetchWith limits more size) found
      (.done (.ok buffer))) :
    ∃ m t, found.getLast? = some m ∧ m.deny = false ∧ m.tunnels handle = some t ∧
      t.configuration.requestSize < 4294967296 ∧ buffer = t.configuration.layout.bytes := by
  induction more using Nat.strongRecOn generalizing size found with
  | ind more ih =>
    rw [fetchWith] at h
    cases h with
    | @call _ _ m later _ h =>
      cases hreply : (Memory.serve handle (.get size) m).1 with
      | ok answer =>
        obtain ⟨hdeny, t, ht, hsize, hroom, rfl⟩ := Memory.of_reply_get hreply
        rw [hreply] at h
        simp only [Answer.reported_whole hsize, if_neg (Nat.not_lt_of_le hroom),
          Answer.taken_whole _ hroom] at h
        obtain ⟨rfl, hdone⟩ := h.of_done
        cases hdone
        exact ⟨m, t, rfl, hdeny, ht, hsize, rfl⟩
      | error refusal =>
        rw [hreply] at h
        cases refusal with
        | bufferTooSmall required =>
          cases more with
          | zero => cases h.of_done.2
          | succ more =>
            simp only at h
            split at h
            · cases h.of_done.2
            · obtain ⟨m', t, hlast, hm⟩ := ih more (Nat.lt_succ_self more) h
              refine ⟨m', t, ?_, hm⟩
              rw [List.getLast?_cons, hlast]
              rfl
        | permissionDenied => cases h.of_done.2
        | invalidHandle => cases h.of_done.2
        | system text => cases h.of_done.2
        | driver text => cases h.of_done.2

/-! ## A configuration that stays the same -/

/-- The size that the driver requires is the next one to be offered. -/
theorem nextSize_steady {c : Configuration} (hsize : c.requestSize < 4294967296) {size : Nat}
    (h : size < c.requestSize) :
    nextSize size (UInt32.ofNat c.requestSize).toNat = c.requestSize := by
  have hrequired : (UInt32.ofNat c.requestSize).toNat = c.requestSize := by
    rw [UInt32.toNat_ofNat']
    exact Nat.mod_eq_of_lt hsize
  have hgreatest : size + 1 ≤ greatestSize := by
    rw [greatestSize]
    omega
  rw [nextSize, hrequired, Nat.min_eq_left hgreatest]
  exact Nat.max_eq_left h

variable {c : Configuration} {more size : Nat} {d : Dialogue (Except Error Bytes)}

/-- Reading with enough room takes one call. -/
theorem read_enough (hsize : c.requestSize < 4294967296)
    (hreply : ∀ m ∈ found, ∀ room, (Memory.serve handle (.get room) m).1 = replyWith c room)
    (hroom : c.requestSize ≤ size)
    (h : Dialogue.Reaches Memory.serve handle (fetchWith limits more size) found d) :
    found = [] ∧ d.isDone = false ∨ found.length = 1 ∧ d = .done (.ok c.layout.bytes) := by
  rw [fetchWith] at h
  cases h with
  | still => exact .inl ⟨rfl, rfl⟩
  | @call _ _ m later _ h =>
    rw [hreply m List.mem_cons_self size, replyWith, if_neg (Nat.not_lt_of_le hroom)] at h
    simp only [Answer.reported_whole hsize, if_neg (Nat.not_lt_of_le hroom),
      Answer.taken_whole _ hroom] at h
    obtain ⟨rfl, rfl⟩ := h.of_done
    exact .inr ⟨rfl, rfl⟩

/-- Reading takes at most two calls and fails only for want of room or attempts. -/
theorem read_steady (hsize : c.requestSize < 4294967296)
    (hreply : ∀ m ∈ found, ∀ room, (Memory.serve handle (.get room) m).1 = replyWith c room)
    (h : Dialogue.Reaches Memory.serve handle (fetchWith limits more size) found d) :
    found.length ≤ 2 ∧ (d.isDone = false → found.length ≤ 1) ∧
      ∀ result, d = .done result →
        result = .ok c.layout.bytes ∧
            (c.requestSize ≤ size ∨ c.requestSize ≤ limits.maxSize.toNat ∧ 0 < more) ∨
          (∃ e, result = .error e) ∧
            ¬(c.requestSize ≤ size ∨ c.requestSize ≤ limits.maxSize.toNat ∧ 0 < more) := by
  by_cases hroom : c.requestSize ≤ size
  · rcases read_enough hsize hreply hroom h with ⟨rfl, hbusy⟩ | ⟨hlength, rfl⟩
    · refine ⟨by simp, by simp, ?_⟩
      rintro result rfl
      cases hbusy
    · refine ⟨by omega, by simp [hlength], ?_⟩
      rintro result hresult
      exact .inl ⟨(Dialogue.done.inj hresult).symm, .inl hroom⟩
  · have hsmall : size < c.requestSize := Nat.lt_of_not_le hroom
    rw [fetchWith] at h
    cases h with
    | still => exact ⟨by simp, by simp, by rintro result ⟨⟩⟩
    | @call _ _ m later _ h =>
      rw [hreply m List.mem_cons_self size, replyWith, if_pos hsmall] at h
      cases more with
      | zero =>
        obtain ⟨rfl, rfl⟩ := h.of_done
        refine ⟨by simp, by simp, ?_⟩
        rintro result hresult
        exact .inr ⟨⟨_, (Dialogue.done.inj hresult).symm⟩, by omega⟩
      | succ more =>
        simp only [nextSize_steady hsize hsmall] at h
        by_cases hlimit : limits.maxSize.toNat < c.requestSize
        · rw [if_pos hlimit] at h
          obtain ⟨rfl, rfl⟩ := h.of_done
          refine ⟨by simp, by simp, ?_⟩
          rintro result hresult
          exact .inr ⟨⟨_, (Dialogue.done.inj hresult).symm⟩, by omega⟩
        -- The second call offers what the first one was told.
        · rw [if_neg hlimit] at h
          have hlater : ∀ m ∈ later, ∀ room,
              (Memory.serve handle (.get room) m).1 = replyWith c room :=
            fun m hm => hreply m (List.mem_cons_of_mem _ hm)
          rcases read_enough hsize hlater (Nat.le_refl _) h with ⟨rfl, hbusy⟩ | ⟨hlength, rfl⟩
          · refine ⟨by simp, by simp, ?_⟩
            rintro result rfl
            cases hbusy
          · refine ⟨by simp [hlength], by simp [Dialogue.isDone], ?_⟩
            rintro result hresult
            exact .inl ⟨(Dialogue.done.inj hresult).symm, by omega⟩

end Reading

/-! ## Clients of a driver in memory -/

/-- The calls of a reading, to which the adapter adds what it makes of the result. -/
def Adapter.attempts (a : Adapter) : Dialogue (Except Error Bytes) :=
  fetchWith a.limits (max a.limits.maxAttempts.toNat 1 - 1) a.firstSize

theorem Adapter.fetchRaw_eq (a : Adapter) : a.fetchRaw = a.attempts.map a.settle := rfl

/-- What a client has after it read the configuration as the driver wrote it. -/
def Adapter.conclude (a : Adapter) (result : Except Error Bytes) : Option Outcome × Adapter :=
  (some (.configuration (result.bind fun buffer => (Configuration.decode buffer).mapError .wire)),
    (a.settle result).2)

theorem Adapter.conclude_layout (a : Adapter) {c : Configuration}
    (hsize : c.requestSize < 4294967296) :
    a.conclude (.ok c.layout.bytes) =
      (some (.configuration (.ok c)), a.remember c.layout.bytes) := by
  show (some (Outcome.configuration ((Configuration.decode c.layout.bytes).mapError .wire)), _) = _
  rw [Configuration.decode_layout (Configuration.countsFit_of_lt hsize)]
  rfl

/-- A configuration of that size can be read, at once or in a second attempt. -/
def Adapter.HasRoom (a : Adapter) (size : Nat) : Prop :=
  size ≤ a.firstSize ∨ size ≤ a.limits.maxSize.toNat ∧ 2 ≤ a.limits.maxAttempts.toNat

theorem dialogue_fetch (a : Adapter) :
    ((Operation.dialogue a .fetch).map fun (outcome, a) => (some outcome, a)) =
      a.attempts.map a.conclude := by
  rw [Operation.dialogue, Adapter.fetch, Dialogue.map_map, Dialogue.map_map, a.fetchRaw_eq,
    Dialogue.map_map]
  refine congrArg (Dialogue.map · _) (funext fun result => ?_)
  cases result <;> rfl

namespace World

variable {ι : Type} [DecidableEq ι] {w : World ι Memory} {i : ι} {a : Adapter}
  {last : Option Outcome} {es : List (Event ι)}

/-- What a reading comes to, in terms of the calls that are made for it. -/
theorem reaches_fetch (hidle : w.clients i = .idle a last) (hes : ∀ o, .start i o ∉ es) :
    ∃ d, Dialogue.Reaches Memory.serve a.handle a.attempts
        ((w.step Memory.serve (.start i .fetch)).found Memory.serve i es) d ∧
      (((w.step Memory.serve (.start i .fetch)).run Memory.serve es).clients i).task =
        d.map a.conclude ∧
      (d.isDone = true ∨
        ((w.step Memory.serve (.start i .fetch)).found Memory.serve i es).length =
          es.count (.call i)) := by
  obtain ⟨hclient, -⟩ := step_start_idle Memory.serve hidle .fetch
  obtain ⟨hreaches, -, hcount⟩ :=
    reaches_found Memory.serve i (w.step Memory.serve (.start i .fetch)) hes
  rw [hclient, dialogue_fetch] at hreaches
  obtain ⟨d, hd, htask⟩ := hreaches.of_map
  refine ⟨d, hd, htask, hcount.imp_left fun hdone => ?_⟩
  rw [htask] at hdone
  cases d with
  | done result => rfl
  | ask request next => cases hdone

/-- A reading that ends has read the request for what it yields. -/
theorem of_conclude_eq_ok {result : Except Error Bytes} {c : Configuration} {next : Adapter}
    (h : a.conclude result = (some (.configuration (.ok c)), next)) :
    ∃ buffer, result = .ok buffer ∧ Configuration.decode buffer = .ok c ∧
      next = a.remember buffer := by
  obtain ⟨houtcome, hnext⟩ := Prod.ext_iff.mp h
  have hresult : result.bind (fun buffer => (Configuration.decode buffer).mapError .wire) =
      .ok c := by
    injection houtcome with houtcome
    injection houtcome
  cases result with
  | error e => exact absurd hresult error_ne_ok
  | ok buffer =>
    change (Configuration.decode buffer).mapError Error.wire = .ok c at hresult
    cases hdecode : Configuration.decode buffer with
    | error e =>
      rw [hdecode] at hresult
      exact absurd hresult error_ne_ok
    | ok d =>
      rw [hdecode] at hresult
      cases hresult
      exact ⟨buffer, rfl, hdecode, hnext.symm⟩

/-- A driver that serves requests goes on serving them. -/
theorem deny_run (hidle : w.clients i = .idle a last) (hdeny : w.driver.deny = false) :
    ((w.step Memory.serve (.start i .fetch)).run Memory.serve es).driver.deny = false ∧
      ∀ m ∈ (w.step Memory.serve (.start i .fetch)).found Memory.serve i es, m.deny = false := by
  have hdriver : (w.step Memory.serve (.start i .fetch)).driver.deny = false := by
    rw [(step_start_idle Memory.serve hidle .fetch).2, hdeny]
  have hkeep : ∀ handle request (m : Memory), m.deny = false →
      (Memory.serve handle request m).2.deny = false := fun handle request m hm => by
    rw [Memory.deny_serve, hm]
  exact run_keeps Memory.serve i hkeep hdriver es

/-- All calls get the same reply if they find the same configuration. -/
theorem reply_steady (hidle : w.clients i = .idle a last) (hdeny : w.driver.deny = false)
    {c : Configuration} (hsize : c.requestSize < 4294967296)
    (hfound : ∀ m ∈ (w.step Memory.serve (.start i .fetch)).found Memory.serve i es,
      (m.tunnels a.handle).map Tunnel.configuration = some c) :
    ∀ m ∈ (w.step Memory.serve (.start i .fetch)).found Memory.serve i es, ∀ room,
      (Memory.serve a.handle (.get room) m).1 = replyWith c room :=
  fun m hm _ => Memory.reply_get ((deny_run hidle hdeny).2 m hm) (hfound m hm) hsize

/-- Until the next reading starts, a client waits with what it remembers. -/
theorem idle_after (hidle : w.clients i = .idle a last) (hes : ∀ o, .start i o ∉ es)
    {outcome : Option Outcome} {next : Adapter}
    (hdone : (((w.step Memory.serve (.start i .fetch)).run Memory.serve es).clients i).task =
      .done (outcome, next))
    (hnext : next.handle = a.handle) {between : List (Event ι)}
    (hbetween : ∀ o, .start i o ∉ between) :
    ((w.step Memory.serve (.start i .fetch)).run Memory.serve (es ++ between)).clients i =
      .idle next outcome := by
  obtain ⟨-, hhandle, -⟩ :=
    reaches_found Memory.serve i (w.step Memory.serve (.start i .fetch)) hes
  rw [(step_start_idle Memory.serve hidle .fetch).1] at hhandle
  rw [run_append, clients_run_done Memory.serve hdone hbetween]
  exact Client.eq_idle (hhandle.trans hnext.symm) hdone

/-- Whatever the calls found before, the last one found what was read. -/
theorem fetch_last (hidle : w.clients i = .idle a last) (hes : ∀ o, .start i o ∉ es)
    {c : Configuration} {next : Adapter}
    (hdone : (((w.step Memory.serve (.start i .fetch)).run Memory.serve es).clients i).task =
      .done (some (.configuration (.ok c)), next)) :
    ∃ m t, ((w.step Memory.serve (.start i .fetch)).found Memory.serve i es).getLast? = some m ∧
      m.tunnels a.handle = some t ∧ c = t.configuration := by
  obtain ⟨d, hreaches, htask, -⟩ := reaches_fetch hidle hes
  obtain ⟨result, rfl, hresult⟩ := Dialogue.map_eq_done (htask.symm.trans hdone)
  obtain ⟨buffer, rfl, hdecode, -⟩ := of_conclude_eq_ok hresult
  obtain ⟨m, t, hlast, -, ht, hsize, rfl⟩ := read_last hreaches
  rw [Configuration.decode_layout (Configuration.countsFit_of_lt hsize)] at hdecode
  exact ⟨m, t, hlast, ht, (Except.ok.inj hdecode).symm⟩

section Steady

variable (hidle : w.clients i = .idle a last) (hes : ∀ o, .start i o ∉ es)
  (hdeny : w.driver.deny = false) {c : Configuration} (hsize : c.requestSize < 4294967296)
  (hfound : ∀ m ∈ (w.step Memory.serve (.start i .fetch)).found Memory.serve i es,
    (m.tunnels a.handle).map Tunnel.configuration = some c)

include hidle hes hdeny hsize hfound

/-- If all calls find the same configuration, two are enough. -/
theorem fetch_steady :
    ((w.step Memory.serve (.start i .fetch)).found Memory.serve i es).length ≤ 2 ∧
    (2 ≤ es.count (.call i) → ∃ result next,
      (((w.step Memory.serve (.start i .fetch)).run Memory.serve es).clients i).task =
        .done (some (.configuration result), next)) ∧
    ∀ result next,
      (((w.step Memory.serve (.start i .fetch)).run Memory.serve es).clients i).task =
        .done (some (.configuration result), next) →
      result = .ok c ∧ next = a.remember c.layout.bytes ∧ a.HasRoom c.requestSize ∨
        (∃ e, result = .error e) ∧ ¬a.HasRoom c.requestSize := by
  obtain ⟨d, hreaches, htask, hcount⟩ := reaches_fetch hidle hes
  obtain ⟨hlength, hbusy, hresult⟩ :=
    read_steady hsize (reply_steady hidle hdeny hsize hfound) hreaches
  refine ⟨hlength, ?_, ?_⟩
  · intro htwo
    have hdone : d.isDone = true := by
      rcases hcount with hdone | hcount
      · exact hdone
      · by_contra hne
        have := hbusy (Bool.eq_false_iff.mpr hne)
        omega
    obtain ⟨result, rfl⟩ := Dialogue.exists_of_isDone hdone
    exact ⟨_, _, htask⟩
  · intro result next hdone
    obtain ⟨read, rfl, hread⟩ := Dialogue.map_eq_done (htask.symm.trans hdone)
    have hmore : 0 < max a.limits.maxAttempts.toNat 1 - 1 ↔ 2 ≤ a.limits.maxAttempts.toNat := by
      omega
    have hroom := hresult read rfl
    rw [hmore] at hroom
    rcases hroom with ⟨rfl, henough⟩ | ⟨⟨e, rfl⟩, hshort⟩
    · left
      rw [a.conclude_layout hsize] at hread
      cases hread
      exact ⟨rfl, rfl, henough⟩
    · right
      cases hread
      exact ⟨⟨e, rfl⟩, hshort⟩

/-- If the configuration fits into the first offer, one call is enough. -/
theorem fetch_enough (hroom : c.requestSize ≤ a.firstSize) (hcall : .call i ∈ es) :
    ((w.step Memory.serve (.start i .fetch)).found Memory.serve i es).length = 1 ∧
      ∃ next, (((w.step Memory.serve (.start i .fetch)).run Memory.serve es).clients i).task =
        .done (some (.configuration (.ok c)), next) := by
  obtain ⟨d, hreaches, htask, hcount⟩ := reaches_fetch hidle hes
  rcases read_enough hsize (reply_steady hidle hdeny hsize hfound) hroom hreaches with
    ⟨hnone, hbusy⟩ | ⟨hone, rfl⟩
  · have hpos : 0 < es.count (.call i) := List.count_pos_iff.mpr hcall
    rw [hbusy, hnone, List.length_nil] at hcount
    rcases hcount with hdone | hzero
    · cases hdone
    · omega
  · exact ⟨hone, _, htask.trans (congrArg Dialogue.done (a.conclude_layout hsize))⟩

end Steady

theorem firstSize_remember {c : Configuration} (h : c.requestSize ≤ a.limits.maxSize.toNat) :
    c.requestSize ≤ (a.remember c.layout.bytes).firstSize := by
  have hpos : c.layout.bytes.length ≠ 0 := by
    have := c.length_peers_lt
    rw [c.length_layout]
    omega
  rw [Adapter.firstSize, a.sizeHint_remember, if_neg hpos, c.length_layout]
  exact Nat.le_min.mpr ⟨Nat.le_refl _, h⟩

/-- **Reading amid other calls.** A client starts to read, and then its calls and those of all other
clients come in any order. If the reading yields a configuration, the last of its calls found just
that: the interface of the tunnel, and its peers, each of them set, in the order in which they are
kept. If all its calls find the same configuration, there are at most two of them, the reading
succeeds exactly if that configuration fits into the first offer, or is allowed at all and so is a
second attempt, and after a success the next reading of that configuration takes one call. -/
theorem fetch_snapshot (hidle : w.clients i = .idle a last) (hes : ∀ o, .start i o ∉ es) :
    let reading := w.step Memory.serve (.start i .fetch)
    let found := reading.found Memory.serve i es
    let task := ((reading.run Memory.serve es).clients i).task
    (∀ c next, task = .done (some (.configuration (.ok c)), next) →
      ∃ m t, found.getLast? = some m ∧ m.tunnels a.handle = some t ∧ t.Holds c) ∧
    ∀ c : Configuration, w.driver.deny = false → c.requestSize ≤ 4294967295 →
      (∀ m ∈ found, ∃ t, m.tunnels a.handle = some t ∧ t.Holds c) →
      found.length ≤ 2 ∧
      (2 ≤ es.count (.call i) →
        ∃ result next, task = .done (some (.configuration result), next)) ∧
      (∀ result next, task = .done (some (.configuration result), next) →
        ((∃ d, result = .ok d) ↔ c.requestSize ≤ min a.sizeHint a.limits.maxSize.toNat ∨
          c.requestSize ≤ a.limits.maxSize.toNat ∧ 2 ≤ a.limits.maxAttempts.toNat)) ∧
      ∀ d next, task = .done (some (.configuration (.ok d)), next) →
        ∀ between es', (∀ o, .start i o ∉ between) → (∀ o, .start i o ∉ es') → .call i ∈ es' →
          let again := (reading.run Memory.serve (es ++ between)).step Memory.serve
            (.start i .fetch)
          (∀ m ∈ again.found Memory.serve i es', ∃ t, m.tunnels a.handle = some t ∧ t.Holds c) →
          (again.found Memory.serve i es').length = 1 ∧
            ∃ next', ((again.run Memory.serve es').clients i).task =
              .done (some (.configuration (.ok c)), next') := by
  intro reading found task
  refine ⟨fun c next hdone => ?_, ?_⟩
  · obtain ⟨m, t, hlast, ht, rfl⟩ := fetch_last hidle hes hdone
    exact ⟨m, t, hlast, ht, rfl, rfl⟩
  intro c hdeny hle hfound
  have hsize : c.requestSize < 4294967296 := Nat.lt_succ_of_le hle
  have hsteady := fun m hm => Tunnel.map_configuration_eq_iff.mpr (hfound m hm)
  obtain ⟨hlength, hends, hresult⟩ := fetch_steady hidle hes hdeny hsize hsteady
  refine ⟨hlength, hends, ?_, ?_⟩
  · intro result next hdone
    rcases hresult result next hdone with ⟨rfl, -, hroom⟩ | ⟨⟨e, rfl⟩, hroom⟩
    · exact iff_of_true ⟨c, rfl⟩ hroom
    · exact iff_of_false (fun ⟨d, h⟩ => error_ne_ok h) hroom
  · intro d next hdone between es' hbetween hes' hcall again hagain
    rcases hresult _ next hdone with ⟨-, rfl, hroom⟩ | ⟨⟨e, he⟩, -⟩
    · have hlimit : c.requestSize ≤ a.limits.maxSize.toNat :=
        hroom.elim (fun h => Nat.le_trans h (Nat.min_le_right _ _)) And.left
      have hwaits : (reading.run Memory.serve (es ++ between)).clients i =
          .idle (a.remember c.layout.bytes) (some (.configuration (.ok d))) :=
        idle_after hidle hes hdone rfl hbetween
      exact fetch_enough hwaits hes' (deny_run hidle hdeny).1 hsize
        (fun m hm => Tunnel.map_configuration_eq_iff.mpr (hagain m hm))
        (firstSize_remember hlimit) hcall
    · exact absurd he.symm error_ne_ok

deriving instance DecidableEq for Outcome

/-- Two clients of a tunnel that was never configured. -/
def twins : World Bool Memory :=
  ⟨Memory.empty.put ⟨1⟩ .blank, fun _ => .idle (.make ⟨1⟩ ⟨16, 3, 4096⟩) none⟩

/-- A port to listen at, a peer without any settings, and one that is to be kept alive. -/
def listening : Configuration :=
  ⟨{ Interface.blank with listenPort := some 51820 },
    [⟨.filled 2, .set .blank⟩, ⟨.filled 1, .set { Profile.blank with keepalive := some 25 }⟩]⟩

/-- One of the twins reads, and the other one configures the tunnel after the first attempt. -/
theorem fetch_snapshot_twins :
    let reading := twins.step Memory.serve (.start true .fetch)
    let changed := [.call true, .start false (.configure listening), .call false, .call true,
      .call true]
    let unchanged := [.call true, .call true]
    (∃ m t, (reading.found Memory.serve true changed).getLast? = some m ∧
      m.tunnels ⟨1⟩ = some t ∧ t.Holds listening) ∧
    ∃ c next, ((reading.run Memory.serve unchanged).clients true).task =
      .done (some (.configuration (.ok c)), next) := by
  intro reading changed unchanged
  have hstart : ∀ o, .start true o ∉ changed := by
    intro o
    simp [changed]
  have hstart' : ∀ o, .start true o ∉ unchanged := by
    intro o
    simp [unchanged]
  have hidle : twins.clients true = .idle (.make ⟨1⟩ ⟨16, 3, 4096⟩) none := rfl
  have hchanged : ((reading.run Memory.serve changed).clients true).task =
      .done (some (.configuration (.ok listening)), ⟨⟨1⟩, ⟨16, 3, 4096⟩, some 352⟩) :=
    Dialogue.eq_done_of_result? (by decide +kernel)
  refine ⟨(fetch_snapshot hidle hstart).1 listening _ hchanged, ?_⟩
  have hblank : ∀ m ∈ reading.found Memory.serve true unchanged,
      (m.tunnels ⟨1⟩).map Tunnel.configuration = some .blank := by
    decide +kernel
  obtain ⟨-, hends, hresult, -⟩ :=
    (fetch_snapshot hidle hstart').2 .blank rfl (by decide) fun m hm =>
      Tunnel.map_configuration_eq_iff.mp (hblank m hm)
  obtain ⟨result, next, hdone⟩ := hends (by decide)
  obtain ⟨c, rfl⟩ := (hresult result next hdone).mpr (by decide)
  exact ⟨c, next, hdone⟩

end World

end Driver

end TunnelConfig
