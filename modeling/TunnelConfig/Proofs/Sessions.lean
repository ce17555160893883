import TunnelConfig.Proofs.Loading
import TunnelConfig.Proofs.Snapshots

/-!
# What a user does with one adapter

**Theorem (`session_orderly`).** A user makes an adapter with settings that make sense and does one
thing with it after another, and the driver may reply what it likes. Then the size to start reading
with is always one that is allowed, and it is the size of what was read from the driver last. What
writes to the driver or changes the link makes one call, with just what the user gave, and passes on
what the driver says.

A session is the list of its turns (`session`), each with the calls it makes and what was read in
it. `sizeAfter` is the size to start with as the turns so far say, with no regard to what the
adapter remembers, and `Orderly` is what a turn comes to. The proof takes one turn after another
(`orderly_turn`). The adapter before a turn is `Tracking` the turns so far, and so is the adapter
after it.
-/

namespace TunnelConfig

/-- Settings that make sense have a first size that is not zero and that is allowed. -/
theorem Settings.initialSize_bounds {s : Settings} (h : s.validate = .ok ()) :
    1 ≤ s.limits.initialSize.toNat ∧ s.limits.initialSize.toNat ≤ s.limits.maxSize.toNat :=
  have hvalid := validate_eq_ok_iff.mp h
  ⟨hvalid.initialSize_pos, hvalid.initialSize_le⟩

namespace Driver

/-- What comes of a single call: its reply, without what an answer reports. -/
def passOn : Reply → Except Error Unit
  | .ok _ => .ok ()
  | .error refusal => .error (.refused refusal)

/-! ## Sessions -/

/-- One turn of a session. -/
structure Turn where
  operation : Operation
  /-- The adapter before the operation. -/
  adapter : Adapter
  calls : List Call
  /-- What is read from the driver, not decoded yet, if the operation reads at all. -/
  reading : Option (Except Error Bytes)
  outcome : Outcome
  /-- The adapter after the operation. -/
  next : Adapter

/-- What was read in the turn, if anything was. -/
def Turn.read? (t : Turn) : Option Bytes := t.reading.bind Except.toOption

section Session

variable {σ : Type} (serve : Service σ)

/-- What an operation reads from the driver. -/
def Operation.reading (a : Adapter) (s : σ) : Operation → Option (Except Error Bytes)
  | fetch => some (a.fetchRaw.run serve a.handle s).1.1
  | fetchRaw => some (a.fetchRaw.run serve a.handle s).1.1
  | apply _ => none
  | configure _ => none
  | setLink _ => none

/-- The turn of an operation, and the driver after it. -/
def Operation.turn (a : Adapter) (s : σ) (o : Operation) : Turn × σ :=
  let ((outcome, next), s') := (o.dialogue a).run serve a.handle s
  (⟨o, a, (o.dialogue a).calls serve a.handle s, o.reading serve a s, outcome, next⟩, s')

/-- The turns of operations, one after the other. -/
def session : Adapter → σ → List Operation → List Turn
  | _, _, [] => []
  | a, s, o :: os =>
    let (turn, s) := o.turn serve a s
    turn :: session turn.next s os

end Session

/-- The size to start reading with after some turns: what was read last had that size, unless it
was empty or nothing was read yet. -/
def sizeAfter (limits : Limits) (turns : List Turn) : Nat :=
  match (turns.filterMap Turn.read?).getLast? with
  | some buffer => if buffer.length = 0 then limits.initialSize.toNat else buffer.length
  | none => limits.initialSize.toNat

/-- What an operation does, apart from what it leaves the adapter with. -/
def Turn.Acts (handle : Handle) (t : Turn) : Prop :=
  match t.operation with
  | .fetch => ∃ result, t.reading = some result ∧ t.outcome =
      .configuration (result.bind fun buffer => (Configuration.decode buffer).mapError .wire)
  | .fetchRaw => ∃ result, t.reading = some result ∧ t.outcome = .buffer result
  | .apply buffer => t.reading = none ∧ (buffer.size ≤ 4294967295 →
      ∃ reply, t.calls = [⟨handle, .set buffer.bytes, reply⟩] ∧ t.outcome = .unit (passOn reply))
  | .configure c => t.reading = none ∧
      ((∃ buffer reply, c.encode = .ok buffer ∧ t.calls = [⟨handle, .set buffer.bytes, reply⟩] ∧
          t.outcome = .unit (passOn reply)) ∨
        ∃ e, c.encode = .error e ∧ t.calls = [] ∧ t.outcome = .unit (.error (.wire e)))
  | .setLink state => t.reading = none ∧
      ∃ reply, t.calls = [⟨handle, .link state, reply⟩] ∧ t.outcome = .unit (passOn reply)

/-- The adapter is as the turns so far leave it. -/
structure Tracking (handle : Handle) (limits : Limits) (before : List Turn) (a : Adapter) :
    Prop where
  handle_eq : a.handle = handle
  limits_eq : a.limits = limits
  hint_eq : a.sizeHint = sizeAfter limits before
  one_le : 1 ≤ a.sizeHint
  le_max : a.sizeHint ≤ limits.maxSize.toNat

/-- What a turn of a session comes to, after the turns before it. -/
structure Orderly (handle : Handle) (limits : Limits) (before : List Turn) (t : Turn) : Prop where
  tracking : Tracking handle limits before t.adapter
  /-- No buffer is empty or larger than allowed. -/
  rooms : ∀ call ∈ t.calls, ∀ room, call.request = .get room →
    1 ≤ room ∧ room ≤ limits.maxSize.toNat
  acts : t.Acts handle
  /-- Where nothing is read, the adapter stays as it is. -/
  unchanged : t.read? = none → t.next = t.adapter
  tracking_next : Tracking handle limits (before ++ [t]) t.next

/-! ## What was read last -/

theorem sizeAfter_append_read (limits : Limits) (before : List Turn) {t : Turn} {buffer : Bytes}
    (h : t.read? = some buffer) : sizeAfter limits (before ++ [t]) =
      if buffer.length = 0 then limits.initialSize.toNat else buffer.length := by
  rw [sizeAfter, List.filterMap_append, List.filterMap_cons_some h, List.filterMap_nil,
    List.getLast?_append]
  rfl

theorem sizeAfter_append_unread (limits : Limits) (before : List Turn) {t : Turn}
    (h : t.read? = none) : sizeAfter limits (before ++ [t]) = sizeAfter limits before := by
  rw [sizeAfter, List.filterMap_append, List.filterMap_cons_none h, List.filterMap_nil,
    List.append_nil, sizeAfter]

theorem foldl_mem_scanl {α β : Type} (f : β → α → β) (b : β) (as : List α) :
    as.foldl f b ∈ as.scanl f b := by
  induction as generalizing b with
  | nil => exact List.mem_singleton.mpr rfl
  | cons a as ih =>
    rw [List.scanl_cons, List.foldl_cons]
    exact List.mem_cons_of_mem b (ih _)

/-- What is read is no longer than the buffer that was offered last. -/
theorem Ends.length_le {limits : Limits} {calls size : Nat} {last : Reply} {buffer : Bytes}
    (h : Ends limits calls size last (.ok buffer)) : buffer.length ≤ size := by
  cases h with
  | read answer hle => exact Nat.le_trans (List.length_take_le _ _) hle

/-! ## One turn -/

section Turns

variable {handle : Handle} {limits : Limits} {before : List Turn} {a : Adapter}

/-- Buffers are offered in growing sizes, so none is empty if the first one is not. -/
theorem Tracking.rooms (ha : Tracking handle limits before a) {required : List UInt32}
    {last : Reply} {calls : List Call} {result : Except Error Bytes} {next : Adapter}
    (h : a.Reading required last calls result next) :
    ∀ call ∈ calls, ∀ room, call.request = .get room → 1 ≤ room ∧ room ≤ limits.maxSize.toNat := by
  intro call hcall room hroom
  rw [h.calls_eq] at hcall
  obtain ⟨-, size, hsize, hrequest⟩ := of_mem_offers hcall
  cases hrequest.symm.trans hroom
  have hfirst : 1 ≤ min a.sizeHint a.limits.maxSize.toNat := by
    rw [ha.limits_eq]
    exact Nat.le_min.mpr ⟨ha.one_le, Nat.le_trans ha.one_le ha.le_max⟩
  exact ⟨Nat.le_trans hfirst (le_of_mem_scanl_grow hsize), ha.limits_eq ▸ h.limited _ hsize⟩

/-- An operation that reads nothing leaves the adapter tracking the turns. -/
theorem Tracking.unread (ha : Tracking handle limits before a) {t : Turn} (h : t.read? = none) :
    Tracking handle limits (before ++ [t]) a :=
  { ha with hint_eq := ha.hint_eq.trans (sizeAfter_append_unread limits before h).symm }

/-- After a reading that was allowed, the adapter remembers what was read. -/
theorem Tracking.remember (ha : Tracking handle limits before a)
    (hinitial : 1 ≤ limits.initialSize.toNat ∧ limits.initialSize.toNat ≤ limits.maxSize.toNat)
    {t : Turn} {buffer : Bytes} (hread : t.read? = some buffer)
    (hle : buffer.length ≤ limits.maxSize.toNat) :
    Tracking handle limits (before ++ [t]) (a.remember buffer) := by
  have hhint : (a.remember buffer).sizeHint =
      if buffer.length = 0 then limits.initialSize.toNat else buffer.length := by
    rw [a.sizeHint_remember, ha.limits_eq]
  refine ⟨ha.handle_eq, ha.limits_eq, ?_, ?_, ?_⟩
  · rw [hhint, sizeAfter_append_read limits before hread]
  · rw [hhint]
    split <;> omega
  · rw [hhint]
    split <;> omega

/-- A reading leaves an adapter that tracks it. -/
theorem Tracking.settle (ha : Tracking handle limits before a)
    (hinitial : 1 ≤ limits.initialSize.toNat ∧ limits.initialSize.toNat ≤ limits.maxSize.toNat)
    {t : Turn} {required : List UInt32} {last : Reply} {calls : List Call}
    {result : Except Error Bytes} {next : Adapter} (h : a.Reading required last calls result next)
    (hreading : t.reading = some result) :
    Tracking handle limits (before ++ [t]) (a.settle result).2 ∧
      (t.read? = none → (a.settle result).2 = a) := by
  cases result with
  | error e =>
    have hread : t.read? = none := by rw [Turn.read?, hreading]; rfl
    exact ⟨ha.unread hread, fun _ => rfl⟩
  | ok buffer =>
    have hread : t.read? = some buffer := by rw [Turn.read?, hreading]; rfl
    have hle : buffer.length ≤ limits.maxSize.toNat :=
      Nat.le_trans h.ends.length_le (ha.limits_eq ▸ h.limited _ (foldl_mem_scanl _ _ _))
    refine ⟨ha.remember hinitial hread hle, fun hnone => ?_⟩
    exact absurd (hread.symm.trans hnone) (Option.some_ne_none _)

end Turns

section Turns

variable {σ : Type} (serve : Service σ) (s : σ) {handle : Handle} {limits : Limits}
  {before : List Turn} {a : Adapter}

/-- A single request is one call, and what comes of it is passed on. -/
theorem calls_request (handle : Handle) (request : Request) :
    (Adapter.request request).calls serve handle s =
        [⟨handle, request, (serve handle request s).1⟩] ∧
      ((Adapter.request request).run serve handle s).1 =
        passOn (serve handle request s).1 := by
  rw [Adapter.request, Dialogue.run_ask, Dialogue.calls]
  generalize serve handle request s = served
  obtain ⟨reply, s'⟩ := served
  cases reply <;> exact ⟨rfl, rfl⟩

/-- A buffer that is not too large goes to the driver in one request. -/
theorem apply_eq_request {buffer : Wire.Buffer} (h : buffer.size ≤ 4294967295) :
    Adapter.apply buffer = Adapter.request (.set buffer.bytes) := by
  rw [Adapter.apply, Wire.Buffer.size32, if_pos (Nat.lt_succ_of_le h)]

/-- A configuration that can be encoded goes to the driver in one request. -/
theorem configure_eq_request {c : Configuration} {buffer : Wire.Buffer}
    (h : c.encode = .ok buffer) : Adapter.configure c = Adapter.request (.set buffer.bytes) := by
  obtain ⟨hsize, rfl⟩ := Configuration.encode_eq_ok_iff.mp h
  have hle : (⟨c.layout.bytes⟩ : Wire.Buffer).size ≤ 4294967295 := by
    rw [Wire.Buffer.size, c.length_layout]
    exact Nat.le_of_lt_succ hsize
  rw [Adapter.configure, h]
  exact apply_eq_request hle

/-- After a reading the adapter is what its result makes of it. -/
theorem Adapter.run_fetchRaw_snd (a : Adapter) :
    (a.fetchRaw.run serve a.handle s).1.2 =
      (a.settle (a.fetchRaw.run serve a.handle s).1.1).2 := by
  rw [a.fetchRaw_eq, Dialogue.run_map, a.settle_fst]

/-- The turn of an operation that only yields whether it went well. -/
theorem turn_of_unit {o : Operation} {d : Dialogue (Except Error Unit)}
    (hdialogue : o.dialogue a = d.map fun result => (.unit result, a))
    (hreading : o.reading serve a s = none) :
    (o.turn serve a s).1 = ⟨o, a, d.calls serve a.handle s, none,
      .unit (d.run serve a.handle s).1, a⟩ := by
  rw [Operation.turn, hdialogue, Dialogue.calls_map, Dialogue.run_map, hreading]

/-- The turn of an operation that makes one request, or none because there is nothing to send. -/
theorem orderly_of_unit (ha : Tracking handle limits before a) {o : Operation}
    {d : Dialogue (Except Error Unit)}
    (hdialogue : o.dialogue a = d.map fun result => (.unit result, a))
    (hreading : o.reading serve a s = none)
    (hd : (∃ request, d = Adapter.request request ∧ ∀ room, request ≠ .get room) ∨
      ∃ e, d = .done (.error e))
    (hacts : (o.turn serve a s).1.Acts handle) :
    Orderly handle limits before (o.turn serve a s).1 := by
  rw [turn_of_unit serve s hdialogue hreading] at hacts ⊢
  refine ⟨ha, ?_, hacts, fun _ => rfl, ha.unread rfl⟩
  rcases hd with ⟨request, rfl, hrequest⟩ | ⟨e, rfl⟩
  · rw [(calls_request serve s _ request).1]
    intro call hcall room hroom
    rw [List.mem_singleton.mp hcall] at hroom
    exact absurd hroom (hrequest room)
  · exact fun call hcall => absurd hcall List.not_mem_nil

/-- The turn of an operation that reads. -/
theorem orderly_of_reading (ha : Tracking handle limits before a)
    (hinitial : 1 ≤ limits.initialSize.toNat ∧ limits.initialSize.toNat ≤ limits.maxSize.toNat)
    (hlimit : limits.maxSize.toNat < greatestSize) {t : Turn} (hadapter : t.adapter = a)
    (hcalls : t.calls = a.fetchRaw.calls serve a.handle s)
    (hreading : t.reading = some (a.fetchRaw.run serve a.handle s).1.1)
    (hnext : t.next = (a.fetchRaw.run serve a.handle s).1.2) (hacts : t.Acts handle) :
    Orderly handle limits before t := by
  obtain ⟨required, last, hread⟩ := a.exists_reading serve s (ha.limits_eq ▸ hlimit)
  obtain ⟨htracking, hunchanged⟩ := ha.settle hinitial hread hreading
  rw [← a.run_fetchRaw_snd, ← hnext] at htracking hunchanged
  subst hadapter
  exact ⟨ha, hcalls ▸ ha.rooms hread, hacts, hunchanged, htracking⟩

/-- One turn: whatever the operation is and whatever the driver replies, it is orderly. -/
theorem orderly_turn (ha : Tracking handle limits before a)
    (hinitial : 1 ≤ limits.initialSize.toNat ∧ limits.initialSize.toNat ≤ limits.maxSize.toNat)
    (hlimit : limits.maxSize.toNat < greatestSize) (o : Operation) :
    Orderly handle limits before (o.turn serve a s).1 := by
  have hhandle := ha.handle_eq
  subst hhandle
  cases o with
  | fetch =>
    have hturn : (Operation.fetch.turn serve a s).1 = ⟨.fetch, a,
        a.fetchRaw.calls serve a.handle s, some (a.fetchRaw.run serve a.handle s).1.1,
        .configuration ((a.fetchRaw.run serve a.handle s).1.1.bind fun buffer =>
          (Configuration.decode buffer).mapError .wire),
        (a.fetchRaw.run serve a.handle s).1.2⟩ := by
      rw [Operation.turn, Operation.dialogue, Adapter.fetch, Dialogue.calls_map,
        Dialogue.calls_map, Dialogue.run_map, Dialogue.run_map]
      rfl
    rw [hturn]
    exact orderly_of_reading serve s ha hinitial hlimit rfl rfl rfl rfl ⟨_, rfl, rfl⟩
  | fetchRaw =>
    have hturn : (Operation.fetchRaw.turn serve a s).1 = ⟨.fetchRaw, a,
        a.fetchRaw.calls serve a.handle s, some (a.fetchRaw.run serve a.handle s).1.1,
        .buffer (a.fetchRaw.run serve a.handle s).1.1,
        (a.fetchRaw.run serve a.handle s).1.2⟩ := by
      rw [Operation.turn, Operation.dialogue, Dialogue.calls_map, Dialogue.run_map]
      rfl
    rw [hturn]
    exact orderly_of_reading serve s ha hinitial hlimit rfl rfl rfl rfl ⟨_, rfl, rfl⟩
  | apply buffer =>
    have hd : (∃ request, Adapter.apply buffer = Adapter.request request ∧
        ∀ room, request ≠ .get room) ∨ ∃ e, Adapter.apply buffer = .done (.error e) := by
      by_cases hsize : buffer.size ≤ 4294967295
      · exact .inl ⟨_, apply_eq_request hsize, fun _ => Request.noConfusion⟩
      · refine .inr ⟨.wire (.bufferTooLarge buffer.size), ?_⟩
        rw [Adapter.apply, Wire.Buffer.size32, if_neg (by omega)]
    refine orderly_of_unit serve s ha rfl rfl hd ?_
    rw [turn_of_unit serve s rfl rfl]
    refine ⟨rfl, fun hsize => ⟨(serve a.handle (.set buffer.bytes) s).1, ?_⟩⟩
    rw [apply_eq_request hsize]
    obtain ⟨hcalls, hrun⟩ := calls_request serve s a.handle (.set buffer.bytes)
    exact ⟨hcalls, congrArg Outcome.unit hrun⟩
  | configure c =>
    cases hencode : c.encode with
    | ok buffer =>
      have hrequest := configure_eq_request hencode
      refine orderly_of_unit serve s ha rfl rfl
        (.inl ⟨_, hrequest, fun _ => Request.noConfusion⟩) ?_
      rw [turn_of_unit serve s rfl rfl]
      refine ⟨rfl, .inl ⟨buffer, (serve a.handle (.set buffer.bytes) s).1, hencode, ?_⟩⟩
      rw [hrequest]
      obtain ⟨hcalls, hrun⟩ := calls_request serve s a.handle (.set buffer.bytes)
      exact ⟨hcalls, congrArg Outcome.unit hrun⟩
    | error e =>
      have hdone : Adapter.configure c = .done (.error (.wire e)) := by
        rw [Adapter.configure, hencode]
      refine orderly_of_unit serve s ha rfl rfl (.inr ⟨_, hdone⟩) ?_
      rw [turn_of_unit serve s rfl rfl]
      refine ⟨rfl, .inr ⟨e, hencode, ?_⟩⟩
      rw [hdone]
      exact ⟨rfl, rfl⟩
  | setLink state =>
    refine orderly_of_unit serve s ha rfl rfl
      (.inl ⟨.link state, rfl, fun _ => Request.noConfusion⟩) ?_
    rw [turn_of_unit serve s rfl rfl]
    obtain ⟨hcalls, hrun⟩ := calls_request serve s a.handle (.link state)
    exact ⟨rfl, _, hcalls, congrArg Outcome.unit hrun⟩

end Turns

/-! ## Whole sessions -/

section Session

variable {σ : Type} (serve : Service σ)

theorem operations_session (a : Adapter) (s : σ) (os : List Operation) :
    (session serve a s os).map Turn.operation = os := by
  induction os generalizing a s with
  | nil => rfl
  | cons o os ih => exact congrArg (o :: ·) (ih _ _)

/-- A session that starts after some turns goes on in the same way. -/
theorem orderly_of_tracking {handle : Handle} {limits : Limits}
    (hinitial : 1 ≤ limits.initialSize.toNat ∧ limits.initialSize.toNat ≤ limits.maxSize.toNat)
    (hlimit : limits.maxSize.toNat < greatestSize) {past : List Turn} {a : Adapter}
    (ha : Tracking handle limits past a) (s : σ) (os : List Operation)
    {before after : List Turn} {t : Turn} (h : session serve a s os = before ++ t :: after) :
    Orderly handle limits (past ++ before) t := by
  induction os generalizing past a s before with
  | nil =>
    have hne := List.append_ne_nil_of_right_ne_nil before (List.cons_ne_nil t after)
    exact absurd h.symm hne
  | cons o os ih =>
    have hturn := orderly_turn serve s ha hinitial hlimit o
    change (o.turn serve a s).1 :: session serve _ _ os = _ at h
    cases before with
    | nil =>
      obtain ⟨rfl, -⟩ := List.cons.inj h
      rw [List.append_nil]
      exact hturn
    | cons first before =>
      obtain ⟨rfl, hrest⟩ := List.cons.inj h
      have hlater := ih hturn.tracking_next _ hrest
      rwa [List.append_assoc, List.singleton_append] at hlater

/-- **A session with one adapter.** Whatever the driver replies, the adapter is at every point of
the session as the turns so far leave it: the size to start with is that of what was read last, and
between one and what is allowed, and so are the sizes of all buffers. Each turn does what its
operation says and nothing else. That a call is for the handle of the adapter, and that nothing is
read from a buffer after a refusal, is in the types of dialogues and replies. There has to be memory
for the buffers, which the limit alone bounds. -/
theorem session_orderly (s : σ) (handle : Handle) {settings : Settings}
    (hvalid : settings.validate = .ok ()) (hlimit : settings.limits.maxSize.toNat < greatestSize)
    (os : List Operation) :
    let a := Adapter.make handle settings.limits
    (session serve a s os).map Turn.operation = os ∧
      Tracking handle settings.limits [] a ∧
      ∀ before t after, session serve a s os = before ++ t :: after →
        Orderly handle settings.limits before t := by
  intro a
  have hinitial := Settings.initialSize_bounds hvalid
  have hstart : Tracking handle settings.limits [] a := ⟨rfl, rfl, rfl, hinitial.1, hinitial.2⟩
  exact ⟨operations_session serve a s os, hstart,
    fun _ _ _ h => orderly_of_tracking serve hinitial hlimit hstart s os h⟩

end Session

/-- A driver that writes three bytes, requires nine in vain, reports more than there was room for,
and then has nothing to write. -/
def moodyScript : Script :=
  ⟨[.answer 3 [1, 2, 3], .refuse (.bufferTooSmall 9), .answer 4 [], .answer 0 []], []⟩

theorem session_orderly_moodyScript :
    let turns := session Script.serve (.make ⟨7⟩ Settings.standard.limits) moodyScript
      [.fetch, .apply ⟨[5]⟩, .fetchRaw, .fetchRaw]
    (Settings.standard.validate = .ok () ∧
      Settings.standard.limits.maxSize.toNat < greatestSize) ∧
    turns.map (fun t => (t.adapter.sizeHint, t.calls.map Call.request, t.outcome)) =
      [(512, [.get 512], .configuration (.error (.wire (.truncated 0 80 3)))),
        (3, [.set [5]], .unit (.error (.refused (.bufferTooSmall 9)))),
        (3, [.get 3], .buffer (.error (.wire (.truncated 0 4 3)))),
        (3, [.get 3], .buffer (.ok []))] ∧
    ∀ before t after, turns = before ++ t :: after →
      Orderly ⟨7⟩ Settings.standard.limits before t := by
  intro turns
  have hvalid : Settings.standard.validate = .ok () := by decide
  have hlimit : Settings.standard.limits.maxSize.toNat < greatestSize := by decide
  exact ⟨⟨hvalid, hlimit⟩, by decide +kernel,
    (session_orderly Script.serve moodyScript ⟨7⟩ hvalid hlimit _).2.2⟩

end Driver

end TunnelConfig
