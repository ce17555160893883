import TunnelConfig.Driver.Adapter
import TunnelConfig.Driver.Script

/-!
# Reading a configuration of unknown size

**Theorem (`fetchRaw_run`).** Whatever a driver replies, reading a configuration is a row of calls
that each offer a larger buffer than the one before, within the limits, and how it ends is settled
by the last reply.

The calls of a dialogue are the requests with their replies (`Dialogue.calls`); a service that keeps
a log finds them in it (`run_logged`). Every reply but the last one refuses for want of room, so the
row is given by the sizes that these refusals require: each size offered is what was required last,
and at least one byte more than what was offered last (`grow`). `Ends` lists the five ways in which
a last reply can end the reading.

The proof follows the attempts that are left. What one attempt does is one case of the induction:
either its reply is the last one, or the rest of the row starts with the next size.
-/

namespace TunnelConfig.Driver

variable {α β σ : Type}

/-! ## Calls -/

/-- A request for a tunnel with the reply to it. -/
structure Call where
  handle : Handle
  request : Request
  reply : Reply

namespace Dialogue

variable (serve : Service σ) (handle : Handle)

/-- The calls by which a driver serves a dialogue, in order. -/
def calls : Dialogue α → σ → List Call
  | done _, _ => []
  | ask request next, s =>
    let (reply, s) := serve handle request s
    ⟨handle, request, reply⟩ :: calls (next reply) s

/-- The service that also writes down its calls. -/
def logged : Service (σ × List Call) := fun handle request (s, log) =>
  let (reply, s) := serve handle request s
  (reply, s, log ++ [⟨handle, request, reply⟩])

/-- The calls of a dialogue are what its service writes down, and nothing else changes by that. -/
theorem run_logged (d : Dialogue α) (s : σ) (log : List Call) :
    d.run (logged serve) handle (s, log) =
      ((d.run serve handle s).1, (d.run serve handle s).2, log ++ d.calls serve handle s) := by
  induction d generalizing s log with
  | done a => rw [run_done, run_done, calls, List.append_nil]
  | ask request next ih =>
    have hlog : ∀ call rest, log ++ [call] ++ rest = log ++ call :: rest := fun call rest =>
      List.append_assoc log [call] rest
    rw [run_ask, run_ask]
    refine (ih _ _ _).trans ?_
    rw [hlog]
    rfl

theorem calls_map (f : α → β) (d : Dialogue α) (s : σ) :
    (d.map f).calls serve handle s = d.calls serve handle s := by
  induction d generalizing s with
  | done a => rfl
  | ask request next ih => exact congrArg (List.cons _) (ih _ _)

end Dialogue

/-! ## Buffers -/

/-- A buffer of so many zeros after the driver wrote to the start of it. -/
def Answer.buffer (a : Answer) (room : Nat) : Bytes :=
  a.written.take room ++ (Bytes.zeros room).drop a.written.length

theorem Answer.taken_eq_take_buffer (a : Answer) {room count : Nat} (h : count ≤ room) :
    a.taken room count = (a.buffer room).take count := by
  have hzeros : (Bytes.zeros (room - a.written.length)).take (count - (a.written.take room).length)
      = Bytes.zeros (count - ((a.written.take room).take count).length) := by
    rw [Bytes.zeros, Bytes.zeros, List.take_replicate]
    congr 1
    simp only [List.length_take]
    omega
  have hdrop : (Bytes.zeros room).drop a.written.length =
      Bytes.zeros (room - a.written.length) := List.drop_replicate
  rw [taken, buffer, List.take_append, hdrop, hzeros]

/-! ## Sizes -/

/-- The number of attempts that the limits allow. There is always one. -/
def Limits.attempts (limits : Limits) : Nat := max 1 limits.maxAttempts.toNat

/-- The size to offer after a driver required a size. -/
def grow (size : Nat) (required : UInt32) : Nat := max required.toNat (size + 1)

theorem nextSize_eq_grow {size : Nat} (h : size < greatestSize) (required : UInt32) :
    nextSize size required.toNat = grow size required := by
  rw [nextSize, grow, Nat.min_eq_left h]

theorem lt_grow (size : Nat) (required : UInt32) : size < grow size required :=
  Nat.le_max_right _ _

theorem le_of_mem_scanl_grow {first size : Nat} {required : List UInt32}
    (h : size ∈ required.scanl grow first) : first ≤ size := by
  induction required generalizing first with
  | nil =>
    rw [List.scanl_nil, List.mem_singleton] at h
    exact Nat.le_of_eq h.symm
  | cons q required ih =>
    rw [List.scanl_cons, List.mem_cons] at h
    rcases h with rfl | h
    · exact Nat.le_refl _
    · exact Nat.le_trans (Nat.le_of_lt (lt_grow first q)) (ih h)

/-- Each size that is offered is greater than all before. -/
theorem pairwise_scanl_grow (first : Nat) (required : List UInt32) :
    (required.scanl grow first).Pairwise (· < ·) := by
  induction required generalizing first with
  | nil => exact List.pairwise_singleton _ _
  | cons q required ih =>
    rw [List.scanl_cons, List.pairwise_cons]
    refine ⟨?_, ih _⟩
    intro size hsize
    exact Nat.lt_of_lt_of_le (lt_grow first q) (le_of_mem_scanl_grow hsize)

/-! ## The row of calls -/

/-- The calls that offer sizes one after another. All replies but the last require a size. -/
def offers (handle : Handle) (first : Nat) (required : List UInt32) (last : Reply) : List Call :=
  List.zipWith (fun size reply => ⟨handle, .get size, reply⟩) (required.scanl grow first)
    (required.map (fun q => .error (.bufferTooSmall q)) ++ [last])

theorem offers_cons (handle : Handle) (first : Nat) (q : UInt32) (required : List UInt32)
    (last : Reply) :
    offers handle first (q :: required) last =
      ⟨handle, .get first, .error (.bufferTooSmall q)⟩ ::
        offers handle (grow first q) required last := by
  rw [offers, List.scanl_cons, List.map_cons, List.cons_append, List.zipWith_cons_cons, offers]

/-- Each call of the row offers one of the sizes for the tunnel. -/
theorem of_mem_offers {handle : Handle} {first : Nat} {required : List UInt32} {last : Reply}
    {call : Call} (h : call ∈ offers handle first required last) :
    call.handle = handle ∧ ∃ size ∈ required.scanl grow first, call.request = .get size := by
  induction required generalizing first with
  | nil =>
    rw [List.mem_singleton.mp h]
    exact ⟨rfl, first, List.mem_singleton.mpr rfl, rfl⟩
  | cons q required ih =>
    rw [offers_cons, List.mem_cons] at h
    rw [List.scanl_cons]
    rcases h with rfl | h
    · exact ⟨rfl, first, List.mem_cons_self, rfl⟩
    · obtain ⟨hhandle, size, hsize, hrequest⟩ := ih h
      exact ⟨hhandle, size, List.mem_cons_of_mem first hsize, hrequest⟩

/-- How a last reply, to the given number of calls, of which the last offers `size` bytes, ends the
reading. -/
inductive Ends (limits : Limits) (calls size : Nat) : Reply → Except Error Bytes → Prop where
  /-- The configuration is what the driver left at the start of the last buffer. -/
  | read (answer : Answer) (h : answer.reported.toNat ≤ size) :
    Ends limits calls size (.ok answer)
      (.ok ((answer.buffer size).take answer.reported.toNat))
  /-- The driver reports more than there was room for. -/
  | overreported (answer : Answer) (h : size < answer.reported.toNat) :
    Ends limits calls size (.ok answer)
      (.error (.wire (.truncated 0 answer.reported.toNat size)))
  /-- This was the last attempt. -/
  | retryLimit (required : UInt32) (h : calls = limits.attempts) :
    Ends limits calls size (.error (.bufferTooSmall required))
      (.error (.retryLimit limits.attempts size))
  /-- There are more attempts, but the next size is not allowed. -/
  | sizeLimit (required : UInt32) (hcalls : calls < limits.attempts)
    (hsize : limits.maxSize.toNat < grow size required) :
    Ends limits calls size (.error (.bufferTooSmall required))
      (.error (.sizeLimit (grow size required) limits.maxSize.toNat))
  /-- The driver refuses for another reason. -/
  | refused (refusal : Refusal) (h : ∀ required, refusal ≠ .bufferTooSmall required) :
    Ends limits calls size (.error refusal) (.error (.refused refusal))

section Attempts

variable (serve : Service σ) (handle : Handle) {limits : Limits}

/-- One attempt: either its reply ends the reading, or the driver requires a size that is allowed
and the reading goes on with that size. -/
theorem fetchWith_step (hlimit : limits.maxSize.toNat < greatestSize) {more before size : Nat}
    (hsize : size ≤ limits.maxSize.toNat) (hmore : before + more + 1 = limits.attempts) (s : σ) :
    ((fetchWith limits more size).calls serve handle s =
        [⟨handle, .get size, (serve handle (.get size) s).1⟩] ∧
      Ends limits (before + 1) size (serve handle (.get size) s).1
        ((fetchWith limits more size).run serve handle s).1) ∨
    ∃ rest required, more = rest + 1 ∧
      (serve handle (.get size) s).1 = .error (.bufferTooSmall required) ∧
      grow size required ≤ limits.maxSize.toNat ∧
      (fetchWith limits more size).calls serve handle s =
        ⟨handle, .get size, (serve handle (.get size) s).1⟩ ::
          (fetchWith limits rest (grow size required)).calls serve handle
            (serve handle (.get size) s).2 ∧
      ((fetchWith limits more size).run serve handle s).1 =
        ((fetchWith limits rest (grow size required)).run serve handle
          (serve handle (.get size) s).2).1 := by
  rw [fetchWith, Dialogue.run_ask, Dialogue.calls]
  generalize serve handle (.get size) s = served
  obtain ⟨reply, s⟩ := served
  cases reply with
  | ok answer =>
    left
    by_cases h : size < answer.reported.toNat
    · simp only [if_pos h]
      exact ⟨rfl, .overreported answer h⟩
    · have hle : answer.reported.toNat ≤ size := Nat.le_of_not_lt h
      simp only [if_neg h, answer.taken_eq_take_buffer hle]
      exact ⟨rfl, .read answer hle⟩
  | error refusal =>
    cases refusal with
    | bufferTooSmall required =>
      cases more with
      | zero =>
        have hattempts : max limits.maxAttempts.toNat 1 = limits.attempts := Nat.max_comm _ _
        left
        simp only [hattempts]
        exact ⟨rfl, .retryLimit required hmore⟩
      | succ rest =>
        have hnext : nextSize size required.toNat = grow size required :=
          nextSize_eq_grow (by omega) required
        simp only [hnext]
        by_cases h : limits.maxSize.toNat < grow size required
        · left
          simp only [if_pos h]
          exact ⟨rfl, .sizeLimit required (by omega) h⟩
        · right
          simp only [if_neg h]
          exact ⟨rest, required, rfl, rfl, Nat.le_of_not_lt h, rfl, rfl⟩
    | permissionDenied => exact .inl ⟨rfl, .refused _ nofun⟩
    | invalidHandle => exact .inl ⟨rfl, .refused _ nofun⟩
    | system text => exact .inl ⟨rfl, .refused _ nofun⟩
    | driver text => exact .inl ⟨rfl, .refused _ nofun⟩

/-- A row of attempts, the first of which offers `size` bytes after `before` other calls. -/
theorem fetchWith_run (hlimit : limits.maxSize.toNat < greatestSize) {more before size : Nat}
    (hsize : size ≤ limits.maxSize.toNat) (hmore : before + more + 1 = limits.attempts) (s : σ) :
    ∃ (required : List UInt32) (last : Reply),
      before + required.length + 1 ≤ limits.attempts ∧
      (∀ n ∈ required.scanl grow size, n ≤ limits.maxSize.toNat) ∧
      (fetchWith limits more size).calls serve handle s = offers handle size required last ∧
      Ends limits (before + required.length + 1) (required.foldl grow size) last
        ((fetchWith limits more size).run serve handle s).1 := by
  induction more using Nat.strongRecOn generalizing before size s with
  | ind more ih =>
    rcases fetchWith_step serve handle hlimit hsize hmore s with
      ⟨hcalls, hends⟩ | ⟨rest, q, rfl, hreply, hnext, hcalls, hrun⟩
    · refine ⟨[], _, ?_, ?_, hcalls, hends⟩
      · rw [List.length_nil]
        omega
      · intro n hn
        rw [List.scanl_nil, List.mem_singleton] at hn
        exact hn ▸ hsize
    -- This call goes in front of the row that starts with the required size.
    · have hmore' : before + 1 + rest + 1 = limits.attempts := by omega
      obtain ⟨required, last, hlength, hsizes, hcalls', hends⟩ :=
        ih rest (Nat.lt_succ_self rest) hnext hmore'
          (serve handle (.get size) s).2
      have hcount : before + 1 + required.length = before + (required.length + 1) :=
        Nat.add_right_comm before 1 required.length
      refine ⟨q :: required, last, ?_, ?_, ?_, ?_⟩
      · rw [List.length_cons, ← hcount]
        exact hlength
      · intro n hn
        rw [List.scanl_cons, List.mem_cons] at hn
        rcases hn with rfl | hn
        · exact hsize
        · exact hsizes n hn
      · rw [hcalls, hcalls', hreply, offers_cons]
      · rw [hrun, List.length_cons, List.foldl_cons, ← hcount]
        exact hends

end Attempts

/-! ## Reading with an adapter -/

namespace Adapter

/-- The size to start reading with after the last reply, which came to a buffer of `size` bytes. It
changes only if the driver reports what there was room for. -/
def hintAfter (a : Adapter) (size : Nat) : Reply → Nat
  | .ok answer =>
    if answer.reported.toNat ≤ size then
      if answer.reported.toNat = 0 then a.limits.initialSize.toNat else answer.reported.toNat
    else
      a.sizeHint
  | .error _ => a.sizeHint

/-- What the reading by an adapter amounts to, given the sizes that the driver required before its
last reply. -/
structure Reading (a : Adapter) (required : List UInt32) (last : Reply) (calls : List Call)
    (result : Except Error Bytes) (next : Adapter) : Prop where
  /-- Every call offers a size for the adapter's own tunnel, first the hint or what is allowed, and
  all replies but the last refuse for want of room. -/
  calls_eq : calls = offers a.handle (min a.sizeHint a.limits.maxSize.toNat) required last
  /-- There are not more calls than attempts. -/
  length_le : required.length + 1 ≤ a.limits.attempts
  /-- Each size is greater than the one before. -/
  increasing : (required.scanl grow (min a.sizeHint a.limits.maxSize.toNat)).Pairwise (· < ·)
  /-- All sizes are allowed. -/
  limited : ∀ size ∈ required.scanl grow (min a.sizeHint a.limits.maxSize.toNat),
    size ≤ a.limits.maxSize.toNat
  /-- The last reply settles the result. -/
  ends : Ends a.limits (required.length + 1)
    (required.foldl grow (min a.sizeHint a.limits.maxSize.toNat)) last result
  handle_eq : next.handle = a.handle
  limits_eq : next.limits = a.limits
  hint_eq : next.sizeHint =
    a.hintAfter (required.foldl grow (min a.sizeHint a.limits.maxSize.toNat)) last

/-- The result of reading and the adapter after it. -/
def settle (a : Adapter) : Except Error Bytes → Except Error Bytes × Adapter
  | .ok buffer => (.ok buffer, a.remember buffer)
  | .error e => (.error e, a)

theorem settle_fst (a : Adapter) (result : Except Error Bytes) : (a.settle result).1 = result := by
  cases result <;> rfl

theorem sizeHint_remember (a : Adapter) (buffer : Bytes) :
    (a.remember buffer).sizeHint =
      if buffer.length = 0 then a.limits.initialSize.toNat else buffer.length := by
  rw [sizeHint, remember]
  by_cases h : buffer.length = 0
  · rw [if_pos h, if_pos h]
    rfl
  · rw [if_neg h, if_neg h]
    rfl

theorem sizeHint_settle (a : Adapter) {calls size : Nat} {last : Reply}
    {result : Except Error Bytes} (h : Ends a.limits calls size last result) :
    (a.settle result).2.sizeHint = a.hintAfter size last := by
  cases h with
  | read answer hle =>
    have hlength : ((answer.buffer size).take answer.reported.toNat).length =
        answer.reported.toNat := by
      rw [← answer.taken_eq_take_buffer hle, answer.length_taken]
    have hremember := a.sizeHint_remember ((answer.buffer size).take answer.reported.toNat)
    rw [hlength] at hremember
    rw [hintAfter, if_pos hle]
    exact hremember
  | overreported answer hlt =>
    rw [hintAfter, if_neg (Nat.not_le_of_lt hlt)]
    rfl
  | retryLimit => rfl
  | sizeLimit => rfl
  | refused => rfl

/-- Whatever the driver replies, its replies make a reading. -/
theorem exists_reading (serve : Service σ) (s : σ) (a : Adapter)
    (hlimit : a.limits.maxSize.toNat < greatestSize) :
    ∃ (required : List UInt32) (last : Reply),
      Reading a required last (a.fetchRaw.calls serve a.handle s)
        (a.fetchRaw.run serve a.handle s).1.1 (a.fetchRaw.run serve a.handle s).1.2 := by
  have hmore : 0 + (max a.limits.maxAttempts.toNat 1 - 1) + 1 = a.limits.attempts := by
    rw [Limits.attempts]
    omega
  have hsize : a.firstSize ≤ a.limits.maxSize.toNat := Nat.min_le_right _ _
  obtain ⟨required, last, hlength, hlimited, hcalls, hends⟩ :=
    fetchWith_run serve a.handle hlimit hsize hmore s
  have hraw : a.fetchRaw =
      (fetchWith a.limits (max a.limits.maxAttempts.toNat 1 - 1) a.firstSize).map a.settle := rfl
  rw [Nat.zero_add] at hlength hends
  refine ⟨required, last, ?_⟩
  rw [hraw, Dialogue.calls_map, Dialogue.run_map, settle_fst]
  refine ⟨hcalls, hlength, pairwise_scanl_grow _ _, hlimited, hends, ?_, ?_,
    a.sizeHint_settle hends⟩
  · cases ((fetchWith a.limits _ a.firstSize).run serve a.handle s).1 <;> rfl
  · cases ((fetchWith a.limits _ a.firstSize).run serve a.handle s).1 <;> rfl

/-- **Reading a configuration of unknown size.** For every driver, the calls of an adapter that
reads are a row of growing offers within the limits, and the last reply settles how the reading ends
and what the adapter remembers. Reading the configuration itself makes the same calls and decodes
what was read. The handle of the calls, and that each has a new buffer of zeros, is in the types of
dialogues and requests. There has to be memory for the buffers, which the limit alone bounds. -/
theorem fetchRaw_run (serve : Service σ) (s : σ) (a : Adapter)
    (hlimit : a.limits.maxSize.toNat < greatestSize) :
    (∃ (required : List UInt32) (last : Reply),
      Reading a required last (a.fetchRaw.calls serve a.handle s)
        (a.fetchRaw.run serve a.handle s).1.1 (a.fetchRaw.run serve a.handle s).1.2) ∧
    a.fetch.calls serve a.handle s = a.fetchRaw.calls serve a.handle s ∧
    a.fetch.run serve a.handle s =
      (((a.fetchRaw.run serve a.handle s).1.1.bind fun buffer =>
          (Configuration.decode buffer).mapError .wire,
        (a.fetchRaw.run serve a.handle s).1.2), (a.fetchRaw.run serve a.handle s).2) := by
  refine ⟨exists_reading serve s a hlimit, ?_, ?_⟩
  · rw [fetch, Dialogue.calls_map]
  · rw [fetch, Dialogue.run_map]

/-- A driver requires a size, then one that is stale, and then writes more bytes than it reports. -/
def staleScript : Script :=
  ⟨[.refuse (.bufferTooSmall 600), .refuse (.bufferTooSmall 10), .answer 3 [1, 2, 3, 4]], []⟩

theorem fetchRaw_run_staleScript :
    let a := Adapter.make ⟨7⟩ ⟨512, 8, 1024⟩
    a.limits.maxSize.toNat < greatestSize ∧
      (a.fetchRaw.calls Script.serve a.handle staleScript).map (fun call => call.request) =
        [.get 512, .get 600, .get 601] ∧
      ((∃ (required : List UInt32) (last : Reply),
        Reading a required last (a.fetchRaw.calls Script.serve a.handle staleScript)
          (a.fetchRaw.run Script.serve a.handle staleScript).1.1
          (a.fetchRaw.run Script.serve a.handle staleScript).1.2) ∧
      a.fetch.calls Script.serve a.handle staleScript =
        a.fetchRaw.calls Script.serve a.handle staleScript ∧
      a.fetch.run Script.serve a.handle staleScript =
        (((a.fetchRaw.run Script.serve a.handle staleScript).1.1.bind fun buffer =>
            (Configuration.decode buffer).mapError .wire,
          (a.fetchRaw.run Script.serve a.handle staleScript).1.2),
          (a.fetchRaw.run Script.serve a.handle staleScript).2)) := by
  intro a
  have hlimit : a.limits.maxSize.toNat < greatestSize := by decide
  exact ⟨hlimit, by decide +kernel, fetchRaw_run Script.serve staleScript a hlimit⟩

end Adapter

end TunnelConfig.Driver
