import TunnelConfig.Driver.Adapter

/-!
# Several clients of one driver

A client reads and changes a tunnel with an adapter of its own, one operation after the other. Each
operation is a dialogue, and the calls of several clients come to the driver in any order.

**The system** (`World`). The driver's state and, for each client, the dialogue that it is in. A
client between two operations is in a dialogue that is done.

**Events.** A client starts an operation, or makes the next call of the one it is in. A run of the
system is a list of events, so whatever order the calls come in and whatever the clients decide to
do next is one list. Events that make no sense, such as a call by a client that is done, change
nothing.

**One client's view.** `World.found` is what the driver's state was at each call of a client.
`Dialogue.Reaches` says how far a dialogue gets by calls that find given states, with no regard to
what happens between them. Main result: `World.reaches_found`, by which whatever holds for all
states that the calls of a dialogue may find, holds in every run of the system.
-/

namespace TunnelConfig.Driver

variable {α β σ ι : Type}

/-! ## Dialogues in progress -/

namespace Dialogue

/-- What the dialogue comes to, if it is over. -/
def result? : Dialogue α → Option α
  | done a => some a
  | ask .. => none

theorem eq_done_of_result? {d : Dialogue α} {a : α} (h : d.result? = some a) : d = done a := by
  cases d with
  | done b => exact congrArg done (Option.some.inj h)
  | ask request next => cases h

def isDone : Dialogue α → Bool
  | done _ => true
  | ask .. => false

theorem exists_of_isDone {d : Dialogue α} (h : d.isDone = true) : ∃ a, d = done a := by
  cases d with
  | done a => exact ⟨a, rfl⟩
  | ask request next => cases h

/-- How far a dialogue gets by calls that find the driver in the given states. -/
inductive Reaches (serve : Service σ) (handle : Handle) :
    Dialogue α → List σ → Dialogue α → Prop
  | still (d : Dialogue α) : Reaches serve handle d [] d
  | call {request : Request} {next : Reply → Dialogue α} {s : σ} {later : List σ} {d : Dialogue α}
    (h : Reaches serve handle (next (serve handle request s).1) later d) :
    Reaches serve handle (ask request next) (s :: later) d

variable {serve : Service σ} {handle : Handle}

theorem Reaches.of_done {a : α} {found : List σ} {d : Dialogue α}
    (h : Reaches serve handle (done a) found d) : found = [] ∧ d = done a := by
  cases h
  exact ⟨rfl, rfl⟩

theorem Reaches.of_nil {d e : Dialogue α} (h : Reaches serve handle d [] e) : e = d := by
  cases h
  rfl

theorem Reaches.of_map {f : α → β} {d : Dialogue α} {found : List σ} {e : Dialogue β}
    (h : Reaches serve handle (d.map f) found e) :
    ∃ d', Reaches serve handle d found d' ∧ e = d'.map f := by
  induction found generalizing d with
  | nil => exact ⟨d, .still d, h.of_nil⟩
  | cons s found ih =>
    cases d with
    | done a => exact absurd (Reaches.of_done h).1 (List.cons_ne_nil s found)
    | ask request next =>
      change Reaches serve handle (ask request fun reply => (next reply).map f) _ e at h
      cases h with
      | call h =>
        obtain ⟨d', hd', rfl⟩ := ih h
        exact ⟨d', .call hd', rfl⟩

theorem map_eq_done {f : α → β} {d : Dialogue α} {b : β} (h : d.map f = done b) :
    ∃ a, d = done a ∧ f a = b := by
  cases d with
  | done a => exact ⟨a, rfl, Dialogue.done.inj h⟩
  | ask request next => cases h

theorem map_bind {γ : Type} (f : α → β) (g : β → Dialogue γ) (d : Dialogue α) :
    (d.map f).bind g = d.bind fun a => g (f a) := by
  induction d with
  | done a => rfl
  | ask request next ih => exact congrArg (ask request) (funext ih)

theorem map_map {γ : Type} (f : α → β) (g : β → γ) (d : Dialogue α) :
    (d.map f).map g = d.map fun a => g (f a) :=
  map_bind f (fun b => done (g b)) d

/-! ## What a driver keeps while it serves a dialogue -/

/-- All requests of the dialogue are of a kind. -/
inductive Asks (kind : Request → Prop) : Dialogue α → Prop
  | done (a : α) : Asks kind (done a)
  | ask {request : Request} {next : Reply → Dialogue α} (hrequest : kind request)
    (hnext : ∀ reply, Asks kind (next reply)) : Asks kind (ask request next)

/-- If no request of that kind spoils an invariant, it holds whenever a call finds the driver, and
at the end. -/
theorem Asks.run_reaches {kind : Request → Prop} {inv : σ → Prop}
    (hkeep : ∀ request s, kind request → inv s → inv (serve handle request s).2)
    {d : Dialogue α} (hd : d.Asks kind) {s : σ} (hs : inv s) :
    inv (d.run serve handle s).2 ∧
      ∃ found, (∀ s ∈ found, inv s) ∧
        Reaches serve handle d found (.done (d.run serve handle s).1) := by
  induction hd generalizing s with
  | done a => exact ⟨hs, [], by simp, .still _⟩
  | @ask request next hrequest _ ih =>
    obtain ⟨hend, found, hfound, hreaches⟩ :=
      ih (serve handle request s).1 (hkeep request s hrequest hs)
    exact ⟨hend, s :: found, List.forall_mem_cons.mpr ⟨hs, hfound⟩, .call hreaches⟩

end Dialogue

/-! ## Operations -/

/-- What a user does with an adapter. -/
inductive Operation where
  | fetch
  | fetchRaw
  | apply (buffer : Wire.Buffer)
  | configure (c : Configuration)
  | setLink (state : LinkState)
  deriving DecidableEq

/-- What an operation yields. -/
inductive Outcome where
  | configuration (result : Except Error Configuration)
  | buffer (result : Except Error Bytes)
  | unit (result : Except Error Unit)

/-- An operation of an adapter: what it yields, and the adapter after it. -/
def Operation.dialogue (a : Adapter) : Operation → Dialogue (Outcome × Adapter)
  | fetch => a.fetch.map fun (result, a) => (.configuration result, a)
  | fetchRaw => a.fetchRaw.map fun (result, a) => (.buffer result, a)
  | apply buffer => (Adapter.apply buffer).map fun result => (.unit result, a)
  | configure c => (Adapter.configure c).map fun result => (.unit result, a)
  | setLink state => (Adapter.setLink state).map fun result => (.unit result, a)

/-! ## The system -/

/-- A client, with the outcome of its last operation, if it is done with one. -/
structure Client where
  handle : Handle
  task : Dialogue (Option Outcome × Adapter)

/-- A client that is about to start an operation. -/
def Client.idle (a : Adapter) (last : Option Outcome) : Client := ⟨a.handle, .done (last, a)⟩

theorem Client.eq_idle {client : Client} {a : Adapter} {last : Option Outcome}
    (hhandle : client.handle = a.handle) (htask : client.task = .done (last, a)) :
    client = .idle a last := by
  cases client
  cases hhandle
  cases htask
  rfl

/-- What happens in the system. -/
inductive Event (ι : Type) where
  | start (i : ι) (o : Operation)
  | call (i : ι)
  deriving DecidableEq

/-- A driver and its clients. -/
structure World (ι σ : Type) where
  driver : σ
  clients : ι → Client

namespace World

variable [DecidableEq ι] (serve : Service σ) (i : ι)

/-- The client goes on with a dialogue. -/
def put (i : ι) (task : Dialogue (Option Outcome × Adapter)) (w : World ι σ) : World ι σ :=
  { w with clients := fun j => if j = i then ⟨(w.clients i).handle, task⟩ else w.clients j }

/-- What an event leads to. -/
def step (w : World ι σ) : Event ι → World ι σ
  | .start i o =>
    match (w.clients i).task with
    | .done (_, a) => w.put i ((o.dialogue a).map fun (outcome, a) => (some outcome, a))
    | .ask .. => w
  | .call i =>
    match (w.clients i).task with
    | .done _ => w
    | .ask request next =>
      let (reply, s) := serve (w.clients i).handle request w.driver
      { w with driver := s }.put i (next reply)

/-- What a list of events leads to. -/
def run (w : World ι σ) (es : List (Event ι)) : World ι σ := es.foldl (step serve) w

/-- The driver's state that a call of client `i` finds, if the event is one. -/
def foundNow (w : World ι σ) : Event ι → List σ
  | .start .. => []
  | .call j => if j = i ∧ (w.clients i).task.isDone = false then [w.driver] else []

/-- The driver's states that the calls of client `i` find, in order. -/
def found : World ι σ → List (Event ι) → List σ
  | _, [] => []
  | w, e :: es => w.foundNow i e ++ found (w.step serve e) es

/-! ### What one event does -/

theorem clients_put_of_ne {i j : ι} (h : j ≠ i) (task : Dialogue (Option Outcome × Adapter))
    (w : World ι σ) : (w.put i task).clients j = w.clients j :=
  if_neg h

theorem clients_put_self (task : Dialogue (Option Outcome × Adapter)) (w : World ι σ) :
    (w.put i task).clients i = ⟨(w.clients i).handle, task⟩ :=
  if_pos rfl

theorem step_start_idle {w : World ι σ} {i : ι} {a : Adapter} {last : Option Outcome}
    (h : w.clients i = .idle a last) (o : Operation) :
    (w.step serve (.start i o)).clients i =
        ⟨a.handle, (o.dialogue a).map fun (outcome, a) => (some outcome, a)⟩ ∧
      (w.step serve (.start i o)).driver = w.driver := by
  have htask : (w.clients i).task = .done (last, a) := by rw [h]; rfl
  have hhandle : (w.clients i).handle = a.handle := by rw [h]; rfl
  rw [step, htask]
  refine ⟨?_, rfl⟩
  show (w.put i _).clients i = _
  rw [clients_put_self, hhandle]

/-- Another client's event does not touch a client, and neither does a call after it is done. -/
theorem step_other {w : World ι σ} {i : ι} {e : Event ι} (hstart : ∀ o, e ≠ .start i o)
    (hcall : e = .call i → (w.clients i).task.isDone = true) :
    (w.step serve e).clients i = w.clients i ∧ w.foundNow i e = [] := by
  cases e with
  | start j o =>
    have hne : i ≠ j := fun h => hstart o (h ▸ rfl)
    refine ⟨?_, rfl⟩
    rw [step]
    split
    · exact clients_put_of_ne hne _ w
    · rfl
  | call j =>
    by_cases hj : j = i
    · subst hj
      obtain ⟨result, htask⟩ := Dialogue.exists_of_isDone (hcall rfl)
      rw [step, foundNow, htask]
      exact ⟨rfl, if_neg fun h => Bool.noConfusion h.2⟩
    · rw [step, foundNow, if_neg fun h => hj h.1]
      refine ⟨?_, rfl⟩
      split
      · rfl
      · exact clients_put_of_ne (Ne.symm hj) _ _

theorem step_call {w : World ι σ} {request : Request}
    {next : Reply → Dialogue (Option Outcome × Adapter)}
    (h : (w.clients i).task = .ask request next) :
    (w.step serve (.call i)).clients i =
        ⟨(w.clients i).handle, next (serve (w.clients i).handle request w.driver).1⟩ ∧
      w.foundNow i (.call i) = [w.driver] := by
  rw [step, foundNow, h, if_pos ⟨rfl, rfl⟩]
  exact ⟨if_pos rfl, rfl⟩

/-! ### What a run does -/

/-- **One client's view of a run.** As long as it starts nothing new, its dialogue gets as far as
its calls bring it, and every call it makes is one of the events. -/
theorem reaches_found (w : World ι σ) {es : List (Event ι)} (hes : ∀ o, .start i o ∉ es) :
    Dialogue.Reaches serve (w.clients i).handle (w.clients i).task (w.found serve i es)
        ((w.run serve es).clients i).task ∧
      ((w.run serve es).clients i).handle = (w.clients i).handle ∧
      (((w.run serve es).clients i).task.isDone = true ∨
        (w.found serve i es).length = es.count (.call i)) := by
  induction es generalizing w with
  | nil => exact ⟨.still _, rfl, .inr rfl⟩
  | cons e es ih =>
    have hstart : ∀ o, e ≠ .start i o := fun o h => hes o (h ▸ List.mem_cons_self)
    obtain ⟨hreaches, hhandle, hcount⟩ := ih (w.step serve e) fun o h => hes o (.tail e h)
    rw [found]
    by_cases hcall : e = .call i ∧ (w.clients i).task.isDone = false
    -- The client makes a call, which is the first of its calls from here on.
    · obtain ⟨rfl, hbusy⟩ := hcall
      cases htask : (w.clients i).task with
      | done result =>
        rw [htask] at hbusy
        cases hbusy
      | ask request next =>
        obtain ⟨hstep, hfound⟩ := step_call serve i htask
        rw [hstep] at hreaches hhandle
        rw [hfound, List.count_cons_self]
        refine ⟨.call hreaches, hhandle, hcount.imp_right fun h => ?_⟩
        rw [List.singleton_append, List.length_cons, h]
    · have hother : e = .call i → (w.clients i).task.isDone = true := fun h =>
        Bool.of_not_eq_false fun hbusy => hcall ⟨h, hbusy⟩
      obtain ⟨hstep, hfound⟩ := step_other serve hstart hother
      rw [hstep] at hreaches hhandle
      rw [hfound, List.nil_append]
      refine ⟨hreaches, hhandle, ?_⟩
      by_cases he : e = .call i
      -- A call that came after the client was done.
      · obtain ⟨result, hdone⟩ := Dialogue.exists_of_isDone (hother he)
        rw [hdone] at hreaches
        left
        show (((w.step serve e).run serve es).clients i).task.isDone = true
        rw [hreaches.of_done.2]
        rfl
      · rw [List.count_cons_of_ne he]
        exact hcount

/-- A client that is done waits. -/
theorem clients_run_done {w : World ι σ} {i : ι} {result : Option Outcome × Adapter}
    (h : (w.clients i).task = .done result) {es : List (Event ι)} (hes : ∀ o, .start i o ∉ es) :
    (w.run serve es).clients i = w.clients i := by
  obtain ⟨hreaches, hhandle, -⟩ := reaches_found serve i w hes
  rw [h] at hreaches
  have htask := hreaches.of_done.2.trans h.symm
  cases hbefore : w.clients i
  cases hafter : (w.run serve es).clients i
  rw [hbefore, hafter] at htask hhandle
  exact Client.mk.injEq .. |>.mpr ⟨hhandle, htask⟩

theorem run_append (w : World ι σ) (es es' : List (Event ι)) :
    w.run serve (es ++ es') = (w.run serve es).run serve es' :=
  List.foldl_append

/-- What no call changes holds throughout a run. -/
theorem run_keeps {inv : σ → Prop}
    (hkeep : ∀ handle request s, inv s → inv (serve handle request s).2) {w : World ι σ}
    (hw : inv w.driver) (es : List (Event ι)) :
    inv (w.run serve es).driver ∧ ∀ s ∈ w.found serve i es, inv s := by
  induction es generalizing w with
  | nil => exact ⟨hw, by simp [found]⟩
  | cons e es ih =>
    have hstep : inv (w.step serve e).driver := by
      cases e with
      | start j o =>
        rw [step]
        split <;> exact hw
      | call j =>
        rw [step]
        split
        · exact hw
        · exact hkeep _ _ _ hw
    obtain ⟨hend, hfound⟩ := ih hstep
    refine ⟨hend, ?_⟩
    rw [found]
    intro s hs
    rcases List.mem_append.mp hs with hnow | hlater
    · cases e with
      | start j o => cases hnow
      | call j =>
        rw [foundNow] at hnow
        split at hnow
        · rw [List.mem_singleton.mp hnow]
          exact hw
        · cases hnow
    · exact hfound s hlater

end World

end TunnelConfig.Driver
