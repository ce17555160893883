import TunnelConfig.Proofs.Tunnels

/-!
# Clients of different tunnels

**Theorem (`run_undisturbed`).** A client whose tunnel no other client has does not notice the
others. Whatever order the calls of all clients come in, what its operations yield, what its adapter
remembers and what the driver has of its tunnel are the same as if the calls of the others had not
been made, and the same as if its operations had been one dialogue with the driver.

**The others leave no trace** (`view_filter`). `Memory.SameFor` relates two drivers that agree on
one tunnel and on whether they serve anybody. A call for that tunnel gets the same reply from both
and leaves them related (`Memory.serve_same`), a call for any other tunnel leaves them related too
(`Memory.serve_other`). So the events of the other clients can be left out one by one.

**A client by itself** (`run_own`). At any point of a run in which only one client takes part, what
it has left to do is the dialogue that it is in and then the operations it will start
(`Client.proceed`). Every event takes that dialogue one step further.
-/

namespace TunnelConfig.Driver

/-! ## What a driver has to say about one tunnel -/

/-- A tunnel stays as it is when a request for it is refused. -/
theorem Tunnel.serve_refused {t : Tunnel} {request : Request} {refusal : Refusal}
    (h : (t.serve request).1 = .error refusal) : (t.serve request).2 = t := by
  cases request with
  | set buffer =>
    rw [serve] at h ⊢
    cases hdecode : Configuration.decode buffer with
    | ok c =>
      rw [hdecode] at h
      exact absurd h.symm error_ne_ok
    | error e => rfl
  | get room => exact t.serve_get room
  | link state => exact absurd h.symm error_ne_ok

namespace Memory

variable {handle other : Handle} {m m' : Memory}

/-- No tunnel changes when a request is refused, for whatever reason. -/
theorem tunnels_of_refused {request : Request}
    (h : m.deny = true ∨ m.tunnels handle = none ∨
      ∃ refusal, (serve handle request m).1 = .error refusal) :
    (serve handle request m).2.tunnels = m.tunnels := by
  cases hdeny : m.deny with
  | true => rw [serve_denied hdeny]
  | false =>
    cases ht : m.tunnels handle with
    | none => rw [serve_unknown hdeny ht]
    | some t =>
      rw [hdeny, ht] at h
      obtain ⟨refusal, hrefused⟩ := (h.resolve_left Bool.false_ne_true).resolve_left nofun
      obtain ⟨hreply, htunnels⟩ := serve_known hdeny ht request
      rw [hreply] at hrefused
      rw [htunnels, Tunnel.serve_refused hrefused, put_self ht]

/-- The two drivers are the same to whoever has that handle. -/
structure SameFor (handle : Handle) (m m' : Memory) : Prop where
  deny_eq : m.deny = m'.deny
  tunnel_eq : m.tunnels handle = m'.tunnels handle

theorem serve_same (h : SameFor handle m m') (request : Request) :
    (serve handle request m).1 = (serve handle request m').1 ∧
      SameFor handle (serve handle request m).2 (serve handle request m').2 := by
  cases hdeny : m.deny with
  | true =>
    rw [serve_denied hdeny, serve_denied (h.deny_eq ▸ hdeny)]
    exact ⟨rfl, h⟩
  | false =>
    have hdeny' : m'.deny = false := h.deny_eq ▸ hdeny
    cases ht : m.tunnels handle with
    | none =>
      rw [serve_unknown hdeny ht, serve_unknown hdeny' (h.tunnel_eq ▸ ht)]
      exact ⟨rfl, h⟩
    | some t =>
      obtain ⟨hreply, htunnels⟩ := serve_known hdeny ht request
      obtain ⟨hreply', htunnels'⟩ := serve_known hdeny' (h.tunnel_eq ▸ ht) request
      refine ⟨hreply.trans hreply'.symm, ?_, ?_⟩
      · rw [deny_serve, deny_serve, h.deny_eq]
      · rw [htunnels, htunnels', tunnels_put_self, tunnels_put_self]

theorem serve_other (h : SameFor handle m m') (hne : other ≠ handle) (request : Request) :
    SameFor handle (serve other request m).2 m' := by
  refine ⟨(deny_serve other request m).trans h.deny_eq, Eq.trans ?_ h.tunnel_eq⟩
  cases hdeny : m.deny with
  | true => rw [serve_denied hdeny]
  | false =>
    cases ht : m.tunnels other with
    | none => rw [serve_unknown hdeny ht]
    | some t => rw [(serve_known hdeny ht request).2, tunnels_put_of_ne hne.symm]

end Memory

/-! ## Operations of one client -/

/-- Operations one after the other, as one dialogue: what they yield, and the adapter in the end. -/
def Adapter.perform : Adapter → List Operation → Dialogue (List Outcome × Adapter)
  | a, [] => .done ([], a)
  | a, o :: os => (o.dialogue a).bind fun (outcome, a) =>
    (a.perform os).map fun (outcomes, a) => (outcome :: outcomes, a)

/-- What the client's last operation yields, once it is over. -/
def Client.outcome? (client : Client) : Option Outcome := client.task.result?.bind Prod.fst

/-- What a client has left to do that will go on with some operations. -/
def Client.proceed (client : Client) (os : List Operation) : Dialogue (List Outcome × Adapter) :=
  client.task.bind fun (last, a) =>
    (a.perform os).map fun (outcomes, a) => (last.toList ++ outcomes, a)

theorem Client.run_proceed_of_done {σ : Type} {client : Client} {last : Option Outcome}
    {a : Adapter} (h : client.task = .done (last, a)) (os : List Operation) (serve : Service σ)
    (handle : Handle) (s : σ) :
    (client.proceed os).run serve handle s =
      let rest := (a.perform os).run serve handle s
      ((last.toList ++ rest.1.1, rest.1.2), rest.2) := by
  rw [proceed, h]
  exact Dialogue.run_map serve handle _ _ s

theorem Client.proceed_started (handle : Handle) (a : Adapter) (o : Operation)
    (os : List Operation) :
    proceed ⟨handle, (o.dialogue a).map fun (outcome, a) => (some outcome, a)⟩ os =
      a.perform (o :: os) :=
  Dialogue.map_bind _ _ _

/-- The client whose event it is. -/
def Event.client {ι : Type} : Event ι → ι
  | start i _ => i
  | call i => i

namespace World

variable {ι σ : Type} [DecidableEq ι] (serve : Service σ) (i : ι)

/-- The operation that client `i` starts, if the event is the start of one. -/
def startedNow (w : World ι σ) : Event ι → List Operation
  | .start j o => if j = i ∧ (w.clients i).task.isDone = true then [o] else []
  | .call _ => []

/-- The operations that client `i` starts, in order. -/
def started : World ι σ → List (Event ι) → List Operation
  | _, [] => []
  | w, e :: es => w.startedNow i e ++ started (w.step serve e) es

/-- What client `i` has from its last operation when the event is the start of the next one. -/
def leftNow (w : World ι σ) : Event ι → List Outcome
  | .start j _ => if j = i then (w.clients i).outcome?.toList else []
  | .call _ => []

/-- What the operations of client `i` yield, in order: looked up whenever the next one starts, and
at the end. -/
def outcomes : World ι σ → List (Event ι) → List Outcome
  | w, [] => (w.clients i).outcome?.toList
  | w, e :: es => w.leftNow i e ++ outcomes (w.step serve e) es

/-! ### A client by itself -/

theorem handle_step (j : ι) (w : World ι σ) (e : Event ι) :
    ((w.step serve e).clients j).handle = (w.clients j).handle := by
  have hput : ∀ (i : ι) (task) (w : World ι σ),
      ((w.put i task).clients j).handle = (w.clients j).handle := by
    intro i task w
    by_cases hj : j = i
    · rw [hj, clients_put_self]
    · rw [clients_put_of_ne hj]
  cases e with
  | start i o =>
    rw [step]
    split
    · exact hput i _ w
    · rfl
  | call i =>
    rw [step]
    split
    · rfl
    · exact hput i _ _

/-- One event of a client takes it one step further in what it has left to do. -/
theorem proceed_step (w : World ι σ) {e : Event ι} (he : e.client = i) (os : List Operation) :
    ((w.clients i).proceed (w.startedNow i e ++ os)).run serve (w.clients i).handle w.driver =
      let rest := (((w.step serve e).clients i).proceed os).run serve (w.clients i).handle
        (w.step serve e).driver
      ((w.leftNow i e ++ rest.1.1, rest.1.2), rest.2) := by
  cases e with
  | start j o =>
    have hj : j = i := he
    subst hj
    rw [startedNow, leftNow, if_pos rfl, step, Client.outcome?]
    cases htask : (w.clients j).task with
    | done result =>
      obtain ⟨last, a⟩ := result
      rw [if_pos ⟨rfl, rfl⟩, Client.run_proceed_of_done htask]
      dsimp only
      rw [clients_put_self, Client.proceed_started]
      rfl
    | ask request next =>
      rw [if_neg (by simp [Dialogue.isDone])]
      rfl
  | call j =>
    have hj : j = i := he
    subst hj
    rw [startedNow, leftNow, step]
    cases htask : (w.clients j).task with
    | done result => rfl
    | ask request next =>
      dsimp only
      rw [clients_put_self, Client.proceed, Client.proceed, htask]
      rfl

/-- A client that takes part alone and is done with all that it started, did just that. -/
theorem run_own {w : World ι σ} {es : List (Event ι)} (hes : ∀ e ∈ es, e.client = i)
    {last : Option Outcome} {next : Adapter}
    (hdone : ((w.run serve es).clients i).task = .done (last, next)) :
    ((w.clients i).proceed (w.started serve i es)).run serve (w.clients i).handle w.driver =
      ((w.outcomes serve i es, next), (w.run serve es).driver) := by
  induction es generalizing w with
  | nil =>
    rw [outcomes, Client.outcome?]
    change (w.clients i).task = .done (last, next) at hdone
    rw [Client.run_proceed_of_done hdone, hdone]
    exact congrArg (fun outcomes => ((outcomes, next), w.driver)) (List.append_nil _)
  | cons e es ih =>
    have hrest := ih (fun e he => hes e (.tail _ he)) hdone
    rw [handle_step] at hrest
    rw [started, outcomes, proceed_step serve i w (hes e List.mem_cons_self), hrest]
    rfl

/-- From the start, that is one dialogue with the driver. -/
theorem run_own_idle {w : World ι σ} {a : Adapter} (hidle : w.clients i = .idle a none)
    {es : List (Event ι)} (hes : ∀ e ∈ es, e.client = i) {last : Option Outcome} {next : Adapter}
    (hdone : ((w.run serve es).clients i).task = .done (last, next)) :
    (a.perform (w.started serve i es)).run serve a.handle w.driver =
      ((w.outcomes serve i es, next), (w.run serve es).driver) := by
  have htask : (Client.idle a none).task = .done (none, a) := rfl
  have hown := run_own serve i hes hdone
  rw [hidle, Client.run_proceed_of_done htask] at hown
  exact hown

/-! ### A client among others -/

/-- The two systems are the same to client `i`. -/
structure SameFor (w w' : World ι Memory) : Prop where
  client_eq : w.clients i = w'.clients i
  driver_same : Memory.SameFor (w.clients i).handle w.driver w'.driver

variable {i} {w w' : World ι Memory}

theorem SameFor.put (h : SameFor i w w') (task : Dialogue (Option Outcome × Adapter)) :
    SameFor i (w.put i task) (w'.put i task) := by
  refine ⟨?_, ?_⟩
  · rw [clients_put_self, clients_put_self, h.client_eq]
  · rw [clients_put_self]
    exact h.driver_same

/-- An event of the client itself. -/
theorem SameFor.step_own (h : SameFor i w w') {e : Event ι} (he : e.client = i) :
    SameFor i (w.step Memory.serve e) (w'.step Memory.serve e) := by
  cases e with
  | start j o =>
    have hj : j = i := he
    subst hj
    rw [step, step, ← h.client_eq]
    split
    · exact h.put _
    · exact h
  | call j =>
    have hj : j = i := he
    subst hj
    rw [step, step, ← h.client_eq]
    split
    · exact h
    · next request task htask =>
      obtain ⟨hreply, hdriver⟩ := Memory.serve_same h.driver_same request
      have hserved : SameFor j
          { w with driver := (Memory.serve (w.clients j).handle request w.driver).2 }
          { w' with driver := (Memory.serve (w.clients j).handle request w'.driver).2 } :=
        ⟨h.client_eq, hdriver⟩
      dsimp only
      rw [← hreply]
      exact hserved.put _

/-- An event of a client that has another tunnel. -/
theorem SameFor.step_foreign (h : SameFor i w w') {e : Event ι} (he : e.client ≠ i)
    (hhandle : (w.clients e.client).handle ≠ (w.clients i).handle) :
    SameFor i (w.step Memory.serve e) w' := by
  have hstart : ∀ o, e ≠ .start i o := fun o h => he (h ▸ rfl)
  have hcall : e ≠ .call i := fun h => he (h ▸ rfl)
  have hclient : (w.step Memory.serve e).clients i = w.clients i :=
    (step_other Memory.serve hstart fun h => absurd h hcall).1
  refine ⟨hclient.trans h.client_eq, ?_⟩
  rw [hclient]
  cases e with
  | start j o =>
    rw [step]
    split <;> exact h.driver_same
  | call j =>
    rw [step]
    split
    · exact h.driver_same
    · exact Memory.serve_other h.driver_same hhandle _

/-- What there is to see of a run for a client. -/
structure View where
  started : List Operation
  outcomes : List Outcome
  /-- The client at the end, with its adapter. -/
  client : Client
  /-- What the driver has of its tunnel at the end. -/
  tunnel : Option Tunnel

/-- What there is to see of a run for client `i`. -/
def view (i : ι) (w : World ι Memory) (es : List (Event ι)) : View where
  started := w.started Memory.serve i es
  outcomes := w.outcomes Memory.serve i es
  client := (w.run Memory.serve es).clients i
  tunnel := (w.run Memory.serve es).driver.tunnels (w.clients i).handle

theorem view_nil (i : ι) (w : World ι Memory) :
    w.view i [] = ⟨[], (w.clients i).outcome?.toList, w.clients i,
      w.driver.tunnels (w.clients i).handle⟩ := rfl

theorem view_cons (i : ι) (w : World ι Memory) (e : Event ι) (es : List (Event ι)) :
    w.view i (e :: es) =
      { (w.step Memory.serve e).view i es with
        started := w.startedNow i e ++ ((w.step Memory.serve e).view i es).started
        outcomes := w.leftNow i e ++ ((w.step Memory.serve e).view i es).outcomes } := by
  rw [view, view, handle_step]
  rfl

/-- What an event shows of client `i` depends on the client only, and only its own events do. -/
theorem SameFor.now_eq (h : SameFor i w w') (e : Event ι) :
    w.startedNow i e = w'.startedNow i e ∧ w.leftNow i e = w'.leftNow i e := by
  cases e with
  | start j o =>
    rw [startedNow, startedNow, leftNow, leftNow, h.client_eq]
    exact ⟨rfl, rfl⟩
  | call j => exact ⟨rfl, rfl⟩

theorem now_foreign (w : World ι Memory) {e : Event ι} (he : e.client ≠ i) :
    w.startedNow i e = [] ∧ w.leftNow i e = [] := by
  cases e with
  | start j o => exact ⟨if_neg fun h => he h.1, if_neg he⟩
  | call j => exact ⟨rfl, rfl⟩

/-- The events of the others may be left out. -/
theorem SameFor.view_filter (h : SameFor i w w')
    (hothers : ∀ j ≠ i, (w.clients j).handle ≠ (w.clients i).handle) (es : List (Event ι)) :
    w.view i es = w'.view i (es.filter fun e => e.client = i) := by
  induction es generalizing w w' with
  | nil => rw [List.filter_nil, view_nil, view_nil, h.driver_same.tunnel_eq, h.client_eq]
  | cons e es ih =>
    have hothers' : ∀ j ≠ i, ((w.step Memory.serve e).clients j).handle ≠
        ((w.step Memory.serve e).clients i).handle := by
      simpa only [handle_step] using hothers
    rw [List.filter_cons, view_cons]
    by_cases he : e.client = i
    · obtain ⟨hstarted, hleft⟩ := h.now_eq e
      rw [if_pos (decide_eq_true he), view_cons, ih (h.step_own he) hothers', hstarted, hleft]
    · obtain ⟨hstarted, hleft⟩ := w.now_foreign he
      rw [if_neg (by simpa using he), hstarted, hleft,
        ← ih (h.step_foreign he (hothers _ he)) hothers']
      rfl

variable {a : Adapter}

/-- **A client among others.** A client has a tunnel that no other client has, and the clients start
operations and make their calls in any order. What the client sees is the same as without the events
of the others. Whenever it is done with what it has started, its operations have yielded what they
yield as one dialogue with the driver, its adapter is the one that this dialogue leaves, and so is
what the driver has of its tunnel. And a call that is refused changes no tunnel. -/
theorem run_undisturbed (hidle : w.clients i = .idle a none)
    (hothers : ∀ j ≠ i, (w.clients j).handle ≠ a.handle) (es : List (Event ι)) :
    w.view i es = w.view i (es.filter fun e => e.client = i) ∧
    (∀ last next, (w.view i es).client.task = .done (last, next) →
      let alone := (a.perform (w.view i es).started).run Memory.serve a.handle w.driver
      (w.view i es).outcomes = alone.1.1 ∧ next = alone.1.2 ∧
        (w.view i es).tunnel = alone.2.tunnels a.handle) ∧
    ∀ handle request (m : Memory),
      m.deny = true ∨ m.tunnels handle = none ∨
        (∃ refusal, (Memory.serve handle request m).1 = .error refusal) →
      (Memory.serve handle request m).2.tunnels = m.tunnels := by
  have hhandle : (w.clients i).handle = a.handle := by
    rw [hidle]
    rfl
  have hsame : SameFor i w w := ⟨rfl, rfl, rfl⟩
  have hview := hsame.view_filter (hhandle ▸ hothers) es
  refine ⟨hview, ?_, fun handle request m => Memory.tunnels_of_refused⟩
  intro last next hdone
  rw [hview] at hdone ⊢
  have halone := run_own_idle Memory.serve i hidle
    (fun e he => of_decide_eq_true (List.mem_filter.mp he).2) hdone
  rw [view, hhandle]
  dsimp only
  rw [halone]
  exact ⟨rfl, rfl, rfl⟩

/-- Three clients of a driver that has tunnels for the first two. -/
def neighbours : World (Fin 3) Memory :=
  ⟨(Memory.empty.put ⟨0⟩ .blank).put ⟨1⟩ .blank,
    fun i => .idle (.make ⟨UInt64.ofNat i⟩ ⟨16, 3, 4096⟩) none⟩

/-- The first client reads in two attempts and brings its link up. Between its calls the second one
configures its tunnel and the third one is refused. -/
def busy : List (Event (Fin 3)) :=
  [.start 0 .fetch, .start 1 (.configure listening), .call 0, .call 1, .start 2 .fetchRaw, .call 2,
    .call 0, .start 0 (.setLink .up), .start 2 (.apply ⟨[]⟩), .call 2, .call 0]

theorem run_undisturbed_neighbours :
    ∃ next, (neighbours.view 0 busy).client.task = .done (some (.unit (.ok ())), next) ∧
      (neighbours.view 0 busy).outcomes = [.configuration (.ok .blank), .unit (.ok ())] ∧
      let alone := ((Adapter.make ⟨0⟩ ⟨16, 3, 4096⟩).perform [.fetch, .setLink .up]).run
        Memory.serve ⟨0⟩ neighbours.driver
      (neighbours.view 0 busy).outcomes = alone.1.1 ∧ next = alone.1.2 ∧
        (neighbours.view 0 busy).tunnel = alone.2.tunnels ⟨0⟩ := by
  have hothers : ∀ j : Fin 3, j ≠ 0 → (neighbours.clients j).handle ≠ ⟨0⟩ := by decide
  have hdone : (neighbours.view 0 busy).client.task =
      .done (some (.unit (.ok ())), ⟨⟨0⟩, ⟨16, 3, 4096⟩, some 80⟩) :=
    Dialogue.eq_done_of_result? (by decide +kernel)
  have hstarted : (neighbours.view 0 busy).started = [.fetch, .setLink .up] := by decide +kernel
  obtain ⟨-, halone, -⟩ := run_undisturbed (w := neighbours) (i := 0) rfl hothers busy
  rw [hstarted] at halone
  exact ⟨_, hdone, by decide +kernel, halone _ _ hdone⟩

end World

end TunnelConfig.Driver
