import TunnelConfig.Driver.Request

/-!
# Dialogues

A dialogue asks a driver for one thing after another and goes on as the replies say, until it is
done. It never holds the driver: each request is a call of its own, so the requests of several
dialogues may come to a driver in any order. The requests name no tunnel: a dialogue as a whole has
a handle, so all of its calls are for the same tunnel.

Main results: `run_bind` (a dialogue after another starts where the other left the driver) and
`run_ask` (each request is served once).
-/

namespace TunnelConfig.Driver

/-- A dialogue about one tunnel that ends with an `α`. -/
inductive Dialogue (α : Type) where
  | done (result : α)
  | ask (request : Request) (next : Reply → Dialogue α)

/-- How a driver with state `σ` serves a request for a tunnel. -/
abbrev Service (σ : Type) := Handle → Request → σ → Reply × σ

namespace Dialogue

variable {α β σ : Type}

def bind (d : Dialogue α) (f : α → Dialogue β) : Dialogue β :=
  match d with
  | done a => f a
  | ask request next => ask request fun reply => (next reply).bind f

def map (f : α → β) (d : Dialogue α) : Dialogue β := d.bind fun a => done (f a)

/-- Lets a driver serve a dialogue from its start to its end. -/
def run (serve : Service σ) (handle : Handle) : Dialogue α → σ → α × σ
  | done a, s => (a, s)
  | ask request next, s =>
    let (reply, s) := serve handle request s
    run serve handle (next reply) s

@[simp] theorem run_done (serve : Service σ) (handle : Handle) (a : α) (s : σ) :
    (done a).run serve handle s = (a, s) := rfl

@[simp] theorem run_ask (serve : Service σ) (handle : Handle) (request : Request)
    (next : Reply → Dialogue α) (s : σ) :
    (ask request next).run serve handle s =
      (next (serve handle request s).1).run serve handle (serve handle request s).2 := rfl

theorem run_bind (serve : Service σ) (handle : Handle) (d : Dialogue α) (f : α → Dialogue β)
    (s : σ) :
    (d.bind f).run serve handle s =
      (f (d.run serve handle s).1).run serve handle (d.run serve handle s).2 := by
  induction d generalizing s with
  | done a => rfl
  | ask request next ih => exact ih _ _

theorem run_map (serve : Service σ) (handle : Handle) (f : α → β) (d : Dialogue α) (s : σ) :
    (d.map f).run serve handle s = (f (d.run serve handle s).1, (d.run serve handle s).2) :=
  run_bind serve handle d _ s

end Dialogue

end TunnelConfig.Driver
