import TunnelConfig.Wire.Walk

/-!
# What a walk yields

A walk is called for one record after another. `answer` is what it yields on each call and
`afterCalls` the walk as the calls leave it. A walk that `Yields` a list and then nothing is
described by that list: it is what the calls yield (`Yields.answer_eq`), and what is collected
(`PeerWalk.run_eq`, `NetworkWalk.toList_eq`). So a walk is followed step by step only once, to find
its list.
-/

namespace TunnelConfig.Wire

/-! ## Calls -/

section Calls

variable {σ α : Type} (next : σ → Option (α × σ))

/-- A walk after one call, which leaves it as it is if it yields nothing. -/
def afterCall (w : σ) : σ := (next w).elim w Prod.snd

/-- A walk after a number of calls. -/
def afterCalls : (calls : Nat) → (w : σ) → σ
  | 0, w => w
  | calls + 1, w => afterCalls calls (afterCall next w)

/-- What a walk yields on call `i`, the first being call 0. -/
def answer (w : σ) (i : Nat) : Option α := (next (afterCalls next i w)).map Prod.fst

/-- The walk `w` yields the items one after another and then, as `v`, nothing. -/
inductive Yields : σ → List α → σ → Prop where
  | done {w : σ} : next w = none → Yields w [] w
  | more {w u v : σ} {item : α} {items : List α} :
      next w = some (item, u) → Yields u items v → Yields w (item :: items) v

variable {next} {w u v : σ} {item : α} {items : List α}

theorem afterCalls_of_none (h : next w = none) (i : Nat) : afterCalls next i w = w := by
  induction i with
  | zero => rfl
  | succ i ih =>
    have hcall : afterCall next w = w := by
      rw [afterCall, h]
      rfl
    rw [afterCalls, hcall, ih]

theorem afterCalls_succ_of_some (h : next w = some (item, u)) (i : Nat) :
    afterCalls next (i + 1) w = afterCalls next i u := by
  rw [afterCalls, afterCall, h]
  rfl

namespace Yields

theorem afterCalls_eq (h : Yields next w items v) {i : Nat} (hi : items.length ≤ i) :
    afterCalls next i w = v := by
  induction h generalizing i with
  | done hnext => exact afterCalls_of_none hnext i
  | more hnext _ ih =>
    obtain ⟨i, rfl⟩ : ∃ j, i = j + 1 := ⟨i - 1, by rw [List.length_cons] at hi; omega⟩
    rw [afterCalls_succ_of_some hnext]
    exact ih (by rwa [List.length_cons, Nat.succ_le_succ_iff] at hi)

/-- Call `i` yields item `i`, and there is nothing after the last. -/
theorem answer_eq (h : Yields next w items v) (i : Nat) : answer next w i = items[i]? := by
  induction h generalizing i with
  | done hnext =>
    rw [answer, afterCalls_of_none hnext, hnext]
    rfl
  | more hnext _ ih =>
    cases i with
    | zero =>
      rw [answer, afterCalls, hnext]
      rfl
    | succ i =>
      rw [answer, afterCalls_succ_of_some hnext, List.getElem?_cons_succ]
      exact ih i

end Yields

end Calls

theorem NetworkWalk.collect_eq {w v : NetworkWalk}
    {items : List (Except Error (Nat × NetworkRecord))} (h : Yields next w items v)
    (visited : List (Except Error (Nat × NetworkRecord))) :
    w.collect visited = visited.reverse ++ items := by
  induction h generalizing visited with
  | done hnext =>
    rw [collect]
    split
    · exact (List.append_nil _).symm
    · next h =>
      rw [hnext] at h
      cases h
  | more hnext _ ih =>
    rw [collect]
    split
    · next h =>
      rw [hnext] at h
      cases h
    · next h =>
      rw [hnext] at h
      cases h
      rw [ih, List.reverse_cons, List.append_assoc]
      rfl

theorem NetworkWalk.toList_eq {w v : NetworkWalk}
    {items : List (Except Error (Nat × NetworkRecord))} (h : Yields next w items v) :
    w.toList = items := collect_eq h []

theorem PeerWalk.collect_eq {w v : PeerWalk} {items : List (Except Error PeerEntry)}
    (h : Yields next w items v) (visited : List (Except Error PeerEntry)) :
    w.collect visited = (visited.reverse ++ items, v) := by
  induction h generalizing visited with
  | done hnext =>
    rw [collect]
    split
    · rw [List.append_nil]
    · next h =>
      rw [hnext] at h
      cases h
  | more hnext _ ih =>
    rw [collect]
    split
    · next h =>
      rw [hnext] at h
      cases h
    · next h =>
      rw [hnext] at h
      cases h
      rw [ih, List.reverse_cons, List.append_assoc]
      rfl

theorem PeerWalk.run_eq {w v : PeerWalk} {items : List (Except Error PeerEntry)}
    (h : Yields next w items v) : w.run = (items, v) := collect_eq h []

end TunnelConfig.Wire
