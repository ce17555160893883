/-!
# Readings that may fail

A reader yields a value or an error, and readers are put together by `bind` and `map`, with checks
in between. A reading that is put together yields a value exactly if its parts do and no check
fails.
-/

namespace TunnelConfig

variable {ε α β : Type}

theorem error_ne_ok {e : ε} {a : α} : (.error e : Except ε α) ≠ .ok a := by
  intro h
  cases h

theorem bind_eq_ok_iff {x : Except ε α} {f : α → Except ε β} {b : β} :
    (x >>= f) = .ok b ↔ ∃ a, x = .ok a ∧ f a = .ok b := by
  cases x with
  | error e =>
    constructor
    · intro h
      exact absurd h error_ne_ok
    · rintro ⟨a, h, -⟩
      exact absurd h error_ne_ok
  | ok a =>
    constructor
    · intro h
      exact ⟨a, rfl, h⟩
    · rintro ⟨_, h, hf⟩
      cases h
      exact hf

theorem map_eq_ok_iff {x : Except ε α} {f : α → β} {b : β} :
    x.map f = .ok b ↔ ∃ a, x = .ok a ∧ f a = b := by
  cases x with
  | error e =>
    constructor
    · intro h
      exact absurd h error_ne_ok
    · rintro ⟨a, h, -⟩
      exact absurd h error_ne_ok
  | ok a =>
    constructor
    · intro h
      exact ⟨a, rfl, Except.ok.inj h⟩
    · rintro ⟨_, h, rfl⟩
      cases h
      rfl

theorem check_eq_ok_iff {fails : Prop} [Decidable fails] {e : ε} {x : Except ε α} {a : α} :
    (if fails then .error e else x) = .ok a ↔ ¬fails ∧ x = .ok a := by
  by_cases h : fails
  · rw [if_pos h]
    exact iff_of_false error_ne_ok fun hx => hx.1 h
  · rw [if_neg h]
    exact ⟨fun hx => ⟨h, hx⟩, fun hx => hx.2⟩

theorem exists_ok_ite_iff {p : Prop} [Decidable p] {e : ε} {a : α} :
    (∃ b, (if p then .ok a else .error e : Except ε α) = .ok b) ↔ p := by
  by_cases h : p <;> simp [h]

theorem exists_error_ite_iff {p : Prop} [Decidable p] {e : ε} {a : α} :
    (∃ e', (if p then .ok a else .error e : Except ε α) = .error e') ↔ ¬p := by
  by_cases h : p <;> simp [h]

theorem check_eq_none_iff {fails : Prop} [Decidable fails] {e : ε} {x : Option ε} :
    (if fails then some e else x) = none ↔ ¬fails ∧ x = none := by
  by_cases h : fails
  · rw [if_pos h]
    exact iff_of_false (Option.some_ne_none e) fun hx => hx.1 h
  · rw [if_neg h]
    exact ⟨fun hx => ⟨h, hx⟩, fun hx => hx.2⟩

theorem mapM_cons_eq_ok_iff {f : α → Except ε β} {a : α} {as : List α} {bs : List β} :
    (a :: as).mapM f = .ok bs ↔ ∃ b rest, f a = .ok b ∧ as.mapM f = .ok rest ∧ bs = b :: rest := by
  rw [List.mapM_cons, bind_eq_ok_iff]
  constructor
  · rintro ⟨b, hb, h⟩
    obtain ⟨rest, hrest, h⟩ := bind_eq_ok_iff.mp h
    exact ⟨b, rest, hb, hrest, (Except.ok.inj h).symm⟩
  · rintro ⟨b, rest, hb, hrest, rfl⟩
    exact ⟨b, hb, bind_eq_ok_iff.mpr ⟨rest, hrest, rfl⟩⟩

end TunnelConfig
