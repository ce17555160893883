import TunnelConfig.Json.Shape
import TunnelConfig.Proofs.Readings

/-!
# What readers of structures accept

The readers of structures go from left to right and stop at the first fault. Here is what they
accept, without the order in which they look.

**Members.** A member of an object gives one field or none and changes the draft (`Shape.Effect`).
Members are accepted as long as each has an effect and none gives a field that was given before
(`Shape.readMembers_cons_eq_ok_iff`).

**Items.** Items of an array are accepted if there is a field for each of them
(`Shape.readArray_eq_ok_iff`).

**Alternatives.** The members of a tagged object are its one tag and the rest, wherever the tag
stands (`Tagged.read_object_eq_ok_iff`).

**Well-formed outlines.** A structure accepts only what is well formed if its fields do
(`Shape.strict`), and a tagged object in any case (`Tagged.strict`), because all of it is looked at
before its content is.
-/

namespace TunnelConfig.Json

variable {ε α σ : Type}

theorem misfit_ne_ok {cause : Misfit ε} {a : α} : (misfit cause : Result ε α) ≠ .ok a :=
  error_ne_ok

/-- What ends before its bracket is not accepted, whatever was read of it. -/
theorem bind_malformed_ne_ok {x : Result ε α} {a : σ} :
    (x >>= fun _ => (.error .malformed : Result ε σ)) ≠ .ok a := by
  intro h
  obtain ⟨_, -, h⟩ := bind_eq_ok_iff.mp h
  exact absurd h error_ne_ok

theorem Outline.refuse_ne_ok {o : Outline} {expected : String} {a : α} :
    (o.refuse expected : Result ε α) ≠ .ok a := by
  rw [refuse]
  split
  · exact misfit_ne_ok
  · exact error_ne_ok

theorem Outline.readList_array_eq_ok_iff {read : Outline → Result ε α} {items : List Outline}
    {closed : Bool} {as : List α} :
    (array items closed).readList read = .ok as ↔ closed = true ∧ items.mapM read = .ok as := by
  rw [readList]
  cases closed with
  | false => exact iff_of_false bind_malformed_ne_ok (by simp)
  | true =>
    rw [bind_eq_ok_iff]
    constructor
    · rintro ⟨values, hvalues, h⟩
      exact ⟨rfl, Except.ok.inj h ▸ hvalues⟩
    · rintro ⟨-, h⟩
      exact ⟨as, h, rfl⟩

theorem Outline.readList_eq_ok_iff {read : Outline → Result ε α} {o : Outline} {as : List α} :
    o.readList read = .ok as ↔ ∃ items, o = .array items true ∧ items.mapM read = .ok as := by
  constructor
  · intro h
    have hread := h
    unfold readList at h
    split at h
    · next items closed =>
      obtain ⟨rfl, hitems⟩ := readList_array_eq_ok_iff.mp hread
      exact ⟨items, rfl, hitems⟩
    · exact absurd h refuse_ne_ok
  · rintro ⟨items, rfl, h⟩
    exact readList_array_eq_ok_iff.mpr ⟨rfl, h⟩

/-! ## Structures -/

namespace Shape

variable {s : Shape ε σ} {given : List String} {draft a : σ} {closed : Bool}
  {m : Option String × Outline} {ms : List (Option String × Outline)}

/-- What a member does: the names of the fields that it gives, one or none, and how it changes the
draft. A member that is a fault by itself has no effect. -/
inductive Effect (s : Shape ε σ) : Option String × Outline → List String → (σ → σ) → Prop
  | field {key : String} {value : Outline} {field : Field ε σ} {put : σ → σ}
      (hfield : s.field? key = some field) (hread : field.read value = .ok put) :
      Effect s (some key, value) [key] put
  | unknown {key : String} {value : Outline} (hfield : s.field? key = none)
      (hvalue : value.wellFormed = true) : Effect s (some key, value) [] id

theorem readMembers_cons_eq_ok_iff {result : List String × σ} :
    s.readMembers given draft (m :: ms) = .ok result ↔
      ∃ names put, s.Effect m names put ∧ (∀ name ∈ names, name ∉ given) ∧
        s.readMembers (names ++ given) (put draft) ms = .ok result := by
  obtain ⟨key, value⟩ := m
  constructor
  · intro h
    cases key with
    | none => exact absurd h error_ne_ok
    | some key =>
      rw [readMembers] at h
      split at h
      · next field hfield =>
        obtain ⟨hgiven, h⟩ := check_eq_ok_iff.mp h
        obtain ⟨put, hread, h⟩ := bind_eq_ok_iff.mp h
        exact ⟨[key], put, .field hfield hread, by simpa using hgiven, h⟩
      · next hfield =>
        split at h
        · next hvalue => exact ⟨[], id, .unknown hfield hvalue, List.forall_mem_nil _, h⟩
        · exact absurd h error_ne_ok
  · rintro ⟨names, put, heffect, hgiven, h⟩
    cases heffect with
    | field hfield hread =>
      rw [readMembers, hfield]
      exact check_eq_ok_iff.mpr ⟨hgiven _ List.mem_cons_self, bind_eq_ok_iff.mpr ⟨put, hread, h⟩⟩
    | unknown hfield hvalue =>
      rw [readMembers, hfield]
      dsimp only
      rw [if_pos hvalue]
      exact h

theorem readObject_eq_ok_iff :
    s.readObject ms closed = .ok a ↔ closed = true ∧ ∃ given,
      s.readMembers [] s.blank ms = .ok (given, a) ∧
        ∀ field ∈ s.fields, field.required = true → field.name ∈ given := by
  have hrequired : ∀ given : List String,
      s.fields.find? (fun field => field.required && field.name ∉ given) = none ↔
        ∀ field ∈ s.fields, field.required = true → field.name ∈ given := by
    intro given
    simp
  rw [readObject]
  cases closed with
  | false => exact iff_of_false bind_malformed_ne_ok (by simp)
  | true =>
    rw [bind_eq_ok_iff]
    constructor
    · rintro ⟨⟨given, draft⟩, hread, h⟩
      simp only [Bool.not_true, Bool.false_eq_true, if_false] at h
      split at h
      · exact absurd h misfit_ne_ok
      · next hnone =>
        obtain rfl := Except.ok.inj h
        exact ⟨rfl, given, hread, (hrequired given).mp hnone⟩
    · rintro ⟨-, given, hread, hall⟩
      refine ⟨_, hread, ?_⟩
      simp only [Bool.not_true, Bool.false_eq_true, if_false, (hrequired given).mpr hall]
      rfl

section Items

variable {items rest : List Outline} {item : Outline} {field : Field ε σ}
  {fields : List (Field ε σ)} {result : σ × Nat}

theorem readItems_nil_eq_ok_iff :
    s.readItems items closed draft (field :: fields) [] = .ok result ↔
      closed = true ∧ field.required = false ∧
        s.readItems items closed draft fields [] = .ok result := by
  rw [readItems, check_eq_ok_iff, Bool.not_eq_true', Bool.not_eq_false, misfit, check_eq_ok_iff,
    Bool.not_eq_true]

theorem readItems_cons_eq_ok_iff :
    s.readItems items closed draft (field :: fields) (item :: rest) = .ok result ↔
      ∃ put, field.read item = .ok put ∧
        s.readItems items closed (put draft) fields rest = .ok result :=
  bind_eq_ok_iff

theorem readArray_eq_ok_iff :
    s.readArray items closed = .ok a ↔
      closed = true ∧ s.readItems items closed s.blank s.fields items = .ok (a, 0) := by
  rw [readArray]
  cases closed with
  | false => exact iff_of_false bind_malformed_ne_ok (by simp)
  | true =>
    rw [bind_eq_ok_iff]
    constructor
    · rintro ⟨⟨draft, left⟩, hread, h⟩
      change (if left = 0 then _ else _) = _ at h
      split at h
      · next hleft =>
        obtain rfl := Except.ok.inj h
        exact ⟨rfl, hleft ▸ hread⟩
      · cases hsurplus : s.surplus <;> rw [hsurplus] at h <;> exact absurd h error_ne_ok
    · rintro ⟨-, hread⟩
      exact ⟨_, hread, rfl⟩

end Items

end Shape

/-! ## Tagged alternatives -/

namespace Tagged

variable {t : Tagged ε α} {a : α} {closed : Bool}

theorem readTag_eq_ok_iff {value : Outline} {read : Outline → Result ε α} :
    t.readTag value = .ok read ↔
      ∃ name variant, value = .text name ∧ t.variants.find? (·.1 == name) = some variant ∧
        variant.2 = read := by
  constructor
  · intro h
    unfold readTag at h
    split at h
    · next name =>
      split at h
      · next variant hvariant =>
        exact ⟨name, _, rfl, hvariant, Except.ok.inj h⟩
      · exact absurd h misfit_ne_ok
    · exact absurd h Outline.refuse_ne_ok
  · rintro ⟨name, ⟨_, _⟩, rfl, hvariant, rfl⟩
    rw [readTag, hvariant]

/-- A tag names one of the alternatives. -/
theorem exists_variant_of_readTag {value : Outline} {read : Outline → Result ε α}
    (h : t.readTag value = .ok read) : ∃ variant ∈ t.variants, variant.2 = read := by
  obtain ⟨_, variant, -, hfind, hread⟩ := readTag_eq_ok_iff.mp h
  exact ⟨variant, List.mem_of_find?_eq_some hfind, hread⟩

/-- A member that is kept for the content of the alternative. -/
def Keeps (t : Tagged ε α) (m : Option String × Outline) : Prop :=
  m.1.isSome = true ∧ m.2.readable t.room = true

/-- The members that name the alternative. -/
def tags (t : Tagged ε α) (ms : List (Option String × Outline)) : List (Option String × Outline) :=
  ms.filter (·.1 == some t.tag)

/-- The members that do not name the alternative. -/
def others (t : Tagged ε α) (ms : List (Option String × Outline)) :
    List (Option String × Outline) :=
  ms.filter (·.1 != some t.tag)

/-- What the tags of an object choose, if there is at most one and none was chosen before. -/
inductive Chooses (t : Tagged ε α) : Option (Outline → Result ε α) →
    List (Option String × Outline) → Option (Outline → Result ε α) → Prop
  | nothing (chosen : Option (Outline → Result ε α)) : Chooses t chosen [] chosen
  | named {value : Outline} {read : Outline → Result ε α} (h : t.readTag value = .ok read) :
      Chooses t none [(some t.tag, value)] (some read)

theorem chooses_cons_iff {chosen chosen' : Option (Outline → Result ε α)} {value : Outline}
    {ms : List (Option String × Outline)} :
    t.Chooses chosen ((some t.tag, value) :: ms) chosen' ↔
      chosen = none ∧ ∃ read, t.readTag value = .ok read ∧ t.Chooses (some read) ms chosen' := by
  constructor
  · intro h
    cases h with
    | named h => exact ⟨rfl, _, h, .nothing _⟩
  · rintro ⟨rfl, read, hread, h⟩
    cases h with
    | nothing => exact .named hread

theorem readMembers_eq_ok_iff {chosen chosen' : Option (Outline → Result ε α)}
    {before after ms : List (Option String × Outline)} :
    t.readMembers chosen before ms = .ok (chosen', after) ↔
      (∀ m ∈ t.others ms, t.Keeps m) ∧ after = (t.others ms).reverse ++ before ∧
        t.Chooses chosen (t.tags ms) chosen' := by
  induction ms generalizing chosen before with
  | nil =>
    constructor
    · intro h
      obtain ⟨rfl, rfl⟩ := Prod.mk.inj (Except.ok.inj h)
      exact ⟨List.forall_mem_nil _, rfl, .nothing _⟩
    · rintro ⟨-, rfl, h⟩
      cases h
      rfl
  | cons m ms ih =>
    obtain ⟨key, value⟩ := m
    by_cases hkey : key = some t.tag
    · subst hkey
      have htags : t.tags ((some t.tag, value) :: ms) = (some t.tag, value) :: t.tags ms :=
        List.filter_cons_of_pos (by simp)
      have hothers : t.others ((some t.tag, value) :: ms) = t.others ms :=
        List.filter_cons_of_neg (by simp)
      rw [htags, hothers, chooses_cons_iff, readMembers.eq_def]
      dsimp only
      rw [if_pos rfl]
      cases chosen with
      | some read => exact iff_of_false misfit_ne_ok fun h => absurd h.2.2.1 (Option.some_ne_none _)
      | none =>
        dsimp only
        rw [bind_eq_ok_iff]
        simp only [ih, true_and]
        constructor
        · rintro ⟨read, hread, hkeeps, hafter, h⟩
          exact ⟨hkeeps, hafter, read, hread, h⟩
        · rintro ⟨hkeeps, hafter, read, hread, h⟩
          exact ⟨read, hread, hkeeps, hafter, h⟩
    · have htags : t.tags ((key, value) :: ms) = t.tags ms :=
        List.filter_cons_of_neg (by simpa using hkey)
      have hothers : t.others ((key, value) :: ms) = (key, value) :: t.others ms :=
        List.filter_cons_of_pos (by simpa using hkey)
      rw [htags, hothers, List.forall_mem_cons, List.reverse_cons, List.append_assoc,
        List.singleton_append, and_assoc]
      cases key with
      | none => exact iff_of_false error_ne_ok fun h => absurd h.1.1 Bool.false_ne_true
      | some key =>
        rw [readMembers.eq_def]
        dsimp only
        rw [if_neg fun h => hkey (congrArg some h)]
        by_cases hvalue : value.readable t.room = true
        · rw [if_pos hvalue, ih]
          exact (and_iff_right ⟨rfl, hvalue⟩).symm
        · rw [if_neg hvalue]
          exact iff_of_false error_ne_ok fun h => hvalue h.1.2

/-- A choice is read from an object or from an array. -/
theorem object_or_array_of_read {o : Outline} (h : t.read o = .ok a) :
    (∃ ms closed, o = .object ms closed) ∨ ∃ items closed, o = .array items closed := by
  unfold read at h
  split at h
  · next ms closed => exact .inl ⟨ms, closed, rfl⟩
  · next closed => exact .inr ⟨[], closed, rfl⟩
  · next first rest closed => exact .inr ⟨first :: rest, closed, rfl⟩
  · exact absurd h Outline.refuse_ne_ok

theorem read_object_eq_ok_iff {ms : List (Option String × Outline)} :
    t.read (.object ms closed) = .ok a ↔
      closed = true ∧ (∀ m ∈ t.others ms, t.Keeps m) ∧
        ∃ read, t.Chooses none (t.tags ms) (some read) ∧
          read (.object (t.others ms) true) = .ok a := by
  rw [read]
  cases closed with
  | false => exact iff_of_false bind_malformed_ne_ok (by simp)
  | true =>
    rw [bind_eq_ok_iff]
    constructor
    · rintro ⟨⟨chosen, after⟩, hmembers, h⟩
      obtain ⟨hkeeps, rfl, hchosen⟩ := readMembers_eq_ok_iff.mp hmembers
      cases chosen with
      | none => exact absurd h misfit_ne_ok
      | some read =>
        change read (.object ((t.others ms).reverse ++ []).reverse true) = _ at h
        rw [List.append_nil, List.reverse_reverse] at h
        exact ⟨rfl, hkeeps, read, hchosen, h⟩
    · rintro ⟨-, hkeeps, read, hchosen, h⟩
      refine ⟨_, readMembers_eq_ok_iff.mpr ⟨hkeeps, rfl, hchosen⟩, ?_⟩
      change read (.object ((t.others ms).reverse ++ []).reverse true) = _
      rw [List.append_nil, List.reverse_reverse]
      exact h

theorem read_array_cons_eq_ok_iff {first : Outline} {rest : List Outline} :
    t.read (.array (first :: rest) closed) = .ok a ↔
      closed = true ∧ ∃ read, t.readTag first = .ok read ∧
        Outline.itemsReadable rest t.room = true ∧ read (.array rest true) = .ok a := by
  rw [read, bind_eq_ok_iff]
  constructor
  · rintro ⟨read, hread, h⟩
    split at h
    · next hrest =>
      obtain ⟨hclosed, hrest⟩ := Bool.and_eq_true_iff.mp hrest
      exact ⟨hclosed, read, hread, hrest, h⟩
    · exact absurd h error_ne_ok
  · rintro ⟨rfl, read, hread, hrest, h⟩
    refine ⟨read, hread, ?_⟩
    rw [hrest]
    exact h

theorem read_array_eq_ok_iff {items : List Outline} :
    t.read (.array items closed) = .ok a ↔
      ∃ first rest, items = first :: rest ∧ closed = true ∧ ∃ read, t.readTag first = .ok read ∧
        Outline.itemsReadable rest t.room = true ∧ read (.array rest true) = .ok a := by
  cases items with
  | nil =>
    refine iff_of_false ?_ (by simp)
    rw [read]
    split
    · exact misfit_ne_ok
    · exact error_ne_ok
  | cons first rest =>
    rw [read_array_cons_eq_ok_iff]
    constructor
    · exact fun h => ⟨first, rest, rfl, h⟩
    · rintro ⟨_, _, hitems, h⟩
      obtain ⟨rfl, rfl⟩ := List.cons.inj hitems
      exact h

end Tagged

/-! ## Well-formed outlines -/

namespace Outline

theorem itemsWellFormed_eq (items : List Outline) :
    itemsWellFormed items = items.all fun item => item.wellFormed := by
  induction items with
  | nil => rfl
  | cons item items ih => rw [itemsWellFormed, ih, List.all_cons]

theorem membersWellFormed_eq (ms : List (Option String × Outline)) :
    membersWellFormed ms = ms.all fun m => m.2.wellFormed := by
  induction ms with
  | nil => rfl
  | cons m ms ih => rw [membersWellFormed, ih, List.all_cons]

theorem membersReadable_eq (ms : List (Option String × Outline)) (room : Nat) :
    membersReadable ms room = ms.all fun m => m.1.isSome && m.2.readable room := by
  induction ms with
  | nil => rfl
  | cons m ms ih => rw [membersReadable, ih, List.all_cons]

theorem wellFormed_array {items : List Outline} (h : ∀ item ∈ items, item.wellFormed = true) :
    (array items true).wellFormed = true := by
  rw [wellFormed, Bool.true_and, itemsWellFormed_eq]
  exact List.all_eq_true.mpr h

theorem wellFormed_object {ms : List (Option String × Outline)}
    (h : ∀ m ∈ ms, m.2.wellFormed = true) : (object ms true).wellFormed = true := by
  rw [wellFormed, Bool.true_and, membersWellFormed_eq]
  exact List.all_eq_true.mpr h

mutual

theorem wellFormed_of_readable : ∀ {o : Outline} {room : Nat}, o.readable room = true →
    o.wellFormed = true
  | null, _, _ => rfl
  | bool _, _, _ => rfl
  | number _, _, _ => rfl
  | text _, _, _ => rfl
  | array items closed, room + 1, h => by
    obtain ⟨hclosed, hitems⟩ := Bool.and_eq_true_iff.mp h
    exact Bool.and_eq_true_iff.mpr ⟨hclosed, itemsWellFormed_of_readable hitems⟩
  | object members closed, room + 1, h => by
    obtain ⟨hclosed, hmembers⟩ := Bool.and_eq_true_iff.mp h
    exact Bool.and_eq_true_iff.mpr ⟨hclosed, membersWellFormed_of_readable hmembers⟩

theorem itemsWellFormed_of_readable : ∀ {items : List Outline} {room : Nat},
    itemsReadable items room = true → itemsWellFormed items = true
  | [], _, _ => rfl
  | item :: rest, room, h => by
    obtain ⟨hitem, hrest⟩ := Bool.and_eq_true_iff.mp h
    exact Bool.and_eq_true_iff.mpr
      ⟨wellFormed_of_readable hitem, itemsWellFormed_of_readable hrest⟩

theorem membersWellFormed_of_readable : ∀ {ms : List (Option String × Outline)} {room : Nat},
    membersReadable ms room = true → membersWellFormed ms = true
  | [], _, _ => rfl
  | (key, value) :: rest, room, h => by
    rw [membersReadable, Bool.and_eq_true, Bool.and_eq_true] at h
    obtain ⟨⟨-, hvalue⟩, hrest⟩ := h
    exact Bool.and_eq_true_iff.mpr
      ⟨wellFormed_of_readable hvalue, membersWellFormed_of_readable hrest⟩

end

end Outline

open Outline

/-- The reader accepts only what is well formed. -/
def Strict (read : Outline → Result ε α) : Prop :=
  ∀ ⦃o : Outline⦄ ⦃a : α⦄, read o = .ok a → o.wellFormed = true

/-- What is neither broken nor an array or object is well formed. -/
theorem strict_of_refuse {read : Outline → Result ε α} (expected : String)
    (hbroken : read .broken = Outline.broken.refuse expected)
    (harray : ∀ items closed,
      read (.array items closed) = (Outline.array items closed).refuse expected)
    (hobject : ∀ members closed,
      read (.object members closed) = (Outline.object members closed).refuse expected) :
    Strict read := by
  intro o a h
  cases o with
  | broken => exact absurd (hbroken.symm.trans h) refuse_ne_ok
  | array items closed => exact absurd ((harray items closed).symm.trans h) refuse_ne_ok
  | object members closed => exact absurd ((hobject members closed).symm.trans h) refuse_ne_ok
  | _ => rfl

theorem strict_readBool : Strict (readBool : Outline → Result ε Bool) :=
  strict_of_refuse _ rfl (fun _ _ => rfl) fun _ _ => rfl

theorem strict_readUnsigned (expected : String) (greatest : Nat) :
    Strict (readUnsigned expected greatest : Outline → Result ε Nat) :=
  strict_of_refuse _ rfl (fun _ _ => rfl) fun _ _ => rfl

theorem strict_readText (expected : String) (read : String → Except ε α) :
    Strict (readText expected read) :=
  strict_of_refuse _ rfl (fun _ _ => rfl) fun _ _ => rfl

theorem Strict.map {β : Type} {read : Outline → Result ε α} (h : Strict read) (f : α → β) :
    Strict fun o => (read o).map f := by
  intro o b hb
  obtain ⟨a, ha, -⟩ := map_eq_ok_iff.mp hb
  exact h ha

theorem Strict.readOption {read : Outline → Result ε α} (h : Strict read) :
    Strict (Outline.readOption read) := by
  intro o a ha
  unfold Outline.readOption at ha
  split at ha
  · rfl
  · exact h.map some ha

theorem Strict.readList {read : Outline → Result ε α} (h : Strict read) :
    Strict (Outline.readList read) := by
  intro o as has
  obtain ⟨items, rfl, hitems⟩ := readList_eq_ok_iff.mp has
  refine wellFormed_array ?_
  clear has
  induction items generalizing as with
  | nil => exact List.forall_mem_nil _
  | cons item items ih =>
    obtain ⟨a, rest, ha, hrest, -⟩ := mapM_cons_eq_ok_iff.mp hitems
    exact List.forall_mem_cons.mpr ⟨h ha, ih hrest⟩

namespace Shape

variable {s : Shape ε σ}

theorem wellFormed_of_readMembers (hs : ∀ field ∈ s.fields, Strict field.read)
    {given : List String} {draft : σ} {ms : List (Option String × Outline)}
    {result : List String × σ} (h : s.readMembers given draft ms = .ok result) :
    ∀ m ∈ ms, m.2.wellFormed = true := by
  induction ms generalizing given draft with
  | nil => exact List.forall_mem_nil _
  | cons m ms ih =>
    obtain ⟨_, _, heffect, -, h⟩ := readMembers_cons_eq_ok_iff.mp h
    refine List.forall_mem_cons.mpr ⟨?_, ih h⟩
    cases heffect with
    | field hfield hread => exact hs _ (List.mem_of_find?_eq_some hfield) hread
    | unknown _ hvalue => exact hvalue

theorem wellFormed_of_readItems (hs : ∀ field ∈ s.fields, Strict field.read)
    {items rest : List Outline} {closed : Bool} {draft a : σ} {fields : List (Field ε σ)}
    (hfields : fields ⊆ s.fields)
    (h : s.readItems items closed draft fields rest = .ok (a, 0)) :
    ∀ item ∈ rest, item.wellFormed = true := by
  induction fields generalizing draft rest with
  | nil =>
    obtain ⟨-, hlength⟩ := Prod.mk.inj (Except.ok.inj h)
    rw [List.length_eq_zero_iff.mp hlength]
    exact List.forall_mem_nil _
  | cons field fields ih =>
    obtain ⟨hfield, hfields⟩ := List.cons_subset.mp hfields
    cases rest with
    | nil => exact List.forall_mem_nil _
    | cons item rest =>
      obtain ⟨put, hread, h⟩ := readItems_cons_eq_ok_iff.mp h
      exact List.forall_mem_cons.mpr ⟨hs field hfield hread, ih hfields h⟩

/-- A structure is well formed if its fields are. -/
theorem strict (hs : ∀ field ∈ s.fields, Strict field.read) : Strict s.read := by
  intro o a h
  unfold read at h
  split at h
  · obtain ⟨rfl, _, hmembers, -⟩ := readObject_eq_ok_iff.mp h
    exact wellFormed_object (wellFormed_of_readMembers hs hmembers)
  · obtain ⟨rfl, hitems⟩ := readArray_eq_ok_iff.mp h
    exact wellFormed_array (wellFormed_of_readItems hs (List.Subset.refl _) hitems)
  · exact absurd h refuse_ne_ok

end Shape

namespace Tagged

variable {t : Tagged ε α}

theorem strict_readTag : Strict t.readTag :=
  strict_of_refuse _ rfl (fun _ _ => rfl) fun _ _ => rfl

/-- All of a choice is well formed, whatever becomes of the content of the alternative. -/
theorem strict : Strict t.read := by
  intro o a h
  obtain ⟨ms, closed, rfl⟩ | ⟨items, closed, rfl⟩ := object_or_array_of_read h
  · obtain ⟨rfl, hkeeps, read, hchosen, -⟩ := read_object_eq_ok_iff.mp h
    refine wellFormed_object fun m hm => ?_
    by_cases htag : m.1 = some t.tag
    · have hmem : m ∈ t.tags ms := List.mem_filter.mpr ⟨hm, by simpa using htag⟩
      generalize t.tags ms = tags at hchosen hmem
      cases hchosen with
      | named hread => exact List.mem_singleton.mp hmem ▸ strict_readTag hread
    · exact wellFormed_of_readable (hkeeps m (List.mem_filter.mpr ⟨hm, by simpa using htag⟩)).2
  · obtain ⟨first, rest, rfl, rfl, read, hread, hrest, -⟩ := read_array_eq_ok_iff.mp h
    exact Bool.and_eq_true_iff.mpr ⟨strict_readTag hread, itemsWellFormed_of_readable hrest⟩

end Tagged

end TunnelConfig.Json
