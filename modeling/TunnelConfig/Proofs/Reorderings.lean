import Mathlib.Data.List.Pairwise
import TunnelConfig.Proofs.Members

/-!
# Readers that do not see the order of members

Outlines are `Reordered` if they have, at any depth, the same members in another order, while the
items of arrays stay where they are. A reader is `OrderBlind` if it yields the same for outlines
that are reordered. Readers fail at the first fault, and which one that is does depend on the order,
so this is about what they yield and not about how they fail.

**Structures.** Two members that are next to each other may be swapped, because two fields put
different things into the structure (`Field.Commutes`) and no field is given twice. Every order is
reached by swaps (`Shape.readMembers_perm`). A structure is read without seeing the order if its
fields are (`Shape.OrderFree.orderBlind`).

**Alternatives.** The member that names the alternative is picked out wherever it stands, and the
others are kept in their order for the reader of the alternative, so a choice is read without seeing
the order if each alternative is (`Tagged.orderBlind`).
-/

namespace TunnelConfig.Json

variable {ε α β σ : Type}

/-! ## Texts and outlines in another order -/

namespace Outline

mutual

/-- Two outlines say the same up to the order of members. -/
inductive Reordered : Outline → Outline → Prop
  | same (o : Outline) : Reordered o o
  | array {items items' : List Outline} {closed : Bool} (h : ItemsReordered items items') :
      Reordered (.array items closed) (.array items' closed)
  | object {members between members' : List (Option String × Outline)} {closed : Bool}
      (h : MembersReordered members between) (hperm : between.Perm members') :
      Reordered (.object members closed) (.object members' closed)

inductive ItemsReordered : List Outline → List Outline → Prop
  | nil : ItemsReordered [] []
  | cons {item item' : Outline} {rest rest' : List Outline} (h : Reordered item item')
      (hrest : ItemsReordered rest rest') : ItemsReordered (item :: rest) (item' :: rest')

/-- Each member has the same key and says the same up to the order of members. -/
inductive MembersReordered :
    List (Option String × Outline) → List (Option String × Outline) → Prop
  | nil : MembersReordered [] []
  | cons {key : Option String} {value value' : Outline}
      {rest rest' : List (Option String × Outline)} (h : Reordered value value')
      (hrest : MembersReordered rest rest') :
      MembersReordered ((key, value) :: rest) ((key, value') :: rest')

end

/-! ## Well-formed and readable outlines -/

mutual

theorem Reordered.wellFormed_eq : ∀ {o o' : Outline}, o.Reordered o' →
    o.wellFormed = o'.wellFormed
  | _, _, .same _ => rfl
  | _, _, .array h => by rw [wellFormed, wellFormed, h.wellFormed_eq]
  | _, _, .object h hperm => by
    rw [wellFormed, wellFormed, h.wellFormed_eq, membersWellFormed_eq, membersWellFormed_eq,
      hperm.all_eq]

theorem ItemsReordered.wellFormed_eq : ∀ {items items' : List Outline},
    ItemsReordered items items' → itemsWellFormed items = itemsWellFormed items'
  | _, _, .nil => rfl
  | _, _, .cons h hrest => by
    rw [itemsWellFormed, itemsWellFormed, h.wellFormed_eq, hrest.wellFormed_eq]

theorem MembersReordered.wellFormed_eq : ∀ {ms ms' : List (Option String × Outline)},
    MembersReordered ms ms' → membersWellFormed ms = membersWellFormed ms'
  | _, _, .nil => rfl
  | _, _, .cons h hrest => by
    rw [membersWellFormed, membersWellFormed, h.wellFormed_eq, hrest.wellFormed_eq]

end

mutual

theorem Reordered.readable_eq : ∀ {o o' : Outline}, o.Reordered o' → ∀ room,
    o.readable room = o'.readable room
  | _, _, .same _, _ => rfl
  | _, _, .array _, 0 => rfl
  | _, _, .array h, room + 1 => by rw [readable, readable, h.readable_eq room]
  | _, _, .object _ _, 0 => rfl
  | _, _, .object h hperm, room + 1 => by
    rw [readable, readable, h.readable_eq room, membersReadable_eq, membersReadable_eq,
      hperm.all_eq]

theorem ItemsReordered.readable_eq : ∀ {items items' : List Outline},
    ItemsReordered items items' → ∀ room, itemsReadable items room = itemsReadable items' room
  | _, _, .nil, _ => rfl
  | _, _, .cons h hrest, room => by
    rw [itemsReadable, itemsReadable, h.readable_eq room, hrest.readable_eq room]

theorem MembersReordered.readable_eq : ∀ {ms ms' : List (Option String × Outline)},
    MembersReordered ms ms' → ∀ room, membersReadable ms room = membersReadable ms' room
  | _, _, .nil, _ => rfl
  | _, _, .cons h hrest, room => by
    rw [membersReadable, membersReadable, h.readable_eq room, hrest.readable_eq room]

end

theorem ItemsReordered.length_eq {items items' : List Outline}
    (h : ItemsReordered items items') : items.length = items'.length := by
  induction items generalizing items' with
  | nil =>
    cases h
    rfl
  | cons item items ih =>
    cases h with
    | cons _ hrest => rw [List.length_cons, List.length_cons, ih hrest]

theorem MembersReordered.filter {ms ms' : List (Option String × Outline)}
    (h : MembersReordered ms ms') (p : Option String → Bool) :
    MembersReordered (ms.filter fun m => p m.1) (ms'.filter fun m => p m.1) := by
  induction ms generalizing ms' with
  | nil =>
    cases h
    exact .nil
  | cons m ms ih =>
    cases h with
    | @cons key value value' _ rest' h hrest =>
      simp only [List.filter_cons]
      split
      · exact .cons h (ih hrest)
      · exact ih hrest

end Outline

/-! ## Readers that do not see the order -/

open Outline

/-- The reader yields the same for outlines that are reordered. -/
def OrderBlind (read : Outline → Result ε α) : Prop :=
  ∀ ⦃o o' : Outline⦄, o.Reordered o' → ∀ a, read o = .ok a ↔ read o' = .ok a

/-- A reader that refuses arrays and objects has nothing to do with order. -/
theorem orderBlind_of_refuse {read : Outline → Result ε α} (expected : String)
    (harray : ∀ items closed,
      read (.array items closed) = (Outline.array items closed).refuse expected)
    (hobject : ∀ members closed,
      read (.object members closed) = (Outline.object members closed).refuse expected) :
    OrderBlind read := by
  intro o o' h a
  cases h with
  | same => exact Iff.rfl
  | array => rw [harray, harray]; exact iff_of_false refuse_ne_ok refuse_ne_ok
  | object => rw [hobject, hobject]; exact iff_of_false refuse_ne_ok refuse_ne_ok

theorem orderBlind_readBool : OrderBlind (readBool : Outline → Result ε Bool) :=
  orderBlind_of_refuse _ (fun _ _ => rfl) fun _ _ => rfl

theorem orderBlind_readUnsigned (expected : String) (greatest : Nat) :
    OrderBlind (readUnsigned expected greatest : Outline → Result ε Nat) :=
  orderBlind_of_refuse _ (fun _ _ => rfl) fun _ _ => rfl

theorem orderBlind_readText (expected : String) (read : String → Except ε α) :
    OrderBlind (readText expected read) :=
  orderBlind_of_refuse _ (fun _ _ => rfl) fun _ _ => rfl

theorem OrderBlind.map {read : Outline → Result ε α} (h : OrderBlind read) (f : α → β) :
    OrderBlind fun o => (read o).map f := by
  intro o o' horder b
  simp only [map_eq_ok_iff, h horder]

theorem OrderBlind.readOption {read : Outline → Result ε α} (h : OrderBlind read) :
    OrderBlind (Outline.readOption read) := by
  intro o o' horder a
  cases horder with
  | same => exact Iff.rfl
  | array hitems => exact h.map some (.array hitems) a
  | object hmembers hperm => exact h.map some (.object hmembers hperm) a

theorem OrderBlind.mapM {read : Outline → Result ε α} (h : OrderBlind read)
    {items items' : List Outline} (hitems : ItemsReordered items items') (as : List α) :
    items.mapM read = .ok as ↔ items'.mapM read = .ok as := by
  induction items generalizing items' as with
  | nil =>
    cases hitems
    exact Iff.rfl
  | cons item items ih =>
    cases hitems with
    | cons hitem hrest => simp only [mapM_cons_eq_ok_iff, h hitem, ih hrest]

theorem OrderBlind.readList {read : Outline → Result ε α} (h : OrderBlind read) :
    OrderBlind (Outline.readList read) := by
  intro o o' horder as
  cases horder with
  | same => exact Iff.rfl
  | array hitems => rw [readList_array_eq_ok_iff, readList_array_eq_ok_iff, h.mapM hitems]
  | object =>
    have hrefuse : ∀ members closed, (Outline.object members closed).readList read =
        (Outline.object members closed).refuse "a sequence" := fun _ _ => rfl
    rw [hrefuse, hrefuse]
    exact iff_of_false refuse_ne_ok refuse_ne_ok

/-! ## Structures -/

/-- What the two fields put into a structure does not depend on which of them comes first. -/
def Field.Commutes (f g : Field ε σ) : Prop :=
  ∀ o o' put put', f.read o = .ok put → g.read o' = .ok put' →
    ∀ draft, put' (put draft) = put (put' draft)

instance : Std.Symm (Field.Commutes : Field ε σ → Field ε σ → Prop) where
  symm _ _ h o o' put put' hput hput' draft := (h o' o put' put hput' hput draft).symm

theorem Field.Commutes.of_map {name name' : String} {required required' : Bool}
    {read : Outline → Result ε α} {read' : Outline → Result ε β} {put : α → σ → σ}
    {put' : β → σ → σ} (h : ∀ a b draft, put' b (put a draft) = put a (put' b draft)) :
    Field.Commutes ⟨name, required, fun o => (read o).map put⟩
      ⟨name', required', fun o => (read' o).map put'⟩ := by
  intro o o' _ _ hread hread' draft
  obtain ⟨a, -, rfl⟩ := map_eq_ok_iff.mp hread
  obtain ⟨b, -, rfl⟩ := map_eq_ok_iff.mp hread'
  exact h a b draft

/-- The fields of a structure do not see the order and do not depend on their own. -/
structure Shape.OrderFree (s : Shape ε σ) : Prop where
  blind : ∀ field ∈ s.fields, OrderBlind field.read
  commutes : s.fields.Pairwise Field.Commutes

namespace Shape

variable {s : Shape ε σ} {ms ms' : List (Option String × Outline)} {given given' : List String}
  {draft : σ}

/-- Only whether a field was given before matters, not when. -/
theorem readMembers_given (hgiven : given.Perm given') {names : List String} {a : σ}
    (h : s.readMembers given draft ms = .ok (names, a)) :
    ∃ names', names.Perm names' ∧ s.readMembers given' draft ms = .ok (names', a) := by
  induction ms generalizing given given' draft with
  | nil =>
    obtain ⟨rfl, rfl⟩ := Prod.mk.inj (Except.ok.inj h)
    exact ⟨given', hgiven, rfl⟩
  | cons m ms ih =>
    obtain ⟨fields, put, heffect, hnew, h⟩ := readMembers_cons_eq_ok_iff.mp h
    obtain ⟨names', hnames, h⟩ := ih (hgiven.append_left fields) h
    refine ⟨names', hnames, readMembers_cons_eq_ok_iff.mpr ⟨fields, put, heffect, ?_, h⟩⟩
    exact fun name hname hmem => hnew name hname (hgiven.mem_iff.mpr hmem)

/-- The effects of two members of which neither gives what the other does. -/
theorem Effect.commute (hs : s.OrderFree) {m m' : Option String × Outline}
    {names names' : List String} {put put' : σ → σ} (h : s.Effect m names put)
    (h' : s.Effect m' names' put') (hapart : ∀ name ∈ names', name ∉ names) :
    put' (put draft) = put (put' draft) := by
  cases h with
  | unknown => rfl
  | @field key value f put hfield hread =>
    cases h' with
    | unknown => rfl
    | @field key' value' g put' hfield' hread' =>
      refine hs.commutes.forall (List.mem_of_find?_eq_some hfield)
        (List.mem_of_find?_eq_some hfield') ?_ value value' put put' hread hread' draft
      rintro rfl
      have hname := List.find?_some hfield
      have hname' := List.find?_some hfield'
      simp only [beq_iff_eq] at hname hname'
      exact hapart key' List.mem_cons_self (by simp [← hname, ← hname'])

theorem readMembers_perm (hs : s.OrderFree) (hperm : ms.Perm ms') {names : List String} {a : σ}
    (h : s.readMembers given draft ms = .ok (names, a)) :
    ∃ names', names.Perm names' ∧ s.readMembers given draft ms' = .ok (names', a) := by
  induction hperm generalizing given draft names a with
  | nil => exact ⟨names, .refl _, h⟩
  | cons m _ ih =>
    obtain ⟨fields, put, heffect, hnew, h⟩ := readMembers_cons_eq_ok_iff.mp h
    obtain ⟨names', hnames, h⟩ := ih h
    exact ⟨names', hnames, readMembers_cons_eq_ok_iff.mpr ⟨fields, put, heffect, hnew, h⟩⟩
  | swap m m' ms =>
    obtain ⟨fields, put, heffect, hnew, h⟩ := readMembers_cons_eq_ok_iff.mp h
    obtain ⟨fields', put', heffect', hnew', h⟩ := readMembers_cons_eq_ok_iff.mp h
    have hapart : ∀ name ∈ fields', name ∉ fields := fun name hname hmem =>
      hnew' name hname (List.mem_append_left given hmem)
    have hgiven : (fields' ++ (fields ++ given)).Perm (fields ++ (fields' ++ given)) := by
      simpa only [List.append_assoc] using List.perm_append_comm.append_right given
    rw [heffect.commute hs heffect' hapart] at h
    obtain ⟨names', hnames, h⟩ := readMembers_given hgiven h
    refine ⟨names', hnames, readMembers_cons_eq_ok_iff.mpr ⟨fields', put', heffect', ?_,
      readMembers_cons_eq_ok_iff.mpr ⟨fields, put, heffect, ?_, h⟩⟩⟩
    · exact fun name hname hmem => hnew' name hname (List.mem_append_right fields hmem)
    · intro name hname hmem
      rcases List.mem_append.mp hmem with hmem | hmem
      · exact hapart name hmem hname
      · exact hnew name hname hmem
  | trans _ _ ih ih' =>
    obtain ⟨names', hnames, h⟩ := ih h
    obtain ⟨names'', hnames', h⟩ := ih' h
    exact ⟨names'', hnames.trans hnames', h⟩

theorem Effect.reordered_iff (hs : s.OrderFree) {key : Option String} {value value' : Outline}
    (h : value.Reordered value') {names : List String} {put : σ → σ} :
    s.Effect (key, value) names put ↔ s.Effect (key, value') names put := by
  constructor
  · intro heffect
    cases heffect with
    | field hfield hread =>
      exact .field hfield ((hs.blind _ (List.mem_of_find?_eq_some hfield) h _).mp hread)
    | unknown hfield hvalue => exact .unknown hfield (h.wellFormed_eq ▸ hvalue)
  · intro heffect
    cases heffect with
    | field hfield hread =>
      exact .field hfield ((hs.blind _ (List.mem_of_find?_eq_some hfield) h _).mpr hread)
    | unknown hfield hvalue => exact .unknown hfield (h.wellFormed_eq ▸ hvalue)

theorem readMembers_reordered (hs : s.OrderFree) (h : MembersReordered ms ms')
    (result : List String × σ) :
    s.readMembers given draft ms = .ok result ↔ s.readMembers given draft ms' = .ok result := by
  induction ms generalizing ms' given draft with
  | nil =>
    cases h
    exact Iff.rfl
  | cons m ms ih =>
    cases h with
    | cons h hrest =>
      simp only [readMembers_cons_eq_ok_iff, Effect.reordered_iff hs h, ih hrest]

theorem readObject_perm (hs : s.OrderFree) (hperm : ms.Perm ms') {closed : Bool} {a : σ}
    (h : s.readObject ms closed = .ok a) : s.readObject ms' closed = .ok a := by
  obtain ⟨hclosed, names, h, hrequired⟩ := readObject_eq_ok_iff.mp h
  obtain ⟨names', hnames, h⟩ := readMembers_perm hs hperm h
  refine readObject_eq_ok_iff.mpr ⟨hclosed, names', h, fun field hfield hneeded => ?_⟩
  exact hnames.mem_iff.mp (hrequired field hfield hneeded)

theorem readItems_reordered (hs : s.OrderFree) {items items' rest rest' : List Outline}
    {closed : Bool} {fields : List (Field ε σ)} (hfields : fields ⊆ s.fields)
    (hrest : ItemsReordered rest rest') (result : σ × Nat) :
    s.readItems items closed draft fields rest = .ok result ↔
      s.readItems items' closed draft fields rest' = .ok result := by
  induction fields generalizing draft rest rest' with
  | nil =>
    change Except.ok (draft, rest.length) = _ ↔ Except.ok (draft, rest'.length) = _
    rw [hrest.length_eq]
  | cons field fields ih =>
    obtain ⟨hfield, hfields⟩ := List.cons_subset.mp hfields
    cases hrest with
    | nil => simp only [readItems_nil_eq_ok_iff, ih hfields .nil]
    | cons h hrest =>
      simp only [readItems_cons_eq_ok_iff, hs.blind field hfield h, ih hfields hrest]

/-- A structure whose fields do not see the order is read without seeing it. -/
theorem OrderFree.orderBlind (hs : s.OrderFree) : OrderBlind s.read := by
  intro o o' h a
  cases h with
  | same => exact Iff.rfl
  | array hitems =>
    change s.readArray _ _ = _ ↔ s.readArray _ _ = _
    rw [readArray_eq_ok_iff, readArray_eq_ok_iff,
      readItems_reordered hs (List.Subset.refl _) hitems]
  | @object ms between ms' closed hmembers hperm =>
    have hbetween : s.readObject ms closed = .ok a ↔ s.readObject between closed = .ok a := by
      simp only [readObject_eq_ok_iff, readMembers_reordered hs hmembers]
    exact hbetween.trans ⟨readObject_perm hs hperm, readObject_perm hs hperm.symm⟩

end Shape

/-! ## Tagged alternatives -/

namespace Tagged

variable {t : Tagged ε α} {ms ms' : List (Option String × Outline)}

theorem orderBlind_readTag : OrderBlind t.readTag :=
  orderBlind_of_refuse _ (fun _ _ => rfl) fun _ _ => rfl

theorem chooses_some_iff {read : Outline → Result ε α} :
    t.Chooses none ms (some read) ↔
      ∃ value, ms = [(some t.tag, value)] ∧ t.readTag value = .ok read := by
  constructor
  · intro h
    cases h with
    | named h => exact ⟨_, rfl, h⟩
  · rintro ⟨value, rfl, h⟩
    exact .named h

theorem chooses_reordered (h : MembersReordered ms ms') (read : Outline → Result ε α) :
    t.Chooses none ms (some read) ↔ t.Chooses none ms' (some read) := by
  simp only [chooses_some_iff]
  constructor
  · rintro ⟨value, rfl, hread⟩
    cases h with
    | cons h hrest =>
      cases hrest
      exact ⟨_, rfl, (orderBlind_readTag h read).mp hread⟩
  · rintro ⟨value, rfl, hread⟩
    cases h with
    | cons h hrest =>
      cases hrest
      exact ⟨_, rfl, (orderBlind_readTag h read).mpr hread⟩

theorem chooses_perm (h : ms.Perm ms') (read : Outline → Result ε α) :
    t.Chooses none ms (some read) ↔ t.Chooses none ms' (some read) := by
  simp only [chooses_some_iff]
  refine exists_congr fun value => and_congr_left' ?_
  constructor
  · rintro rfl
    exact List.singleton_perm.mp h |>.symm
  · rintro rfl
    exact List.perm_singleton.mp h

theorem keeps_reordered (h : MembersReordered ms ms') :
    (∀ m ∈ ms, t.Keeps m) ↔ ∀ m ∈ ms', t.Keeps m := by
  induction ms generalizing ms' with
  | nil =>
    cases h
    exact Iff.rfl
  | cons m ms ih =>
    cases h with
    | cons h hrest =>
      simp only [List.forall_mem_cons, Keeps, h.readable_eq t.room]
      exact and_congr_right fun _ => ih hrest

/-- A choice is read without seeing the order if each alternative is. -/
theorem orderBlind (ht : ∀ variant ∈ t.variants, OrderBlind variant.2) : OrderBlind t.read := by
  have hchosen : ∀ {value : Outline} {read : Outline → Result ε α}, t.readTag value = .ok read →
      OrderBlind read := by
    intro value read hread
    obtain ⟨variant, hmem, rfl⟩ := exists_variant_of_readTag hread
    exact ht variant hmem
  intro o o' h a
  cases h with
  | same => exact Iff.rfl
  | array hitems =>
    cases hitems with
    | nil => exact Iff.rfl
    | cons hfirst hrest =>
      rw [read_array_cons_eq_ok_iff, read_array_cons_eq_ok_iff, hrest.readable_eq t.room]
      refine and_congr_right fun _ => exists_congr fun read => ?_
      rw [orderBlind_readTag hfirst read]
      refine and_congr_right fun hread => and_congr_right fun _ => ?_
      exact hchosen hread (.array hrest) a
  | @object ms between ms' closed hmembers hperm =>
    have htags : ∀ read, t.Chooses none (t.tags ms) (some read) ↔
        t.Chooses none (t.tags ms') (some read) := fun read =>
      (chooses_reordered (hmembers.filter (· == some t.tag)) read).trans
        (chooses_perm (hperm.filter _) read)
    have hkeeps : (∀ m ∈ t.others ms, t.Keeps m) ↔ ∀ m ∈ t.others ms', t.Keeps m := by
      refine (keeps_reordered (hmembers.filter (· != some t.tag))).trans ?_
      exact forall_congr' fun m => imp_congr_left (hperm.filter _).mem_iff
    rw [read_object_eq_ok_iff, read_object_eq_ok_iff, hkeeps]
    refine and_congr_right fun _ => and_congr_right fun _ => exists_congr fun read => ?_
    rw [htags read]
    refine and_congr_right fun hnamed => ?_
    obtain ⟨value, -, hread⟩ := chooses_some_iff.mp hnamed
    exact hchosen hread (.object (hmembers.filter (· != some t.tag)) (hperm.filter _)) a

end Tagged

end TunnelConfig.Json
