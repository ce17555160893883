import TunnelConfig.Configuration.Json
import TunnelConfig.Proofs.Documents
import TunnelConfig.Proofs.Endpoints
import TunnelConfig.Proofs.Keys

/-!
# Configurations written and read as text

**Theorem (`Configuration.text_roundTrip`).** The JSON text of a configuration reads as the
configuration without the flow information of its endpoints, which is all that the text does not
show. So two configurations have the same text exactly if they differ at most in that.

A structure's members are read one after the other onto a draft. As the text has them in the order
of the fields and leaves out some that are not given, what reading does is said member by member
(`Shape.Reads`): a field that was left out is as it was in the draft, and no field is met twice.
-/

namespace TunnelConfig

namespace Json

variable {ε α β σ : Type}

/-! ## Rows of values -/

namespace Value

theorem outlines_map (f : α → Value) (as : List α) :
    outlines (as.map f) = as.map fun a => (f a).outline := by
  induction as with
  | nil => rfl
  | cons a as ih => rw [List.map_cons, outlines, ih]; rfl

theorem memberOutlines_append (ms ms' : List (String × Value)) :
    memberOutlines (ms ++ ms') = memberOutlines ms ++ memberOutlines ms' := by
  induction ms with
  | nil => rfl
  | cons m ms ih => rw [List.cons_append, memberOutlines, ih]; rfl

theorem itemsFit_map {f : α → Value} {as : List α} (h : ∀ a ∈ as, (f a).Fits) :
    ItemsFit (as.map f) := by
  induction as with
  | nil => trivial
  | cons a as ih =>
    obtain ⟨ha, has⟩ := List.forall_mem_cons.mp h
    exact ⟨ha, ih has⟩

theorem membersFit_append {ms ms' : List (String × Value)} (h : MembersFit ms)
    (h' : MembersFit ms') : MembersFit (ms ++ ms') := by
  induction ms with
  | nil => exact h'
  | cons m ms ih => exact ⟨h.1, ih h.2⟩

end Value

theorem mapM_eq_ok {read : β → Result ε α} {f : α → β} {g : α → α} {as : List α}
    (h : ∀ a ∈ as, read (f a) = .ok (g a)) : (as.map f).mapM read = .ok (as.map g) := by
  induction as with
  | nil => rfl
  | cons a as ih =>
    obtain ⟨ha, has⟩ := List.forall_mem_cons.mp h
    rw [List.map_cons, List.mapM_cons, ha, ih has]
    rfl

theorem Outline.readList_eq {read : Outline → Result ε α} {f : α → Value} {g : α → α} {as : List α}
    (h : ∀ a ∈ as, read (f a).outline = .ok (g a)) :
    readList read (Value.array (as.map f)).outline = .ok (as.map g) := by
  rw [Value.outline, Value.outlines_map, readList, mapM_eq_ok h]
  rfl

theorem Outline.readUnsigned_number {expected : String} {greatest n : Nat} (h : n ≤ greatest) :
    readUnsigned expected greatest (Value.number n).outline = (.ok n : Result ε Nat) := by
  show (if 0 ≤ (n : Int) ∧ (n : Int) ≤ greatest then _ else _) = _
  rw [if_pos ⟨by omega, by omega⟩]
  rfl

/-! ## Members of a structure -/

namespace Shape

variable {s : Shape ε σ} {given : List String} {draft result : σ}
  {members : List (Option String × Outline)}

/-- Reading members onto a draft, with no fields but the given ones read before, takes all of them
and ends with the result. -/
def Reads (s : Shape ε σ) (given : List String) (draft : σ)
    (members : List (Option String × Outline)) (result : σ) : Prop :=
  ∀ before ⊆ given, ∃ after, s.readMembers before draft members = .ok (after, result) ∧
    before ⊆ after ∧ ∀ name value, (some name, value) ∈ members → name ∈ after

theorem Reads.nil (h : draft = result) : s.Reads given draft [] result := fun before _ =>
  ⟨before, by rw [readMembers, h], List.Subset.refl before, by simp⟩

theorem Reads.cons {name : String} {field : Field ε σ} {value : Outline} {put : σ → σ}
    (hfield : s.field? name = some field) (hname : name ∉ given)
    (hread : field.read value = .ok put) (h : s.Reads (name :: given) (put draft) members result) :
    s.Reads given draft ((some name, value) :: members) result := by
  intro before hbefore
  obtain ⟨after, hmembers, hsubset, hnames⟩ :=
    h (name :: before) (List.cons_subset_cons name hbefore)
  refine ⟨after, ?_, fun n hn => hsubset (List.mem_cons_of_mem name hn), ?_⟩
  · rw [readMembers, hfield]
    dsimp only
    rw [if_neg fun hmem => hname (hbefore hmem), hread]
    exact hmembers
  · intro n v hmem
    rcases List.mem_cons.mp hmem with heq | hmem
    · rw [Option.some.inj (Prod.mk.inj heq).1]
      exact hsubset List.mem_cons_self
    · exact hnames n v hmem

/-- A field that is left out is not met. -/
theorem Reads.skip {name : String} (h : s.Reads (name :: given) draft members result) :
    s.Reads given draft members result := fun before hbefore =>
  h before fun _ hn => List.mem_cons_of_mem name (hbefore hn)

/-- An object of which all members were read and that has all the required ones. -/
theorem Reads.read (h : s.Reads [] s.blank members result)
    (hrequired : ∀ field ∈ s.fields, field.required = true →
      ∃ value, (some field.name, value) ∈ members) :
    s.read (.object members true) = .ok result := by
  obtain ⟨after, hmembers, -, hnames⟩ := h [] (List.Subset.refl [])
  have hnone : s.fields.find? (fun field => field.required && field.name ∉ after) = none := by
    rw [List.find?_eq_none]
    intro field hfield
    cases hreq : field.required with
    | false => simp
    | true =>
      obtain ⟨value, hmem⟩ := hrequired field hfield hreq
      simp [hnames field.name value hmem]
  rw [Shape.read, readObject, hmembers]
  simp only [bind, Except.bind, pure, Except.pure, Bool.not_true, Bool.false_eq_true, if_false,
    hnone]

end Shape

/-! ## Tagged alternatives -/

namespace Tagged

variable {t : Tagged ε α}

theorem readMembers_others (chosen : Option (Outline → Result ε α))
    {members others : List (Option String × Outline)}
    (h : ∀ m ∈ members, ∃ key, m.1 = some key ∧ key ≠ t.tag ∧ m.2.readable t.room = true) :
    t.readMembers chosen others members = .ok (chosen, members.reverse ++ others) := by
  induction members generalizing others with
  | nil => rfl
  | cons m members ih =>
    obtain ⟨⟨key, hkey, htag, hvalue⟩, hmembers⟩ := List.forall_mem_cons.mp h
    obtain ⟨key', value⟩ := m
    cases hkey
    rw [readMembers.eq_def]
    dsimp only
    rw [if_neg htag, if_pos hvalue, ih hmembers, List.reverse_cons, List.append_assoc]
    rfl

/-- An object whose first member names the alternative. -/
theorem read_named {name : String} {read : Outline → Result ε α}
    (hname : t.variants.find? (·.1 == name) = some (name, read))
    {members : List (Option String × Outline)}
    (h : ∀ m ∈ members, ∃ key, m.1 = some key ∧ key ≠ t.tag ∧ m.2.readable t.room = true) :
    t.read (.object ((some t.tag, .text name) :: members) true) = read (.object members true) := by
  have hmembers : t.readMembers none [] ((some t.tag, .text name) :: members) =
      .ok (some read, members.reverse) := by
    rw [readMembers, if_pos rfl]
    simp [readTag, hname, readMembers_others _ h, bind, Except.bind]
  rw [Tagged.read, hmembers]
  simp [bind, Except.bind]

end Tagged

/-! ## Fields of a configuration -/

namespace Shape

variable {s : Shape ContentError σ} {given : List String} {draft result : σ}
  {members : List (Option String × Outline)} {name : String}

theorem Reads.member {required : Bool} {read : Outline → ReadResult α} {put : α → σ → σ}
    {value : Outline} {a : α}
    (hfield : s.field? name = some ⟨name, required, fun o => (read o).map put⟩)
    (hname : name ∉ given) (hread : read value = .ok a)
    (h : s.Reads (name :: given) (put a draft) members result) :
    s.Reads given draft ((some name, value) :: members) result :=
  .cons hfield hname (congrArg (Except.map put) hread) h

/-- A field that may be left out, and is then as it was in the draft. -/
theorem Reads.option {read : Outline → ReadResult α} {put : Option α → σ → σ} {b? : Option β}
    {f : β → Value} {g : β → α}
    (hfield : s.field? name = some (optionalField name (Outline.readOption read) put))
    (hname : name ∉ given) (hread : ∀ b, Outline.readOption read (f b).outline = .ok (some (g b)))
    (hnone : put none draft = draft)
    (h : s.Reads (name :: given) (put (b?.map g) draft) members result) :
    s.Reads given draft (Value.memberOutlines (memberIf name (b?.map f)) ++ members) result := by
  cases b? with
  | none =>
    rw [Option.map_none, hnone] at h
    exact h.skip
  | some b => exact .member hfield hname (hread b) h

end Shape

end Json

/-! ## What the text does not show -/

/-- The profile as its text shows it. -/
def Profile.withoutFlow (p : Profile) : Profile :=
  { p with endpoint := p.endpoint.map Endpoint.withoutFlow }

def Change.withoutFlow : Change → Change
  | set profile => .set profile.withoutFlow
  | update profile => .update profile.withoutFlow
  | remove => .remove

def Peer.withoutFlow (p : Peer) : Peer := { p with change := p.change.withoutFlow }

/-- The configuration as its text shows it: without the flow information of its endpoints. -/
def Configuration.withoutFlow (c : Configuration) : Configuration :=
  { c with peers := c.peers.map Peer.withoutFlow }

open Json

theorem Profile.members_withoutFlow (p : Profile) : p.withoutFlow.members = p.members := by
  have hendpoint : (p.endpoint.map Endpoint.withoutFlow).map (fun e => Value.text e.text) =
      p.endpoint.map fun e => Value.text e.text := by
    rw [Option.map_map]
    exact congrArg (Option.map · p.endpoint) (funext fun e => by simp [Endpoint.text_withoutFlow])
  rw [members, members, withoutFlow, hendpoint]

theorem Change.toJson_withoutFlow (c : Change) : c.withoutFlow.toJson = c.toJson := by
  cases c with
  | set profile => rw [withoutFlow, toJson, Profile.members_withoutFlow, toJson]
  | update profile => rw [withoutFlow, toJson, Profile.members_withoutFlow, toJson]
  | remove => rfl

theorem Peer.toJson_withoutFlow (p : Peer) : p.withoutFlow.toJson = p.toJson := by
  rw [toJson, withoutFlow, Change.toJson_withoutFlow, toJson]

theorem Configuration.toJson_withoutFlow (c : Configuration) :
    c.withoutFlow.toJson = c.toJson := by
  have hpeers : (c.peers.map Peer.withoutFlow).map Peer.toJson = c.peers.map Peer.toJson := by
    rw [List.map_map]
    exact List.map_congr_left fun p _ => p.toJson_withoutFlow
  rw [toJson, withoutFlow, hpeers]
  rfl

/-! ## Reading what was written -/

theorem Key.ofOutline_toJson (k : Key) : ofOutline k.toJson.outline = .ok k := by
  show Outline.readText _ _ (.text k.text) = _
  rw [Outline.readText, Key.ofText_text]
  rfl

theorem Network.ofOutline_text (n : Network) : ofOutline (Value.text n.text).outline = .ok n := by
  show Outline.readText _ _ (.text n.text) = _
  rw [Outline.readText, Network.ofText_text]
  rfl

theorem Endpoint.ofOutline_text (e : Endpoint) :
    ofOutline (Value.text e.text).outline = .ok e.withoutFlow := by
  show Outline.readText _ _ (.text e.text) = _
  rw [Outline.readText, Endpoint.ofText?_text]

theorem readUInt16_number (n : UInt16) : readUInt16 (Value.number n.toNat).outline = .ok n := by
  have hlt : n.toNat < 65536 := n.toNat_lt
  rw [readUInt16, Outline.readUnsigned_number (Nat.le_of_lt_succ hlt)]
  exact congrArg Except.ok UInt16.ofNat_toNat

theorem readUInt64_number (n : UInt64) : readUInt64 (Value.number n.toNat).outline = .ok n := by
  have hlt : n.toNat < 18446744073709551616 := n.toNat_lt
  rw [readUInt64, Outline.readUnsigned_number (Nat.le_of_lt_succ hlt)]
  exact congrArg Except.ok UInt64.ofNat_toNat

theorem Key.readOption_toJson (k : Key) :
    Outline.readOption ofOutline k.toJson.outline = .ok (some k) :=
  congrArg (Except.map some) k.ofOutline_toJson

theorem Endpoint.readOption_text (e : Endpoint) :
    Outline.readOption ofOutline (Value.text e.text).outline = .ok (some e.withoutFlow) :=
  congrArg (Except.map some) e.ofOutline_text

theorem readOption_number (n : UInt16) :
    Outline.readOption readUInt16 (Value.number n.toNat).outline = .ok (some n) :=
  congrArg (Except.map some) (readUInt16_number n)

theorem Interface.read_toJson (i : Interface) : shape.read i.toJson.outline = .ok i := by
  rw [toJson, Value.outline]
  refine Shape.Reads.read ?_ (by simp [shape, optionalField])
  simp only [Value.memberOutlines_append, List.append_assoc]
  refine .option rfl (by simp) Key.readOption_toJson rfl ?_
  refine .option rfl (by simp) Key.readOption_toJson rfl ?_
  refine .option rfl (by simp) readOption_number rfl ?_
  refine .member rfl (by simp) rfl (.nil ?_)
  simp

theorem Traffic.read_toJson (t : Traffic) : shape.read t.toJson.outline = .ok t := by
  rw [toJson, Value.outline]
  refine Shape.Reads.read ?_ (by simp [shape, optionalField])
  refine .member rfl (by simp) (readUInt64_number _) ?_
  refine .member rfl (by simp) (readUInt64_number _) ?_
  exact .member rfl (by simp) (readUInt64_number _) (.nil rfl)

theorem Profile.read_members (p : Profile) :
    shape.read (.object (Value.memberOutlines p.members) true) = .ok p.withoutFlow := by
  refine Shape.Reads.read ?_ (by simp [shape, optionalField])
  rw [members]
  simp only [Value.memberOutlines_append, List.append_assoc]
  refine .option rfl (by simp) Key.readOption_toJson rfl ?_
  refine .option rfl (by simp) readOption_number rfl ?_
  refine .option rfl (by simp) Endpoint.readOption_text rfl ?_
  refine .member rfl (by simp) rfl ?_
  refine .member rfl (by simp) (Outline.readList_eq fun n _ => n.ofOutline_text) ?_
  refine .member rfl (by simp) p.traffic.read_toJson (.nil ?_)
  simp [withoutFlow]

theorem forall_memberIf {α : Type} {name : String} {f : α → Value} {a? : Option α}
    {p : Option String × Outline → Prop} (h : ∀ a, p (some name, (f a).outline)) :
    ∀ m ∈ Value.memberOutlines (memberIf name (a?.map f)), p m := by
  cases a? with
  | none => exact List.forall_mem_nil _
  | some a => exact List.forall_mem_singleton.mpr (h a)

/-- A profile is nested little enough for what a tagged alternative may contain, and none of its
members names an alternative. -/
theorem Profile.readable_members (p : Profile) :
    ∀ m ∈ Value.memberOutlines p.members, ∃ key, m.1 = some key ∧ key ≠ Change.tagged.tag ∧
      m.2.readable Change.tagged.room = true := by
  have hnetworks : ∀ (ns : List Network) (room : Nat),
      Outline.itemsReadable (Value.outlines (ns.map fun n => .text n.text)) room = true := by
    intro ns room
    induction ns with
    | nil => rfl
    | cons n ns ih => exact ih
  simp only [members, Value.memberOutlines_append, List.forall_mem_append]
  refine ⟨⟨⟨?_, ?_⟩, ?_⟩, ?_⟩
  · exact forall_memberIf fun _ => ⟨_, rfl, by decide, rfl⟩
  · exact forall_memberIf fun _ => ⟨_, rfl, by decide, rfl⟩
  · exact forall_memberIf fun _ => ⟨_, rfl, by decide, rfl⟩
  · refine List.forall_mem_cons.mpr ⟨⟨_, rfl, by decide, rfl⟩, ?_⟩
    refine List.forall_mem_cons.mpr ⟨⟨_, rfl, by decide, hnetworks p.networks 122⟩, ?_⟩
    exact List.forall_mem_singleton.mpr ⟨_, rfl, by decide, rfl⟩

theorem Change.read_toJson (c : Change) : tagged.read c.toJson.outline = .ok c.withoutFlow := by
  cases c with
  | set profile =>
    refine (Tagged.read_named rfl profile.readable_members).trans ?_
    exact congrArg (Except.map Change.set) profile.read_members
  | update profile =>
    refine (Tagged.read_named rfl profile.readable_members).trans ?_
    exact congrArg (Except.map Change.update) profile.read_members
  | remove =>
    exact Tagged.read_named (rfl : tagged.variants.find? (·.1 == "remove") = some _)
      (List.forall_mem_nil _)

theorem Peer.read_toJson (p : Peer) : shape.read p.toJson.outline = .ok p.withoutFlow := by
  rw [toJson, Value.outline]
  refine Shape.Reads.read ?_ (by simp [shape, requiredField, Value.memberOutlines])
  refine .member rfl (by simp) p.publicKey.ofOutline_toJson ?_
  exact .member rfl (by simp) p.change.read_toJson (.nil rfl)

theorem Configuration.read_toJson (c : Configuration) :
    shape.read c.toJson.outline = .ok c.withoutFlow := by
  rw [toJson, Value.outline]
  refine Shape.Reads.read ?_
    (by simp [shape, requiredField, optionalField, Value.memberOutlines])
  refine .member rfl (by simp) c.interface.read_toJson ?_
  refine .member rfl (by simp) (Outline.readList_eq fun p _ => p.read_toJson) ?_
  exact .nil rfl

/-! ## Whole texts -/

theorem membersFit_memberIf {α : Type} {name : String} {f : α → Value} {a? : Option α}
    (h : ∀ a, (f a).Fits) : Value.MembersFit (memberIf name (a?.map f)) := by
  cases a? with
  | none => trivial
  | some a => exact ⟨h a, trivial⟩

theorem fits_uint16 (n : UInt16) : (Value.number n.toNat).Fits := by
  have hlt : n.toNat < 65536 := n.toNat_lt
  show n.toNat ≤ 18446744073709551615
  omega

theorem fits_uint64 (n : UInt64) : (Value.number n.toNat).Fits := Nat.le_of_lt_succ n.toNat_lt

theorem Interface.fits_toJson (i : Interface) : i.toJson.Fits :=
  Value.membersFit_append (Value.membersFit_append (Value.membersFit_append
    (membersFit_memberIf fun _ => trivial) (membersFit_memberIf fun _ => trivial))
    (membersFit_memberIf fits_uint16)) ⟨trivial, trivial⟩

theorem Profile.membersFit (p : Profile) : Value.MembersFit p.members :=
  Value.membersFit_append (Value.membersFit_append (Value.membersFit_append
    (membersFit_memberIf fun _ => trivial) (membersFit_memberIf fits_uint16))
    (membersFit_memberIf fun _ => trivial))
    ⟨trivial, Value.itemsFit_map fun _ _ => trivial,
      ⟨fits_uint64 _, fits_uint64 _, fits_uint64 _, trivial⟩, trivial⟩

theorem Change.fits_toJson (c : Change) : c.toJson.Fits := by
  cases c with
  | set profile => exact ⟨trivial, profile.membersFit⟩
  | update profile => exact ⟨trivial, profile.membersFit⟩
  | remove => exact ⟨trivial, trivial⟩

theorem Configuration.fits_toJson (c : Configuration) : c.toJson.Fits :=
  ⟨c.interface.fits_toJson,
    Value.itemsFit_map fun p _ => ⟨trivial, p.change.fits_toJson, trivial⟩, trivial⟩

theorem Configuration.ofText_pretty (c : Configuration) :
    ofText c.toJson.pretty = .ok c.withoutFlow := by
  rw [ofText, Document.ofText_pretty c.fits_toJson, Document.read, read_toJson]
  rfl

theorem Configuration.ofText_pretty_newline (c : Configuration) :
    ofText (c.toJson.pretty ++ "\n") = .ok c.withoutFlow := by
  rw [ofText, Document.ofText_pretty_newline c.fits_toJson, Document.read, read_toJson]
  rfl

theorem Configuration.ofText_compact (c : Configuration) :
    ofText (String.ofList c.toJson.compact) = .ok c.withoutFlow := by
  rw [ofText, Document.ofText_compact c.fits_toJson, Document.read, read_toJson]
  rfl

/-- **Text and back.** A configuration's text, over several lines or on one, reads as the
configuration with zero for the flow information of each endpoint. So configurations have the same
text exactly if they are the same but for that. -/
theorem Configuration.text_roundTrip (c : Configuration) :
    ofText c.toJson.pretty = .ok c.withoutFlow ∧
    ofText (String.ofList c.toJson.compact) = .ok c.withoutFlow ∧
    ∀ d : Configuration,
      (c.toJson.pretty = d.toJson.pretty ↔ c.withoutFlow = d.withoutFlow) ∧
      (String.ofList c.toJson.compact = String.ofList d.toJson.compact ↔
        c.withoutFlow = d.withoutFlow) := by
  refine ⟨c.ofText_pretty, c.ofText_compact, fun d => ⟨⟨?_, ?_⟩, ⟨?_, ?_⟩⟩⟩
  · intro h
    exact Except.ok.inj (c.ofText_pretty.symm.trans (h ▸ d.ofText_pretty))
  · intro h
    rw [← c.toJson_withoutFlow, ← d.toJson_withoutFlow, h]
  · intro h
    exact Except.ok.inj (c.ofText_compact.symm.trans (h ▸ d.ofText_compact))
  · intro h
    rw [← c.toJson_withoutFlow, ← d.toJson_withoutFlow, h]

end TunnelConfig
