import TunnelConfig.Configuration.Json
import TunnelConfig.Proofs.Recognition
import TunnelConfig.Proofs.Reorderings

/-!
# The layout of a document and the order of its members

**Theorem (`Configuration.ofText_rearranged`).** What a JSON text says as a configuration, and
whether it says one at all, depends neither on its blanks nor on the order of the members in any
object of it; and no other texts say one.

A text is `Rearranged` if its blanks are others and its members, at any depth, in another order; all
else is written as before. What it says is then reordered, and all parts of a configuration are read
without seeing the order: those that are simple by themselves, the others because their parts are.
In the same way each part is well formed if it is read, so a text that says a configuration is a
text of the grammar.
-/

namespace TunnelConfig

namespace Json

open Outline

/-! ## Texts written in another order -/

namespace Written

mutual

/-- A value written with other blanks, and with the members of its objects in another order. -/
inductive Rearranged : Written → Written → Prop
  | null : Rearranged .null .null
  | bool (b : Bool) : Rearranged (.bool b) (.bool b)
  | number (n : WrittenNumber) : Rearranged (.number n) (.number n)
  | text (t : WrittenText) : Rearranged (.text t) (.text t)
  | array {blanks blanks' : Blanks} {items items' : List (Padded Written)}
      (h : ItemsRearranged items items') : Rearranged (.array blanks items) (.array blanks' items')
  | object {blanks blanks' : Blanks}
      {members between members' : List (Padded WrittenText × Padded Written)}
      (h : MembersRearranged members between) (hperm : between.Perm members') :
      Rearranged (.object blanks members) (.object blanks' members')

inductive ItemsRearranged : List (Padded Written) → List (Padded Written) → Prop
  | nil : ItemsRearranged [] []
  | cons {before before' after after' : Blanks} {item item' : Written}
      {rest rest' : List (Padded Written)} (h : Rearranged item item')
      (hrest : ItemsRearranged rest rest') :
      ItemsRearranged (⟨before, item, after⟩ :: rest) (⟨before', item', after'⟩ :: rest')

/-- Each member has the same key and its value is rearranged. -/
inductive MembersRearranged : List (Padded WrittenText × Padded Written) →
    List (Padded WrittenText × Padded Written) → Prop
  | nil : MembersRearranged [] []
  | cons {before before' after after' first first' last last' : Blanks} {key : WrittenText}
      {value value' : Written} {rest rest' : List (Padded WrittenText × Padded Written)}
      (h : Rearranged value value') (hrest : MembersRearranged rest rest') :
      MembersRearranged ((⟨before, key, after⟩, ⟨first, value, last⟩) :: rest)
        ((⟨before', key, after'⟩, ⟨first', value', last'⟩) :: rest')

end

theorem memberOutlines_eq (members : List (Padded WrittenText × Padded Written)) :
    memberOutlines members =
      members.map fun m => (m.1.content.text?, m.2.content.outline) := by
  induction members with
  | nil => rfl
  | cons m members ih => rw [memberOutlines, ih, List.map_cons]

mutual

theorem Rearranged.outline : ∀ {w w' : Written}, w.Rearranged w' → w.outline.Reordered w'.outline
  | _, _, .null => .same _
  | _, _, .bool _ => .same _
  | _, _, .number _ => .same _
  | _, _, .text _ => .same _
  | _, _, .array h => by
    rw [Written.outline, Written.outline]
    exact .array h.outlines
  | _, _, .object h hperm => by
    rw [Written.outline, Written.outline]
    refine .object h.memberOutlines ?_
    rw [memberOutlines_eq, memberOutlines_eq]
    exact hperm.map _

theorem ItemsRearranged.outlines : ∀ {items items' : List (Padded Written)},
    ItemsRearranged items items' → ItemsReordered (Written.outlines items) (Written.outlines items')
  | _, _, .nil => .nil
  | _, _, .cons h hrest => .cons h.outline hrest.outlines

theorem MembersRearranged.memberOutlines :
    ∀ {members members' : List (Padded WrittenText × Padded Written)},
    MembersRearranged members members' →
      MembersReordered (Written.memberOutlines members) (Written.memberOutlines members')
  | _, _, .nil => .nil
  | _, _, .cons h hrest => .cons h.outline hrest.memberOutlines

end

end Written

theorem Document.read_written {ε α : Type} {read : Outline → Result ε α} (w : Padded Written)
    (a : α) :
    (ofText w.document).read read = .ok a ↔ read w.content.outline = .ok a := by
  rw [ofText_written, Document.read, bind_eq_ok_iff]
  constructor
  · rintro ⟨b, hread, h⟩
    exact Except.ok.inj h ▸ hread
  · intro hread
    exact ⟨a, hread, rfl⟩

end Json

/-! ## Configurations -/

open Json

theorem Key.orderBlind : OrderBlind ofOutline := orderBlind_readText _ _

theorem Network.orderBlind : OrderBlind ofOutline := orderBlind_readText _ _

theorem Endpoint.orderBlind : OrderBlind ofOutline := orderBlind_readText _ _

theorem orderBlind_readUInt16 : OrderBlind readUInt16 := (orderBlind_readUnsigned _ _).map _

theorem orderBlind_readUInt64 : OrderBlind readUInt64 := (orderBlind_readUnsigned _ _).map _

theorem Interface.orderFree : shape.OrderFree where
  blind := by
    simp only [shape, optionalField, List.forall_mem_cons]
    exact ⟨Key.orderBlind.readOption.map _, Key.orderBlind.readOption.map _,
      orderBlind_readUInt16.readOption.map _, orderBlind_readBool.map _, List.forall_mem_nil _⟩
  commutes := by
    simp only [shape, optionalField, List.pairwise_cons, List.forall_mem_cons, List.not_mem_nil,
      IsEmpty.forall_iff, implies_true, and_true, List.Pairwise.nil]
    and_intros
    all_goals exact .of_map fun _ _ _ => rfl

theorem Traffic.orderFree : shape.OrderFree where
  blind := by
    simp only [shape, optionalField, List.forall_mem_cons]
    exact ⟨orderBlind_readUInt64.map _, orderBlind_readUInt64.map _, orderBlind_readUInt64.map _,
      List.forall_mem_nil _⟩
  commutes := by
    simp only [shape, optionalField, List.pairwise_cons, List.forall_mem_cons, List.not_mem_nil,
      IsEmpty.forall_iff, implies_true, and_true, List.Pairwise.nil]
    and_intros
    all_goals exact .of_map fun _ _ _ => rfl

theorem Profile.orderFree : shape.OrderFree where
  blind := by
    simp only [shape, optionalField, List.forall_mem_cons]
    exact ⟨Key.orderBlind.readOption.map _, orderBlind_readUInt16.readOption.map _,
      Endpoint.orderBlind.readOption.map _, orderBlind_readBool.map _,
      Network.orderBlind.readList.map _, Traffic.orderFree.orderBlind.map _, List.forall_mem_nil _⟩
  commutes := by
    simp only [shape, optionalField, List.pairwise_cons, List.forall_mem_cons, List.not_mem_nil,
      IsEmpty.forall_iff, implies_true, and_true, List.Pairwise.nil]
    and_intros
    all_goals exact .of_map fun _ _ _ => rfl

theorem Change.orderBlind_readRemoval : OrderBlind readRemoval := by
  intro o o' h a
  cases h with
  | same => exact Iff.rfl
  | object => exact Iff.rfl
  | array hitems =>
    cases hitems with
    | nil => exact Iff.rfl
    | cons => exact iff_of_false misfit_ne_ok misfit_ne_ok

theorem Change.orderBlind : OrderBlind tagged.read := by
  refine Tagged.orderBlind ?_
  simp only [tagged, List.forall_mem_cons]
  exact ⟨Profile.orderFree.orderBlind.map _, Profile.orderFree.orderBlind.map _,
    orderBlind_readRemoval, List.forall_mem_nil _⟩

theorem Peer.orderFree : shape.OrderFree where
  blind := by
    simp only [shape, requiredField, List.forall_mem_cons]
    exact ⟨Key.orderBlind.map _, Change.orderBlind.map _, List.forall_mem_nil _⟩
  commutes := List.pairwise_pair.mpr (.of_map fun _ _ _ => rfl)

theorem Configuration.orderFree : shape.OrderFree where
  blind := by
    simp only [shape, requiredField, optionalField, List.forall_mem_cons]
    exact ⟨Interface.orderFree.orderBlind.map _, Peer.orderFree.orderBlind.readList.map _,
      List.forall_mem_nil _⟩
  commutes := List.pairwise_pair.mpr (.of_map fun _ _ _ => rfl)

/-! ### Well-formed parts -/

theorem Key.strict : Strict ofOutline := strict_readText _ _

theorem strict_readUInt16 : Strict readUInt16 := (strict_readUnsigned _ _).map _

theorem Interface.strict : Strict shape.read := by
  refine Shape.strict ?_
  simp only [shape, optionalField, List.forall_mem_cons]
  exact ⟨Key.strict.readOption.map _, Key.strict.readOption.map _,
    strict_readUInt16.readOption.map _, strict_readBool.map _, List.forall_mem_nil _⟩

theorem Peer.strict : Strict shape.read := by
  refine Shape.strict ?_
  simp only [shape, requiredField, List.forall_mem_cons]
  exact ⟨Key.strict.map _, Tagged.strict.map _, List.forall_mem_nil _⟩

theorem Configuration.strict : Strict shape.read := by
  refine Shape.strict ?_
  simp only [shape, requiredField, optionalField, List.forall_mem_cons]
  exact ⟨Interface.strict.map _, Peer.strict.readList.map _, List.forall_mem_nil _⟩

/-- A text that says a configuration is a text of the grammar. -/
theorem Configuration.exists_written {text : String} {c : Configuration}
    (h : ofText text = .ok c) : ∃ w : Padded Written, w.document = text := by
  refine Document.whole_iff_written.mp ?_
  obtain ⟨_, hread, h⟩ := bind_eq_ok_iff.mp h
  obtain ⟨htrailing, -⟩ := check_eq_ok_iff.mp h
  exact ⟨strict hread, Bool.eq_false_iff.mpr htrailing⟩

/-- **Neither order nor layout matters.** Every text that is read as a configuration is a JSON text.
If a JSON text is written again with other blanks and with the members of any objects in it in
another order, then both are read as the same configuration or none of them is read as one. -/
theorem Configuration.ofText_rearranged :
    (∀ (text : String) (c : Configuration), ofText text = .ok c →
      ∃ w : Padded Written, w.document = text) ∧
    ∀ w w' : Padded Written, w.content.Rearranged w'.content → ∀ c : Configuration,
      ofText w.document = .ok c ↔ ofText w'.document = .ok c := by
  refine ⟨fun text c => exists_written, fun w w' h c => ?_⟩
  rw [ofText, ofText, Document.read_written, Document.read_written]
  exact orderFree.orderBlind h.outline c

/-- The characters of a text that stand for themselves. -/
def Json.WrittenText.ofPlain (s : String) : WrittenText where
  pieces := s.toList.filterMap fun c =>
    if h : ¬c.toNat < 32 ∧ c ≠ '"' ∧ c ≠ '\\' then some (.plain c h.1 h.2.1 h.2.2) else none

/-- A new line and a space. -/
def Json.Blanks.spaced : Blanks :=
  ⟨['\n', ' '], List.forall_mem_cons.mpr ⟨rfl, List.forall_mem_singleton.mpr rfl⟩⟩

/-- The same blanks on both sides. -/
def Json.Padded.within {α : Type} (blanks : Blanks) (content : α) : Padded α :=
  ⟨blanks, content, blanks⟩

namespace Configuration

/-- A document in which a peer goes. The members of each of its objects may be turned round. -/
def departure (blanks : Blanks) (order : ∀ {α : Type}, List α → List α) : Padded Written :=
  let member (key : WrittenText) (value : Written) : Padded WrittenText × Padded Written :=
    (.within blanks key, .within blanks value)
  let change : Written := .object blanks (order
    [member (.ofPlain "action") (.text (.ofPlain "remove")),
      member (.ofPlain "note") .null])
  let peer : Written := .object blanks (order
    [member (.ofPlain "public_key") (.text
        (.ofPlain "AQEBAQEBAQEBAQEBAQEBAQEBAQEBAQEBAQEBAQEBAQE=")),
      member (.ofPlain "change") change])
  .within blanks (.object blanks (order
    [member (.ofPlain "interface") (.object blanks []),
      member (.ofPlain "peers") (.array blanks [.within blanks peer])]))

/-- It is read as it is and turned round, with blanks between all tokens. -/
theorem ofText_rearranged_departure :
    (departure .none id).document =
      "\x7b\"interface\":\x7b\x7d,\"peers\":[\x7b" ++
        "\"public_key\":\"AQEBAQEBAQEBAQEBAQEBAQEBAQEBAQEBAQEBAQEBAQE=\"," ++
        "\"change\":\x7b\"action\":\"remove\",\"note\":null\x7d\x7d]\x7d" ∧
    (departure .none id).content.Rearranged
      (departure .spaced List.reverse).content ∧
    ofText (departure .none id).document =
      .ok ⟨.blank, [⟨⟨⟨List.replicate 32 1, rfl⟩⟩, .remove⟩]⟩ ∧
    ofText (departure .spaced List.reverse).document =
      .ok ⟨.blank, [⟨⟨⟨List.replicate 32 1, rfl⟩⟩, .remove⟩]⟩ := by
  have hread : ofText (departure .none id).document =
      .ok ⟨.blank, [⟨⟨⟨List.replicate 32 1, rfl⟩⟩, .remove⟩]⟩ := by decide +kernel
  have hswap : ∀ {α : Type} (a b : α), [a, b].Perm [b, a] := fun a b => .swap b a []
  have horder : (departure .none id).content.Rearranged
      (departure .spaced List.reverse).content :=
    .object (.cons (.object .nil .nil) (.cons (.array (.cons
      (.object (.cons (.text _) (.cons
        (.object (.cons (.text _) (.cons .null .nil)) (hswap _ _)) .nil)) (hswap _ _))
      .nil)) .nil)) (hswap _ _)
  exact ⟨by decide +kernel, horder, hread, (ofText_rearranged.2 _ _ horder _).mp hread⟩

end Configuration

end TunnelConfig
