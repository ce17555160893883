import TunnelConfig.Configuration.Json
import TunnelConfig.Proofs.Encoding
import TunnelConfig.Proofs.Members
import TunnelConfig.Proofs.Networks

/-!
# Where networks come from

**Theorem (`Configuration.networks_allowed`).** Networks come from texts, from JSON documents and
from buffers. Whichever way one came, its prefix length is the number that stands there, and the
address can have a prefix of that length. Therefore whatever is read from a document can be written
as a buffer, and the buffer is read as the same configuration.

The networks of a document are somewhere inside its peers, and a peer's change is read only after
all of it was passed over. What a reader yields is followed by a property that its texts have: if a
structure has it before any field was read and every field keeps it, it has it in the end, whatever
the order of the members and also if it is an array (`Shape.read_keeps`). A tagged alternative reads
its content from what it was given and nothing else (`Tagged.exists_content`).
-/

namespace TunnelConfig

namespace Json

variable {ε α σ : Type}

/-! ## Texts in a document -/

namespace Outline

/-- The text is a value somewhere in the outline. -/
inductive Mentions (text : String) : Outline → Prop
  | itself : Mentions text (.text text)
  | item {items : List Outline} {closed : Bool} {value : Outline} (hvalue : value ∈ items)
      (h : Mentions text value) : Mentions text (.array items closed)
  | member {members : List (Option String × Outline)} {closed : Bool} {key : Option String}
      {value : Outline} (hmember : (key, value) ∈ members) (h : Mentions text value) :
      Mentions text (.object members closed)

/-- Every text that is a value somewhere in the outline has the property. -/
def AllTexts (p : String → Prop) (o : Outline) : Prop := ∀ text, o.Mentions text → p text

variable {p : String → Prop}

theorem AllTexts.of_item {items : List Outline} {closed : Bool} {value : Outline}
    (h : (array items closed).AllTexts p) (hvalue : value ∈ items) : value.AllTexts p :=
  fun _ htext => h _ (.item hvalue htext)

theorem AllTexts.of_member {members : List (Option String × Outline)} {closed : Bool}
    {key : Option String} {value : Outline} (h : (object members closed).AllTexts p)
    (hmember : (key, value) ∈ members) : value.AllTexts p :=
  fun _ htext => h _ (.member hmember htext)

theorem AllTexts.array {items : List Outline} {closed : Bool}
    (h : ∀ value ∈ items, value.AllTexts p) : (Outline.array items closed).AllTexts p := by
  rintro _ (_ | ⟨hvalue, htext⟩)
  exact h _ hvalue _ htext

theorem AllTexts.object {members : List (Option String × Outline)} {closed : Bool}
    (h : ∀ member ∈ members, member.2.AllTexts p) : (Outline.object members closed).AllTexts p := by
  rintro _ (_ | _ | ⟨hmember, htext⟩)
  exact h _ hmember _ htext

end Outline

/-! ## What readers keep -/

open Outline

/-- The field keeps the property of the structure, if its texts have theirs. -/
def Field.Keeps (p : String → Prop) (q : σ → Prop) (field : Field ε σ) : Prop :=
  ∀ value put, AllTexts p value → field.read value = .ok put → ∀ draft, q draft → q (put draft)

theorem Field.Keeps.of_map {p : String → Prop} {q : σ → Prop} {name : String} {required : Bool}
    {read : Outline → Result ε α} {put : α → σ → σ}
    (h : ∀ value a, AllTexts p value → read value = .ok a → ∀ draft, q draft → q (put a draft)) :
    Field.Keeps p q ⟨name, required, fun o => (read o).map put⟩ := by
  intro value _ hvalue hread
  obtain ⟨a, ha, rfl⟩ := map_eq_ok_iff.mp hread
  exact h value a hvalue ha

namespace Shape

variable {s : Shape ε σ} {p : String → Prop} {q : σ → Prop}

theorem readMembers_keeps (hkeep : ∀ field ∈ s.fields, field.Keeps p q) {given : List String}
    {draft : σ} {members : List (Option String × Outline)} {result : List String × σ}
    (hmembers : ∀ m ∈ members, m.2.AllTexts p)
    (h : s.readMembers given draft members = .ok result) (hdraft : q draft) : q result.2 := by
  induction members generalizing given draft with
  | nil =>
    obtain rfl := Except.ok.inj h
    exact hdraft
  | cons m members ih =>
    obtain ⟨hm, hmembers⟩ := List.forall_mem_cons.mp hmembers
    obtain ⟨names, put, heffect, -, h⟩ := readMembers_cons_eq_ok_iff.mp h
    refine ih hmembers h ?_
    cases heffect with
    | field hfield hread => exact hkeep _ (List.mem_of_find?_eq_some hfield) _ _ hm hread _ hdraft
    | unknown => exact hdraft

theorem readItems_keeps (hkeep : ∀ field ∈ s.fields, field.Keeps p q)
    {items rest : List Outline} {closed : Bool} {draft : σ} {fields : List (Field ε σ)}
    {result : σ × Nat} (hfields : fields ⊆ s.fields)
    (hrest : ∀ value ∈ rest, AllTexts p value)
    (h : s.readItems items closed draft fields rest = .ok result) (hdraft : q draft) :
    q result.1 := by
  induction fields generalizing draft rest with
  | nil =>
    obtain rfl := Except.ok.inj h
    exact hdraft
  | cons field fields ih =>
    obtain ⟨hfield, hfields⟩ := List.cons_subset.mp hfields
    cases rest with
    | nil =>
      obtain ⟨-, -, h⟩ := readItems_nil_eq_ok_iff.mp h
      exact ih hfields hrest h hdraft
    | cons value rest =>
      obtain ⟨hvalue, hrest⟩ := List.forall_mem_cons.mp hrest
      obtain ⟨put, hread, h⟩ := readItems_cons_eq_ok_iff.mp h
      exact ih hfields hrest h (hkeep field hfield value put hvalue hread draft hdraft)

/-- What holds of the blank structure and is kept by every field holds of whatever is read. -/
theorem read_keeps (hblank : q s.blank) (hkeep : ∀ field ∈ s.fields, field.Keeps p q)
    {o : Outline} {a : σ} (ho : o.AllTexts p) (h : s.read o = .ok a) : q a := by
  unfold read at h
  split at h
  · obtain ⟨-, _, hmembers, -⟩ := readObject_eq_ok_iff.mp h
    exact readMembers_keeps hkeep (fun _ hm => ho.of_member hm) hmembers hblank
  · obtain ⟨-, hitems⟩ := readArray_eq_ok_iff.mp h
    exact readItems_keeps hkeep (List.Subset.refl _) (fun _ hvalue => ho.of_item hvalue) hitems
      hblank
  · exact absurd h refuse_ne_ok

end Shape

/-- A choice is read from the content of one of the alternatives. -/
theorem Tagged.exists_content {t : Tagged ε α} {p : String → Prop} {o : Outline} {a : α}
    (ho : o.AllTexts p) (h : t.read o = .ok a) :
    ∃ variant ∈ t.variants, ∃ content : Outline, content.AllTexts p ∧
      variant.2 content = .ok a := by
  obtain ⟨members, closed, rfl⟩ | ⟨items, closed, rfl⟩ := object_or_array_of_read h
  · obtain ⟨-, -, read, hchosen, h⟩ := read_object_eq_ok_iff.mp h
    generalize htags : t.tags members = tags at hchosen
    cases hchosen with
    | named hread =>
      obtain ⟨variant, hmem, rfl⟩ := exists_variant_of_readTag hread
      refine ⟨variant, hmem, _, .object fun m hm => ?_, h⟩
      exact ho.of_member (List.mem_filter.mp hm).1
  · obtain ⟨first, rest, rfl, -, read, hread, -, h⟩ := read_array_eq_ok_iff.mp h
    obtain ⟨variant, hmem, rfl⟩ := exists_variant_of_readTag hread
    refine ⟨variant, hmem, _, .array fun value hvalue => ?_, h⟩
    exact ho.of_item (List.mem_cons_of_mem _ hvalue)

end Json

/-! ## Networks of a document -/

open Json

/-- The network is what a text with the property spells. -/
def Network.From (p : String → Prop) (n : Network) : Prop := ∃ s, p s ∧ ofText s = .ok n

/-- All networks of the profile are what such texts spell. -/
def Profile.NetworksFrom (p : String → Prop) (profile : Profile) : Prop :=
  ∀ n ∈ profile.networks, n.From p

/-- All networks of the peer are what such texts spell. -/
def Peer.NetworksFrom (p : String → Prop) (peer : Peer) : Prop := ∀ n ∈ peer.networks, n.From p

section Documents

variable {p : String → Prop}

theorem Network.from_of_ofOutline {o : Outline} {n : Network} (ho : o.AllTexts p)
    (h : ofOutline o = .ok n) : n.From p := by
  unfold ofOutline Outline.readText at h
  split at h
  · next s =>
    split at h
    · next n' hread =>
      obtain rfl := Except.ok.inj h
      refine ⟨s, ho s .itself, ?_⟩
      cases hs : ofText s with
      | error e =>
        simp only [hs] at hread
        cases hread
      | ok m =>
        simp only [hs] at hread
        cases hread
        rfl
    · exact absurd h misfit_ne_ok
  · exact absurd h Outline.refuse_ne_ok

/-- Whatever holds of each item that is read holds of all that are. -/
theorem Json.Outline.forall_of_readList {α ε : Type} {read : Outline → Json.Result ε α}
    {q : α → Prop} (hread : ∀ value a, AllTexts p value → read value = .ok a → q a) {o : Outline}
    {as : List α} (ho : o.AllTexts p) (h : o.readList read = .ok as) : ∀ a ∈ as, q a := by
  obtain ⟨items, rfl, hitems⟩ := readList_eq_ok_iff.mp h
  clear h
  replace ho : ∀ value ∈ items, AllTexts p value := fun _ hvalue => ho.of_item hvalue
  induction items generalizing as with
  | nil =>
    obtain rfl := Except.ok.inj hitems
    exact List.forall_mem_nil _
  | cons value items ih =>
    obtain ⟨hvalue, ho⟩ := List.forall_mem_cons.mp ho
    obtain ⟨a, rest, ha, hrest, rfl⟩ := mapM_cons_eq_ok_iff.mp hitems
    exact List.forall_mem_cons.mpr ⟨hread value a hvalue ha, ih hrest ho⟩

theorem Profile.networksFrom_of_read {o : Outline} {profile : Profile} (ho : o.AllTexts p)
    (h : shape.read o = .ok profile) : profile.NetworksFrom p := by
  have hblank : Profile.blank.NetworksFrom p := List.forall_mem_nil _
  refine Shape.read_keeps hblank ?_ ho h
  -- Only the fifth field puts networks in.
  simp only [shape, optionalField, List.forall_mem_cons]
  refine ⟨.of_map fun _ _ _ _ _ hdraft => hdraft,
    .of_map fun _ _ _ _ _ hdraft => hdraft, .of_map fun _ _ _ _ _ hdraft => hdraft,
    .of_map fun _ _ _ _ _ hdraft => hdraft, .of_map ?_,
    .of_map fun _ _ _ _ _ hdraft => hdraft, List.forall_mem_nil _⟩
  intro value networks hvalue hread draft _
  exact Outline.forall_of_readList (fun _ _ => Network.from_of_ofOutline) hvalue hread

theorem Change.networksFrom_of_read {o : Outline} {key : Key} {change : Change}
    (ho : o.AllTexts p) (h : tagged.read o = .ok change) :
    Peer.NetworksFrom p ⟨key, change⟩ := by
  obtain ⟨variant, hvariant, content, hcontent, h⟩ := Tagged.exists_content ho h
  simp only [tagged, List.mem_cons, List.not_mem_nil, or_false] at hvariant
  obtain rfl | rfl | rfl := hvariant
  · obtain ⟨profile, hprofile, rfl⟩ := map_eq_ok_iff.mp h
    exact Profile.networksFrom_of_read hcontent hprofile
  · obtain ⟨profile, hprofile, rfl⟩ := map_eq_ok_iff.mp h
    exact Profile.networksFrom_of_read hcontent hprofile
  · change readRemoval content = .ok change at h
    unfold readRemoval at h
    split at h
    · split at h
      · obtain rfl := Except.ok.inj h
        exact List.forall_mem_nil _
      · exact absurd h misfit_ne_ok
    · obtain rfl := Except.ok.inj h
      exact List.forall_mem_nil _

theorem Peer.networksFrom_of_read {o : Outline} {peer : Peer} (ho : o.AllTexts p)
    (h : shape.read o = .ok peer) : peer.NetworksFrom p := by
  have hblank : Peer.NetworksFrom p ⟨default, .remove⟩ := List.forall_mem_nil _
  refine Shape.read_keeps hblank ?_ ho h
  simp only [shape, requiredField, List.forall_mem_cons]
  refine ⟨.of_map fun _ _ _ _ _ hdraft => hdraft, .of_map ?_, List.forall_mem_nil _⟩
  intro value change hvalue hread draft _
  exact Change.networksFrom_of_read hvalue hread

theorem Configuration.networksFrom_of_read {o : Outline} {c : Configuration} (ho : o.AllTexts p)
    (h : shape.read o = .ok c) : ∀ peer ∈ c.peers, peer.NetworksFrom p := by
  refine Shape.read_keeps (q := fun c => ∀ peer ∈ c.peers, peer.NetworksFrom p)
    (List.forall_mem_nil _) ?_ ho h
  simp only [shape, requiredField, optionalField, List.forall_mem_cons]
  refine ⟨.of_map fun _ _ _ _ _ hdraft => hdraft, .of_map ?_, List.forall_mem_nil _⟩
  intro value peers hvalue hread draft _
  exact Outline.forall_of_readList (fun _ _ => Peer.networksFrom_of_read) hvalue hread

theorem Configuration.exists_text {text : String} {c : Configuration} (h : ofText text = .ok c)
    {peer : Peer} (hpeer : peer ∈ c.peers) {n : Network} (hn : n ∈ peer.networks) :
    ∃ s, (Document.ofText text).value.Mentions s ∧ Network.ofText s = .ok n := by
  obtain ⟨_, hread, h⟩ := bind_eq_ok_iff.mp h
  split at h
  · exact absurd h error_ne_ok
  · obtain rfl := Except.ok.inj h
    exact networksFrom_of_read (fun _ hmentions => hmentions) hread peer hpeer n hn

end Documents

/-! ## Networks of a buffer -/

theorem Layout.exists_record {l : Layout} (h : l.Allowed) {peer : Peer}
    (hpeer : peer ∈ l.configuration.peers) {n : Network} (hn : n ∈ peer.networks) :
    ∃ q ∈ l.peers, ∃ b ∈ q.networks, NetworkAllowed b ∧ readNetwork b = n := by
  obtain ⟨q, hq, rfl⟩ := List.mem_map.mp hpeer
  have hpresent : q.record.flag 6 = false := by
    by_contra hremoval
    rw [Peer.networks, PeerBlocks.peer, PeerBlocks.change,
      if_pos (Bool.of_not_eq_false hremoval)] at hn
    cases hn
  have hnetworks : q.peer.networks = q.networks.map readNetwork := by
    rw [Peer.networks, PeerBlocks.peer, PeerBlocks.change, if_neg (Bool.eq_false_iff.mp hpresent)]
    split_ifs <;> rfl
  obtain ⟨b, hb, rfl⟩ := List.mem_map.mp (hnetworks ▸ hn)
  exact ⟨q, hq, b, hb, (h q hq).networks hpresent b hb, rfl⟩

/-- An allowed record gives the family and the prefix length of its network. -/
theorem Layout.record_readNetwork {b : Block 24} (h : NetworkAllowed b) :
    b.little 16 2 = (readNetwork b).family.code.toNat ∧
      b.little 18 1 = (readNetwork b).length.toNat := by
  rw [readNetwork, dif_pos (length_le_of_allowed h)]
  refine ⟨(code_readAddress ?_).symm, (b.toNat_little_one 18).symm⟩
  exact h.imp And.left And.left

namespace Configuration

/-- **Every network has an allowed prefix length.** What a text spells is a network exactly if the
address can have a prefix of that length, and is refused otherwise. Every network of a document is
spelled by a text in it, and every network of a buffer is in a record of it that gives the family
and the length. So whatever a document says can be encoded, if it is not too large for the driver,
and what is encoded decodes to what the document says. -/
theorem networks_allowed :
    (∀ (s : String) (n : Network),
      Network.ofText s = .ok n ↔ Network.Spells s n.address n.length ∧ n.address.Allows n.length) ∧
    (∀ (s : String) (a : Address) (length : UInt8), Network.Spells s a length →
      ¬a.Allows length → Network.ofText s = .error (.overlong ⟨a.family, length⟩)) ∧
    (∀ (buffer : Bytes) (c : Configuration), decode buffer = .ok c →
      ∃ l : Layout, l.bytes = buffer ∧ l.Counted ∧
        ∀ peer ∈ c.peers, ∀ n ∈ peer.networks, n.address.Allows n.length ∧
          ∃ q ∈ l.peers, ∃ b ∈ q.networks,
            b.little 16 2 = n.family.code.toNat ∧ b.little 18 1 = n.length.toNat) ∧
    ∀ (text : String) (c : Configuration), ofText text = .ok c →
      (∀ peer ∈ c.peers, ∀ n ∈ peer.networks, n.address.Allows n.length ∧
        ∃ s, (Document.ofText text).value.Mentions s ∧ Network.Spells s n.address n.length) ∧
      (c.requestSize ≤ 4294967295 →
        ∃ buffer, c.encode = .ok buffer ∧ buffer.size = c.requestSize ∧
          decode buffer.bytes = .ok c) := by
  refine ⟨fun s n => Network.ofText_eq_ok_iff_spells, fun s a length => Network.ofText_overlong,
    ?_, ?_⟩
  · intro buffer c h
    obtain ⟨l, hcounted, hbytes⟩ := Layout.exists_layout h
    obtain ⟨hallowed, rfl⟩ :=
      (Layout.decode_bytes_eq_ok_iff hcounted c).mp (hbytes.symm ▸ h)
    refine ⟨l, hbytes, hcounted, fun peer hpeer n hn => ?_⟩
    obtain ⟨q, hq, b, hb, hrecord, rfl⟩ := l.exists_record hallowed hpeer hn
    exact ⟨Address.allows_iff.mpr (Layout.readNetwork b).length_le, q, hq, b, hb,
      Layout.record_readNetwork hrecord⟩
  · intro text c h
    constructor
    · intro peer hpeer n hn
      obtain ⟨s, hmentions, hs⟩ := exists_text h hpeer hn
      obtain ⟨hspells, hallows⟩ := Network.ofText_eq_ok_iff_spells.mp hs
      exact ⟨hallows, s, hmentions, hspells⟩
    · intro hsize
      have hlt : c.requestSize < 4294967296 := Nat.lt_succ_of_le hsize
      exact ⟨⟨c.layout.bytes⟩, encode_eq hlt, c.length_layout, decode_layout (countsFit_of_lt hlt)⟩

/-- A peer that comes with one network. -/
def single : Configuration where
  interface := .blank
  peers :=
    [⟨.filled 1, .set { Profile.blank with
        networks := [⟨.v6 ⟨[0xfc00, 0, 0, 0, 0, 0, 0, 0], rfl⟩, 7, by decide⟩] }⟩]

/-- It is written as an array, and the change of its peer is named after the networks. -/
def singleText : String :=
  "[\x7b\x7d,[\x7b\"change\":\x7b\"allowed_ips\":[\" fc00::/7\"],\"action\":\"set\"\x7d," ++
    "\"public_key\":\"AQEBAQEBAQEBAQEBAQEBAQEBAQEBAQEBAQEBAQEBAQE=\"\x7d]]"

theorem networks_allowed_single :
    ofText singleText = .ok single ∧ single.requestSize ≤ 4294967295 ∧
      ∃ buffer, single.encode = .ok buffer ∧ buffer.size = 240 ∧
        decode buffer.bytes = .ok single := by
  have hread : ofText singleText = .ok single := by decide +kernel
  have hsize : single.requestSize ≤ 4294967295 := by decide
  exact ⟨hread, hsize, (networks_allowed.2.2.2 _ _ hread).2 hsize⟩

end Configuration

end TunnelConfig
