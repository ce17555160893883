import TunnelConfig.Proofs.Endpoints
import TunnelConfig.Proofs.Spellings

/-!
# One form for each network

**Theorem (`Network.text_canonical`).** Every address with every prefix length that fits its family
is a network whose text, with any blanks around it, reads as exactly that network. A text may spell
a network in many ways, but whatever it spells has one form, and this form tells it from all others.

**The form of an IPv6 address.** Where zeros are left out of an address depends on all of its
groups. The form is stated without saying how it is found (`IPv6.Written`): the run that is left out
is the longest, the first of the longest, and not a single group. The search for the run
(`IPv6.zeroRun_spec`) is the only part of the writer that this has to be compared with.

**What is accepted.** A text is taken apart at its first slash. The address in front is read before
the number behind it, and only then the number is compared with the family (`Network.Spells`), so a
number that is too long is refused and never cut down to what fits.
-/

namespace TunnelConfig

open Text

/-! ## The form of an IPv6 address -/

namespace IPv6

/-- There are `length` zero groups from `start` on. -/
def IsZeroRun (groups : List UInt16) (start length : Nat) : Prop :=
  (groups.drop start).take length = List.replicate length 0

theorem le_leadingZeros {gs : List UInt16} {n : Nat} (h : gs.take n = List.replicate n 0) :
    n ≤ leadingZeros gs := by
  induction n generalizing gs with
  | zero => exact Nat.zero_le _
  | succ n ih =>
    cases gs with
    | nil => cases h
    | cons g gs =>
      rw [List.take_succ_cons, List.replicate_succ] at h
      obtain ⟨rfl, hrest⟩ := List.cons.inj h
      have hle := ih hrest
      simpa [leadingZeros] using hle

theorem isZeroRun_iff {gs : List UInt16} {start length : Nat} :
    IsZeroRun gs start length ↔ length ≤ leadingZeros (gs.drop start) :=
  ⟨le_leadingZeros, take_leadingZeros⟩

/-- The address stands for an IPv4 address. -/
def Maps (ip : IPv6) (ipv4 : IPv4) : Prop :=
  ip.groups = [0, 0, 0, 0, 0, 0xffff] ++ groupsOf ipv4.octets

/-- How an address is written. An address that stands for an IPv4 address has a dotted tail, and no
other has one. Of the runs of at least two zero groups the longest, and of these the first, is left
out. -/
inductive Written (ip : IPv6) : List Char → Prop
  | dotted (ipv4 : IPv4) (hmaps : ip.Maps ipv4) : Written ip ("::ffff:".toList ++ ipv4.chars)
  | shortened (before after : List UInt16) (count : Nat) (hplain : ∀ ipv4, ¬ip.Maps ipv4)
      (hgroups : ip.groups = before ++ (List.replicate count 0 ++ after)) (hcount : 2 ≤ count)
      (hlongest : ∀ start length, IsZeroRun ip.groups start length → length ≤ count)
      (hfirst : ∀ start, IsZeroRun ip.groups start count → before.length ≤ start) :
      Written ip (groupChars before ++ ':' :: ':' :: groupChars after)
  | whole (hplain : ∀ ipv4, ¬ip.Maps ipv4) (hsingle : ∀ start, ¬IsZeroRun ip.groups start 2) :
      Written ip (groupChars ip.groups)

theorem mapped?_eq_some_iff {ip : IPv6} {ipv4 : IPv4} : ip.mapped? = some ipv4 ↔ ip.Maps ipv4 := by
  refine ⟨mapped?_eq_some, fun h => ?_⟩
  obtain ⟨a, b, c, d⟩ := ipv4
  have hoctets : ∀ x y : UInt8,
      Bytes.bigEndian 2 (UInt16.ofNat (Bytes.bigValue [x, y])).toNat = [x, y] := by
    intro x y
    have hback := flatMap_groupsOf 1 [x, y] rfl
    simpa [groupsOf] using hback
  have hgroups : ip.groups = [0, 0, 0, 0, 0, 0xffff, UInt16.ofNat (Bytes.bigValue [a, b]),
      UInt16.ofNat (Bytes.bigValue [c, d])] := h
  rw [mapped?, hgroups]
  simp only [hoctets, List.cons_append, List.nil_append]

theorem mapped?_eq_none_iff {ip : IPv6} : ip.mapped? = none ↔ ∀ ipv4, ¬ip.Maps ipv4 := by
  simp only [Option.eq_none_iff_forall_ne_some, ne_eq, mapped?_eq_some_iff]

/-- The run that is left out is the one that no other run comes before. -/
theorem zeroRun_eq {gs before after : List UInt16} {count : Nat}
    (hgroups : gs = before ++ (List.replicate count 0 ++ after))
    (hlongest : ∀ start length, IsZeroRun gs start length → length ≤ count)
    (hfirst : ∀ start, IsZeroRun gs start count → before.length ≤ start) :
    zeroRun gs = (before.length, count) := by
  obtain ⟨hrun, hlong, hbefore⟩ := zeroRun_spec gs
  have hthere : IsZeroRun gs before.length count := by
    rw [IsZeroRun, hgroups, List.drop_left, List.take_left' List.length_replicate]
  have hcount : (zeroRun gs).2 = count := by
    refine Nat.le_antisymm (hlongest _ _ (isZeroRun_iff.mpr hrun)) ?_
    exact Nat.le_trans (isZeroRun_iff.mp hthere) (hlong before.length)
  have hstart : (zeroRun gs).1 = before.length := by
    refine Nat.le_antisymm (Nat.le_of_not_lt fun hlt => ?_) (hfirst _ (isZeroRun_iff.mpr ?_))
    · have hshorter := hbefore before.length hlt
      have hle := isZeroRun_iff.mp hthere
      omega
    · rwa [hcount] at hrun
  exact Prod.ext hstart hcount

theorem written_iff (ip : IPv6) (cs : List Char) : ip.Written cs ↔ cs = ip.chars := by
  obtain ⟨hrun, hlong, hbefore⟩ := zeroRun_spec ip.groups
  constructor
  · rintro (⟨ipv4, hmaps⟩ | ⟨before, after, count, hplain, hgroups, hcount, hlongest, hfirst⟩ |
      ⟨hplain, hsingle⟩)
    · rw [chars, mapped?_eq_some_iff.mpr hmaps]
    · rw [chars, mapped?_eq_none_iff.mpr hplain]
      simp only [zeroRun_eq hgroups hlongest hfirst, if_pos hcount]
      rw [hgroups, List.take_left, ← List.drop_drop, List.drop_left,
        List.drop_left' List.length_replicate]
    · have hshort : ¬2 ≤ (zeroRun ip.groups).2 := fun hle =>
        hsingle _ (isZeroRun_iff.mpr (Nat.le_trans hle hrun))
      rw [chars, mapped?_eq_none_iff.mpr hplain]
      simp only [if_neg hshort]
  · rintro rfl
    rw [chars]
    split
    · next ipv4 hmapped => exact .dotted ipv4 (mapped?_eq_some_iff.mp hmapped)
    · next hmapped =>
      have hplain := mapped?_eq_none_iff.mp hmapped
      dsimp only
      split
      · next hcount =>
        have hlength : (ip.groups.take (zeroRun ip.groups).1).length ≤ (zeroRun ip.groups).1 :=
          List.length_take_le _ _
        refine .shortened _ _ (zeroRun ip.groups).2 hplain (leftOut_eq ip.groups) hcount
          (fun start length h => Nat.le_trans (isZeroRun_iff.mp h) (hlong start)) ?_
        intro start h
        refine Nat.le_trans hlength (Nat.le_of_not_lt fun hlt => ?_)
        have hshorter := hbefore start hlt
        have hle := isZeroRun_iff.mp h
        omega
      · next hshort =>
        refine .whole hplain fun start h => hshort ?_
        exact Nat.le_trans (isZeroRun_iff.mp h) (hlong start)

end IPv6

/-! ## Texts of networks -/

namespace Address

/-- A prefix length that an address can have: at most 32 for IPv4 and 128 for IPv6. -/
def Allows : Address → UInt8 → Prop
  | v4 _, length => length.toNat ≤ 32
  | v6 _, length => length.toNat ≤ 128

instance (a : Address) (length : UInt8) : Decidable (a.Allows length) :=
  match a with
  | v4 _ => inferInstanceAs (Decidable (length.toNat ≤ 32))
  | v6 _ => inferInstanceAs (Decidable (length.toNat ≤ 128))

theorem allows_iff {a : Address} {length : UInt8} : a.Allows length ↔ length ≤ a.family.bits := by
  cases a with
  | v4 ip => exact (UInt8.le_iff_toNat_le (b := 32)).symm
  | v6 ip => exact (UInt8.le_iff_toNat_le (b := 128)).symm

theorem text_v4 (ip : IPv4) : (v4 ip).text = toString ip.a.toNat ++ "." ++ toString ip.b.toNat ++
    "." ++ toString ip.c.toNat ++ "." ++ toString ip.d.toNat := by
  refine String.toList_inj.mp ?_
  simp [text, chars, IPv4.chars, decimal]

end Address

namespace Network

/-- A text is, but for blanks around it, an address, a slash and a number, whether or not the
address can have a prefix of that length. -/
def Spells (s : String) (a : Address) (length : UInt8) : Prop :=
  ∃ front back : List Char, trim s.toList = front ++ '/' :: back ∧ '/' ∉ front ∧
    Address.ofChars? front = some a ∧ IsNumber back length.toNat

/-- The text is taken apart at its first slash. -/
theorem span_slash {front back : List Char} (h : '/' ∉ front) :
    (front ++ '/' :: back).span (· != '/') = (front, '/' :: back) := by
  have hfront : ∀ c ∈ front, (c != '/') = true := fun c hc => by
    simpa using fun heq : c = '/' => h (heq ▸ hc)
  rw [List.span_eq_takeWhile_dropWhile, List.takeWhile_append_of_pos hfront,
    List.dropWhile_append_of_pos hfront]
  simp

theorem of_span_slash {cs front back : List Char} {c : Char}
    (h : cs.span (· != '/') = (front, c :: back)) : cs = front ++ '/' :: back ∧ '/' ∉ front := by
  rw [List.span_eq_takeWhile_dropWhile, Prod.mk.injEq] at h
  obtain ⟨rfl, hdrop⟩ := h
  have hc : ¬(c != '/') = true := by
    have hhead := List.head_dropWhile_not (· != '/') (l := cs) (by simp [hdrop])
    simpa [hdrop] using hhead
  refine ⟨?_, fun hmem => ?_⟩
  · have hsplit := List.takeWhile_append_dropWhile (p := (· != '/')) (l := cs)
    rw [hdrop, of_not_not (by simpa using hc : ¬c ≠ '/')] at hsplit
    exact hsplit.symm
  · simpa using List.all_eq_true.mp List.all_takeWhile '/' hmem

/-- Whatever a text spells is compared with the family. -/
theorem ofText_of_spells {s : String} {a : Address} {length : UInt8} (h : Spells s a length) :
    ofText s = (make a length).mapError .overlong := by
  obtain ⟨front, back, htrim, hfront, haddress, hnumber⟩ := h
  have hread : readUnsigned 255 back = .ok length.toNat :=
    readUnsigned_eq_ok_iff.mpr ⟨hnumber, Nat.le_of_lt_succ length.toNat_lt⟩
  rw [ofText, htrim, span_slash hfront]
  dsimp only
  rw [haddress]
  dsimp only
  rw [hread]
  dsimp only
  rw [UInt8.ofNat_toNat]

theorem ofText_overlong {s : String} {a : Address} {length : UInt8} (h : Spells s a length)
    (hlong : ¬a.Allows length) : ofText s = .error (.overlong ⟨a.family, length⟩) := by
  rw [ofText_of_spells h, make, dif_neg fun hle => hlong (Address.allows_iff.mpr hle)]
  rfl

theorem spells_of_ofText {s : String} {n : Network} (h : ofText s = .ok n) :
    Spells s n.address n.length := by
  rw [ofText] at h
  split at h
  · cases h
  · next front c back hspan =>
    obtain ⟨htrim, hfront⟩ := of_span_slash hspan
    split at h
    · cases h
    · next a haddress =>
      split at h
      · cases h
      · next count hread =>
        obtain ⟨hnumber, hle⟩ := readUnsigned_eq_ok_iff.mp hread
        rw [make] at h
        split at h
        · obtain rfl := Except.ok.inj h
          have hcount : (UInt8.ofNat count).toNat = count := by
            rw [UInt8.toNat_ofNat', Nat.mod_eq_of_lt (Nat.lt_succ_of_le hle)]
          exact ⟨front, back, htrim, hfront, haddress, hcount.symm ▸ hnumber⟩
        · cases h

/-- A text reads as a network exactly if it spells it and the prefix fits the family. -/
theorem ofText_eq_ok_iff_spells {s : String} {n : Network} :
    ofText s = .ok n ↔ Spells s n.address n.length ∧ n.address.Allows n.length := by
  constructor
  · exact fun h => ⟨spells_of_ofText h, Address.allows_iff.mpr n.length_le⟩
  · rintro ⟨h, -⟩
    rw [ofText_of_spells h, make_eq]
    rfl

theorem ofText_around (n : Network) {before after : List Char}
    (hbefore : ∀ c ∈ before, isBlank c = true) (hafter : ∀ c ∈ after, isBlank c = true) :
    ofText (String.ofList (before ++ n.text.toList ++ after)) = .ok n := by
  have hsame : ∀ s : String, trim s.toList = n.chars → Spells s n.address n.length := by
    intro s hs
    obtain ⟨front, back, htrim, hfront⟩ := spells_of_ofText n.ofText_text
    rw [text, String.toList_ofList, trim_eq_self fun _ => isBlank_of_mem_chars] at htrim
    exact ⟨front, back, hs.trans htrim, hfront⟩
  refine ofText_eq_ok_iff_spells.mpr ⟨hsame _ ?_, Address.allows_iff.mpr n.length_le⟩
  rw [String.toList_ofList, text, String.toList_ofList]
  exact trim_around hbefore hafter fun _ => isBlank_of_mem_chars

theorem text_eq_append (n : Network) :
    n.text = n.address.text ++ "/" ++ toString n.length.toNat := by
  refine String.toList_inj.mp ?_
  simp [text, chars, Address.text, decimal]

theorem text_inj {n m : Network} : n.text = m.text ↔ n = m := by
  constructor
  · intro h
    exact Except.ok.inj (n.ofText_text.symm.trans (h ▸ m.ofText_text))
  · rintro rfl
    rfl

/-- **One form for each network.** Every address with every prefix length that it can have is a
network. Its text is the text of the address, a slash and the length, and with any blanks around it
reads as that network. Exactly those texts are accepted that spell an address and a prefix length
that it can have; a longer one is refused. What is accepted reads again from its own text, so two
accepted texts are the same network exactly if that text is the same, and none of IPv6 is one of
IPv4. The last two lines say what the text of an address looks like. -/
theorem text_canonical :
    (∀ (a : Address) (length : UInt8), a.Allows length →
      ∃ n : Network, make a length = .ok n ∧ n.address = a ∧ n.family = a.family ∧
        n.length = length ∧ n.text = a.text ++ "/" ++ toString length.toNat ∧
        ∀ before after : List Char, (∀ c ∈ before, isBlank c = true) →
          (∀ c ∈ after, isBlank c = true) →
          ofText (String.ofList (before ++ n.text.toList ++ after)) = .ok n) ∧
    (∀ (s : String) (n : Network),
      ofText s = .ok n ↔ Spells s n.address n.length ∧ n.address.Allows n.length) ∧
    (∀ (s : String) (a : Address) (length : UInt8), Spells s a length → ¬a.Allows length →
      ofText s = .error (.overlong ⟨a.family, length⟩)) ∧
    (∀ (s t : String) (n m : Network), ofText s = .ok n → ofText t = .ok m →
      ofText n.text = .ok n ∧ (n = m ↔ n.text = m.text) ∧
        (n.family = .ipv6 → m.family = .ipv4 → n.text ≠ m.text)) ∧
    (∀ ip : IPv4, (Address.v4 ip).text = toString ip.a.toNat ++ "." ++ toString ip.b.toNat ++
      "." ++ toString ip.c.toNat ++ "." ++ toString ip.d.toNat) ∧
    ∀ (ip : IPv6) (cs : List Char), ip.Written cs ↔ String.ofList cs = (Address.v6 ip).text := by
  refine ⟨?_, fun s n => ofText_eq_ok_iff_spells, fun s a length => ofText_overlong, ?_,
    Address.text_v4, ?_⟩
  · intro a length hlength
    let n : Network := ⟨a, length, Address.allows_iff.mp hlength⟩
    exact ⟨n, n.make_eq, rfl, rfl, rfl, n.text_eq_append,
      fun _ _ hbefore hafter => n.ofText_around hbefore hafter⟩
  · intro s t n m _ _
    refine ⟨n.ofText_text, text_inj.symm, ?_⟩
    intro hn hm h
    rw [text_inj.mp h, hm] at hn
    cases hn
  · intro ip cs
    rw [ip.written_iff]
    exact String.ofList_inj.symm

/-- An IPv6 network that stands for one of IPv4, spelled in an unusual way. -/
theorem text_canonical_mapped :
    ∃ n : Network, n.family = .ipv6 ∧ n.text = "::ffff:10.0.0.1/96" ∧
      ofText "\t0:0:0:0:0:FFFF:0a00:1/+096 " = .ok n ∧
      ofText " ::ffff:10.0.0.1/96\n" = .ok n := by
  have hallows : (Address.v6 ⟨[0, 0, 0, 0, 0, 0xffff, 0x0a00, 1], rfl⟩).Allows 96 := by decide
  obtain ⟨n, hmake, -, hfamily, -, htext, hread⟩ := text_canonical.1 _ _ hallows
  obtain rfl := Except.ok.inj hmake
  exact ⟨_, hfamily, htext, rfl, hread [' '] ['\n'] (List.forall_mem_singleton.mpr rfl)
    (List.forall_mem_singleton.mpr rfl)⟩

end Network

end TunnelConfig
