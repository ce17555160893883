import TunnelConfig.Net.Address
import TunnelConfig.Proofs.Digits
import TunnelConfig.Proofs.Records

/-!
# Addresses written and read

**Theorems (`IPv4.read_chars`, `IPv6.read_chars`).** The text of an address, with whatever follows
it, reads as that address and leaves what follows it, if that does not go on with something that
could be part of an address.

The form of an IPv6 address depends on where its zero groups are, so what its text says is taken
from three facts: a row of groups reads as these groups (`readRow_groupChars`), no group followed by
a colon is the first octet of an IPv4 address (`IPv4.read_group`), and what is left out of the text
is nothing but zero groups (`leftOut_eq`).
-/

namespace TunnelConfig

open Text

/-! ## IPv4 -/

namespace IPv4

theorem readOctet_decimal (a : UInt8) {cs : List Char} (hcs : NoDigit 10 cs) :
    readOctet (decimal a.toNat ++ cs) = some (a, cs) := by
  have hlt : a.toNat < 256 := a.toNat_lt
  have hlength : (decimal a.toNat).length ≤ 3 := length_decimal_le (by decide) (by omega)
  have hpos := length_decimal_pos a.toNat
  rw [readOctet, takeDigits_decimal a.toNat hcs]
  dsimp only
  rw [digitsValue_decimal, UInt8.ofNat_toNat, if_neg]
  rintro (hnone | hlong | ⟨hlong, hhead⟩ | hlarge)
  · omega
  · omega
  · rw [decimal_eq_of_head? hhead] at hlong
    exact absurd hlong (by decide)
  · omega

theorem readPointOctet_decimal (a : UInt8) {cs : List Char} (hcs : NoDigit 10 cs) :
    readPointOctet ('.' :: (decimal a.toNat ++ cs)) = some (a, cs) :=
  readOctet_decimal a hcs

theorem noDigit_point (cs : List Char) : NoDigit 10 ('.' :: cs) := noDigit_cons.mpr (by decide)

theorem read_chars (ip : IPv4) {cs : List Char} (hcs : NoDigit 10 cs) :
    read (ip.chars ++ cs) = some (ip, cs) := by
  have hchars : ip.chars ++ cs = decimal ip.a.toNat ++ '.' :: (decimal ip.b.toNat ++
      '.' :: (decimal ip.c.toNat ++ '.' :: (decimal ip.d.toNat ++ cs))) := by
    simp only [chars, List.append_assoc, List.cons_append]
  rw [read, hchars, readOctet_decimal ip.a (noDigit_point _)]
  simp only [Option.bind_eq_bind, Option.bind_some,
    readPointOctet_decimal ip.b (noDigit_point _), readPointOctet_decimal ip.c (noDigit_point _),
    readPointOctet_decimal ip.d hcs]
  rfl

theorem readOctet_eq_none {cs : List Char} (h : NoDigit 10 cs) : readOctet cs = none := by
  have htake : takeDigits 10 cs = ([], cs) := takeDigits_append (List.forall_mem_nil _) h
  rw [readOctet, htake]
  rfl

theorem read_eq_none {cs : List Char} (h : NoDigit 10 cs) : read cs = none := by
  rw [read, readOctet_eq_none h]
  rfl

theorem head?_dropWhile {ds cs : List Char} (hds : ∀ c ∈ ds, isDigit 16 c = true)
    (hcs : NoDigit 16 cs) (hpoint : cs.head? ≠ some '.') :
    ((ds ++ cs).dropWhile (isDigit 10)).head? ≠ some '.' := by
  induction ds with
  | nil =>
    cases cs with
    | nil => exact hpoint
    | cons c cs =>
      have hc : ¬isDigit 10 c = true := by simp [noDigit_cons.mp hcs.decimal]
      rw [List.nil_append, List.dropWhile_cons_of_neg hc]
      exact hpoint
  | cons c ds ih =>
    obtain ⟨hc, hds⟩ := List.forall_mem_cons.mp hds
    rw [List.cons_append]
    by_cases h10 : isDigit 10 c = true
    · rw [List.dropWhile_cons_of_pos h10]
      exact ih hds
    · rw [List.dropWhile_cons_of_neg h10]
      intro h
      rw [Option.some.inj h] at hc
      exact absurd hc (by decide)

/-- A group of an IPv6 address is not the first octet of an IPv4 address, unless there is a point
after it. -/
theorem read_group {ds cs : List Char} (hds : ∀ c ∈ ds, isDigit 16 c = true)
    (hcs : NoDigit 16 cs) (hpoint : cs.head? ≠ some '.') : read (ds ++ cs) = none := by
  have hrest := head?_dropWhile hds hcs hpoint
  rw [read, readOctet, takeDigits]
  dsimp only
  split
  · rfl
  · simp only [Option.bind_eq_bind, Option.bind_some]
    cases hafter : (ds ++ cs).dropWhile (isDigit 10) with
    | nil => rfl
    | cons c cs =>
      rw [hafter] at hrest
      have hpointOctet : readPointOctet (c :: cs) = none := by
        unfold readPointOctet
        split
        · next heq => exact absurd (congrArg List.head? heq) hrest
        · rfl
      rw [hpointOctet]
      rfl

end IPv4

/-! ## IPv6 -/

namespace IPv6

/-! ### Groups -/

theorem length_hexadecimal_le (g : UInt16) : (hexadecimal g.toNat).length ≤ 4 := by
  have hlt : g.toNat < 65536 := g.toNat_lt
  exact (Nat.length_toDigits_le_iff (by decide) (by decide)).mpr (by omega)

theorem isDigit_of_mem_hexadecimal {n : Nat} {c : Char} (h : c ∈ hexadecimal n) :
    isDigit 16 c = true :=
  isDigit_of_mem_toDigits (by decide) (by decide) h

theorem readGroup_hexadecimal (g : UInt16) {cs : List Char} (hcs : NoDigit 16 cs) :
    readGroup (hexadecimal g.toNat ++ cs) = some (g, cs) := by
  have hpos : 0 < (hexadecimal g.toNat).length := Nat.length_toDigits_pos
  have hle := length_hexadecimal_le g
  have hvalue : digitsValue 16 (hexadecimal g.toNat) = g.toNat :=
    digitsValue_toDigits (by decide) (by decide) g.toNat
  have htake : takeDigits 16 (hexadecimal g.toNat ++ cs) = (hexadecimal g.toNat, cs) :=
    takeDigits_toDigits (by decide) (by decide) g.toNat hcs
  rw [readGroup, htake]
  dsimp only
  rw [hvalue, if_neg (by omega), UInt16.ofNat_toNat]

theorem readGroup_eq_none {cs : List Char} (h : NoDigit 16 cs) : readGroup cs = none := by
  have htake : takeDigits 16 cs = ([], cs) := takeDigits_append (List.forall_mem_nil _) h
  rw [readGroup, htake]
  rfl

/-- A row of groups as it stands in a text, with a colon before every group but the first. -/
def rowChars (first : Bool) : List UInt16 → List Char
  | [] => []
  | g :: gs => (if first then [] else [':']) ++ (hexadecimal g.toNat ++ rowChars false gs)

theorem groupChars_eq (gs : List UInt16) : groupChars gs = rowChars true gs := by
  cases gs with
  | nil => rfl
  | cons g gs =>
    induction gs generalizing g with
    | nil => simp [groupChars, rowChars]
    | cons g' gs ih =>
      have hstep : groupChars (g :: g' :: gs) =
          hexadecimal g.toNat ++ ':' :: groupChars (g' :: gs) := by
        simp [groupChars, List.intercalate]
      rw [hstep, ih]
      rfl

/-- A row of groups cannot go on with the text: neither a digit nor a point comes next, and no
digit after a colon. -/
structure Stops (cs : List Char) : Prop where
  digit : NoDigit 16 cs
  point : cs.head? ≠ some '.'
  colon : ∀ rest, cs = ':' :: rest → NoDigit 16 rest

variable {cs : List Char}

theorem Stops.readColon (h : Stops cs) (first : Bool) :
    (readColon first cs).bind IPv4.read = none ∧
      (IPv6.readColon first cs).bind readGroup = none := by
  cases first with
  | true => exact ⟨IPv4.read_eq_none h.digit.decimal, readGroup_eq_none h.digit⟩
  | false =>
    unfold IPv6.readColon
    split
    · next heq => cases heq
    · next rest _ =>
      have hrest := h.colon rest rfl
      exact ⟨IPv4.read_eq_none hrest.decimal, readGroup_eq_none hrest⟩
    · exact ⟨rfl, rfl⟩

theorem readRow_stops (room : Nat) (first : Bool) (h : Stops cs) :
    readRow room first cs = ⟨[], false, cs⟩ := by
  cases room with
  | zero => rfl
  | succ room =>
    obtain ⟨hipv4, hgroup⟩ := h.readColon first
    rw [readRow, hipv4, hgroup]
    simp

/-- After a group comes a colon, or what follows the row. -/
theorem rowChars_append (gs : List UInt16) (h : Stops cs) :
    NoDigit 16 (rowChars false gs ++ cs) ∧ (rowChars false gs ++ cs).head? ≠ some '.' := by
  cases gs with
  | nil => exact ⟨h.digit, h.point⟩
  | cons g gs => exact ⟨noDigit_cons.mpr (by decide), by simp [rowChars]⟩

theorem readColon_rowChars (first : Bool) (g : UInt16) (gs : List UInt16) (cs : List Char) :
    readColon first (rowChars first (g :: gs) ++ cs) =
      some (hexadecimal g.toNat ++ (rowChars false gs ++ cs)) := by
  cases first <;> simp [rowChars, readColon]

theorem readRow_rowChars {gs : List UInt16} {room : Nat} (hroom : gs.length ≤ room) (first : Bool)
    (h : Stops cs) : readRow room first (rowChars first gs ++ cs) = ⟨gs, false, cs⟩ := by
  induction gs generalizing room first with
  | nil => exact readRow_stops room first h
  | cons g gs ih =>
    cases room with
    | zero => cases hroom
    | succ room =>
      obtain ⟨hdigit, hpoint⟩ := rowChars_append gs h
      have hipv4 : IPv4.read (hexadecimal g.toNat ++ (rowChars false gs ++ cs)) = none :=
        IPv4.read_group (fun _ => isDigit_of_mem_hexadecimal) hdigit hpoint
      have hmore := ih (Nat.le_of_succ_le_succ hroom) false
      rw [readRow, readColon_rowChars, Option.bind_some, hipv4, Option.bind_some,
        readGroup_hexadecimal g hdigit]
      simp [hmore]

/-! ### The groups that are left out -/

theorem take_leadingZeros {gs : List UInt16} {n : Nat} (h : n ≤ leadingZeros gs) :
    gs.take n = List.replicate n 0 := by
  induction gs generalizing n with
  | nil => rw [Nat.le_zero.mp h]; rfl
  | cons g gs ih =>
    cases n with
    | zero => rfl
    | succ n =>
      by_cases hg : g = 0
      · subst hg
        have hle : n ≤ leadingZeros gs := by simpa [leadingZeros] using h
        rw [List.take_succ_cons, ih hle, List.replicate_succ]
      · simp [leadingZeros, hg] at h

/-- The run that is left out is one of zero groups. No run is longer, and every run that starts
before it is shorter. -/
theorem zeroRun_spec (gs : List UInt16) :
    (zeroRun gs).2 ≤ leadingZeros (gs.drop (zeroRun gs).1) ∧
      (∀ start, leadingZeros (gs.drop start) ≤ (zeroRun gs).2) ∧
      ∀ start < (zeroRun gs).1, leadingZeros (gs.drop start) < (zeroRun gs).2 := by
  -- So is every run that was the longest so far, among the starts that were looked at.
  have hfold : ∀ count, ∃ best : Nat × Nat,
      (List.range count).foldl (fun best start =>
        let length := leadingZeros (gs.drop start)
        if best.2 < length then (start, length) else best) (0, 0) = best ∧
      best.2 ≤ leadingZeros (gs.drop best.1) ∧
      (∀ start < count, leadingZeros (gs.drop start) ≤ best.2) ∧
      ∀ start < best.1, leadingZeros (gs.drop start) < best.2 := by
    intro count
    induction count with
    | zero => exact ⟨(0, 0), rfl, Nat.zero_le _, by simp, by simp⟩
    | succ count ih =>
      obtain ⟨best, hbest, hrun, hlongest, hfirst⟩ := ih
      rw [List.range_succ, List.foldl_append, hbest, List.foldl_cons, List.foldl_nil]
      dsimp only
      split
      · next hlonger =>
        refine ⟨_, rfl, Nat.le_refl _, fun start hstart => ?_, fun start hstart => ?_⟩
        · rcases Nat.lt_succ_iff_lt_or_eq.mp hstart with hlt | rfl
          · exact Nat.le_trans (hlongest start hlt) (Nat.le_of_lt hlonger)
          · exact Nat.le_refl _
        · exact Nat.lt_of_le_of_lt (hlongest start hstart) hlonger
      · next hshorter =>
        refine ⟨best, rfl, hrun, fun start hstart => ?_, hfirst⟩
        rcases Nat.lt_succ_iff_lt_or_eq.mp hstart with hlt | rfl
        · exact hlongest start hlt
        · exact Nat.le_of_not_lt hshorter
  obtain ⟨best, hbest, hrun, hlongest, hfirst⟩ := hfold gs.length
  rw [zeroRun, hbest]
  refine ⟨hrun, fun start => ?_, hfirst⟩
  by_cases hstart : start < gs.length
  · exact hlongest start hstart
  · rw [List.drop_of_length_le (Nat.le_of_not_lt hstart)]
    exact Nat.zero_le _

/-- An address is what stands before the run, the run, and what stands after it. -/
theorem leftOut_eq (gs : List UInt16) :
    gs = gs.take (zeroRun gs).1 ++ (List.replicate (zeroRun gs).2 0 ++
      gs.drop ((zeroRun gs).1 + (zeroRun gs).2)) := by
  have hzeros := take_leadingZeros (zeroRun_spec gs).1
  rw [← hzeros, ← List.drop_drop, List.take_append_drop, List.take_append_drop]

/-! ### Addresses -/

theorem mapped?_eq_some {ip : IPv6} {ipv4 : IPv4} (h : ip.mapped? = some ipv4) :
    ip.groups = [0, 0, 0, 0, 0, 0xffff] ++ groupsOf ipv4.octets := by
  unfold mapped? at h
  split at h
  · next high low hgroups =>
    split at h
    · next a b c d hoctets =>
      have hback := groupsOf_flatMap [high, low]
      rw [List.flatMap_cons, List.flatMap_singleton, hoctets] at hback
      rw [← Option.some.inj h, hgroups, IPv4.octets, hback]
      rfl
    · cases h
  · cases h

theorem ofGroups?_groups (ip : IPv6) : ofGroups? ip.groups = some ip := dif_pos ip.length_groups

/-- The text of an address cannot go on with what follows it. -/
structure Ends (cs : List Char) : Prop where
  digit : NoDigit 16 cs
  point : cs.head? ≠ some '.'
  colon : cs.head? ≠ some ':'

theorem Ends.stops (h : Ends cs) : Stops cs :=
  ⟨h.digit, h.point, fun _ heq => absurd (congrArg List.head? heq) h.colon⟩

theorem stops_colons (cs : List Char) : Stops (':' :: ':' :: cs) where
  digit := noDigit_cons.mpr (by decide)
  point := by simp
  colon _ heq := by
    rw [← (List.cons.inj heq).2]
    exact noDigit_cons.mpr (by decide)

/-- Two colons stand for the groups that are missing. -/
theorem read_colons {ip : IPv6} {text rest : List Char} {front back : List UInt16} {dotted : Bool}
    (hfront : readRow 8 true text = ⟨front, false, ':' :: ':' :: cs⟩) (hlength : front.length ≠ 8)
    (hback : readRow (7 - front.length) true cs = ⟨back, dotted, rest⟩)
    (hgroups : front ++ List.replicate (8 - front.length - back.length) 0 ++ back = ip.groups) :
    read text = some (ip, rest) := by
  rw [read, hfront]
  simp only [if_neg hlength, hback, hgroups, ofGroups?_groups]
  rfl

theorem readRow_dotted (room : Nat) (ipv4 : IPv4) (h : NoDigit 10 cs) :
    readRow (room + 2) false (':' :: (ipv4.chars ++ cs)) = ⟨groupsOf ipv4.octets, true, cs⟩ := by
  rw [readRow, if_neg (Nat.succ_ne_zero room), readColon, Option.bind_some, IPv4.read_chars ipv4 h]

/-- A mapped IPv4 address is all that follows the two colons. -/
theorem readRow_mapped (ipv4 : IPv4) (h : NoDigit 10 cs) :
    readRow 7 true ("ffff:".toList ++ (ipv4.chars ++ cs)) =
      ⟨0xffff :: groupsOf ipv4.octets, true, cs⟩ := by
  have htext : "ffff:".toList ++ (ipv4.chars ++ cs) =
      hexadecimal (0xffff : UInt16).toNat ++ ':' :: (ipv4.chars ++ cs) := rfl
  have hcolon : NoDigit 16 (':' :: (ipv4.chars ++ cs)) := noDigit_cons.mpr (by decide)
  have hipv4 : IPv4.read (hexadecimal (0xffff : UInt16).toNat ++ ':' :: (ipv4.chars ++ cs)) =
      none := IPv4.read_group (fun _ => isDigit_of_mem_hexadecimal) hcolon (by simp)
  rw [htext, readRow, readColon, Option.bind_some, hipv4, Option.bind_some,
    readGroup_hexadecimal _ hcolon]
  simp [readRow_dotted 4 ipv4 h]

theorem read_chars (ip : IPv6) (h : Ends cs) : read (ip.chars ++ cs) = some (ip, cs) := by
  rw [chars]
  split
  · next ipv4 hmapped =>
    have htext : "::ffff:".toList ++ ipv4.chars ++ cs =
        [] ++ ':' :: ':' :: ("ffff:".toList ++ (ipv4.chars ++ cs)) := by simp
    rw [htext]
    exact read_colons (readRow_stops 8 true (stops_colons _)) (by decide)
      (readRow_mapped ipv4 h.digit.decimal) (mapped?_eq_some hmapped).symm
  · dsimp only
    split
    · next hrun =>
      have hsplit := leftOut_eq ip.groups
      generalize ip.groups.take (zeroRun ip.groups).1 = front at *
      generalize ip.groups.drop ((zeroRun ip.groups).1 + (zeroRun ip.groups).2) = back at *
      generalize (zeroRun ip.groups).2 = count at *
      have hlength : front.length + (count + back.length) = 8 := by
        rw [← ip.length_groups, hsplit]
        simp
      have hzeros : 8 - front.length - back.length = count := by omega
      rw [groupChars_eq, groupChars_eq, List.append_assoc, List.cons_append, List.cons_append]
      refine read_colons (readRow_rowChars (by omega) true (stops_colons _)) (by omega)
        (readRow_rowChars (by omega) true h.stops) ?_
      rw [hzeros, List.append_assoc, ← hsplit]
    · rw [groupChars_eq, read, readRow_rowChars (Nat.le_of_eq ip.length_groups) true h.stops]
      simp only [ip.length_groups, if_pos, ofGroups?_groups]
      rfl

/-- No row of groups starts with an IPv4 address. -/
theorem read_rowChars_eq_none (gs : List UInt16) (h : Stops cs) :
    IPv4.read (rowChars true gs ++ cs) = none := by
  cases gs with
  | nil => exact IPv4.read_eq_none h.digit.decimal
  | cons g gs =>
    obtain ⟨hdigit, hpoint⟩ := rowChars_append gs h
    show IPv4.read ([] ++ (hexadecimal g.toNat ++ rowChars false gs) ++ cs) = none
    rw [List.nil_append, List.append_assoc]
    exact IPv4.read_group (fun _ => isDigit_of_mem_hexadecimal) hdigit hpoint

theorem read_chars_eq_none (ip : IPv6) (h : Ends cs) : IPv4.read (ip.chars ++ cs) = none := by
  rw [chars]
  split
  · exact IPv4.read_eq_none (noDigit_cons.mpr (by decide))
  · dsimp only
    split
    · rw [groupChars_eq, List.append_assoc]
      exact read_rowChars_eq_none _ (stops_colons _)
    · rw [groupChars_eq]
      exact read_rowChars_eq_none _ h.stops

end IPv6

/-! ## Either family -/

namespace Address

/-- The characters that addresses are written with. -/
def IsSymbol (c : Char) : Prop := isDigit 16 c = true ∨ c = '.' ∨ c = ':'

theorem isSymbol_of_mem_ipv4 {ip : IPv4} {c : Char} (h : c ∈ ip.chars) : IsSymbol c := by
  have hdigit : ∀ {n : Nat}, c ∈ decimal n → IsSymbol c := fun h =>
    .inl (isDigit_mono (isDigit_of_mem_decimal h))
  simp only [IPv4.chars, List.mem_append, List.mem_cons] at h
  rcases h with h | rfl | h | rfl | h | rfl | h
  · exact hdigit h
  · exact .inr (.inl rfl)
  · exact hdigit h
  · exact .inr (.inl rfl)
  · exact hdigit h
  · exact .inr (.inl rfl)
  · exact hdigit h

theorem isSymbol_of_mem_rowChars {first : Bool} {gs : List UInt16} {c : Char}
    (h : c ∈ IPv6.rowChars first gs) : IsSymbol c := by
  induction gs generalizing first with
  | nil => cases h
  | cons g gs ih =>
    simp only [IPv6.rowChars, List.mem_append] at h
    rcases h with h | h | h
    · cases first with
      | true => cases h
      | false => exact .inr (.inr (List.mem_singleton.mp h))
    · exact .inl (IPv6.isDigit_of_mem_hexadecimal h)
    · exact ih h

theorem isSymbol_of_mem {a : Address} {c : Char} (h : c ∈ a.chars) : IsSymbol c := by
  cases a with
  | v4 ip => exact isSymbol_of_mem_ipv4 h
  | v6 ip =>
    rw [chars, IPv6.chars] at h
    split at h
    · rcases List.mem_append.mp h with h | h
      · have hfront : "::ffff:".toList = ':' :: ':' :: (hexadecimal 65535 ++ [':']) := rfl
        rw [hfront] at h
        simp only [List.mem_cons, List.mem_append, List.not_mem_nil, or_false] at h
        rcases h with rfl | rfl | h | rfl
        · exact .inr (.inr rfl)
        · exact .inr (.inr rfl)
        · exact .inl (IPv6.isDigit_of_mem_hexadecimal h)
        · exact .inr (.inr rfl)
      · exact isSymbol_of_mem_ipv4 h
    · dsimp only at h
      split at h
      · simp only [IPv6.groupChars_eq, List.mem_append, List.mem_cons] at h
        rcases h with h | rfl | rfl | h
        · exact isSymbol_of_mem_rowChars h
        · exact .inr (.inr rfl)
        · exact .inr (.inr rfl)
        · exact isSymbol_of_mem_rowChars h
      · rw [IPv6.groupChars_eq] at h
        exact isSymbol_of_mem_rowChars h

theorem read_chars (a : Address) {cs : List Char} (h : IPv6.Ends cs) :
    read (a.chars ++ cs) = some (a, cs) := by
  cases a with
  | v4 ip => rw [read, chars, IPv4.read_chars ip h.digit.decimal]
  | v6 ip =>
    rw [read, chars, IPv6.read_chars_eq_none ip h, IPv6.read_chars ip h]
    rfl

theorem ofChars?_chars (a : Address) : ofChars? a.chars = some a := by
  have hread := read_chars a (⟨noDigit_nil 16, by simp, by simp⟩ : IPv6.Ends [])
  rw [List.append_nil] at hread
  rw [ofChars?, hread]

end Address

end TunnelConfig
