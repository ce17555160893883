import TunnelConfig.Proofs.Keys
import TunnelConfig.Proofs.Readings

/-!
# One spelling for each key

**Theorem (`Key.ofText_eq_ok_iff`).** A text reads as a key if and only if, without the blanks
around it, it is the text of that key: 43 symbols of the standard alphabet and a padding sign.

That the text of a key is read as the key is known (`Key.ofText_text`). Here the readers are
followed the other way. Only one byte has the six bits of a symbol (`of_value?`), the last group is
its symbols with the padding that fills it up (`of_readLastGroup`), and what four symbols are
regrouped into is written as the same four symbols (`encode_regroup`). So whatever reading accepts
is the written form of what it yields (`decode_eq_ok_iff_encode`). From the bytes of a text the text
is found again, because different texts have different bytes (`eq_of_bytes`).
-/

namespace TunnelConfig

/-! ## Bytes and blanks of a text -/

namespace Text

/-- Different texts have different bytes. -/
theorem eq_of_bytes {cs ds : List Char}
    (h : (String.ofList cs).toUTF8.toList = (String.ofList ds).toUTF8.toList) : cs = ds := by
  have hbytes : (String.ofList cs).toByteArray = (String.ofList ds).toByteArray := by
    rw [String.toUTF8_eq_toByteArray, String.toUTF8_eq_toByteArray] at h
    rw [toList_eq_data, toList_eq_data] at h
    exact ByteArray.ext (Array.toList_inj.mp h)
  exact String.ofList_inj.mp (String.toByteArray_inj.mp hbytes)

/-- What trimming takes away are blanks at the two ends. -/
theorem exists_around_trim (cs : List Char) :
    ∃ before after, (∀ c ∈ before, isBlank c = true) ∧ (∀ c ∈ after, isBlank c = true) ∧
      cs = before ++ trim cs ++ after := by
  have hblank : ∀ cs : List Char, ∀ c ∈ cs.takeWhile isBlank, isBlank c = true :=
    fun cs => List.all_eq_true.mp List.all_takeWhile
  refine ⟨cs.takeWhile isBlank, ((cs.dropWhile isBlank).reverse.takeWhile isBlank).reverse,
    hblank cs, fun c hc => hblank _ c (List.mem_reverse.mp hc), ?_⟩
  rw [trim, List.append_assoc, ← List.reverse_append, List.takeWhile_append_dropWhile,
    List.reverse_reverse, List.takeWhile_append_dropWhile]

/-- Blanks around a text without blanks are what trimming takes away. -/
theorem trim_around {before cs after : List Char} (hbefore : ∀ c ∈ before, isBlank c = true)
    (hafter : ∀ c ∈ after, isBlank c = true) (h : ∀ c ∈ cs, isBlank c = false) :
    trim (before ++ cs ++ after) = cs := by
  have hdrop : ∀ {blanks cs : List Char} (rest : List Char), (∀ c ∈ blanks, isBlank c = true) →
      (∀ c ∈ cs, isBlank c = false) → cs ≠ [] →
      (blanks ++ (cs ++ rest)).dropWhile isBlank = cs ++ rest := by
    intro blanks cs rest hblanks hcs hne
    obtain ⟨c, cs, rfl⟩ := List.exists_cons_of_ne_nil hne
    rw [List.dropWhile_append_of_pos hblanks, List.cons_append,
      List.dropWhile_cons_of_neg (by simp [hcs c])]
  by_cases hne : cs = []
  · have hall : (before ++ (after ++ [])).dropWhile isBlank = [] := by
      rw [List.dropWhile_append_of_pos hbefore, List.dropWhile_append_of_pos hafter]
      rfl
    rw [hne, List.append_nil, ← List.append_nil after, trim, hall]
    rfl
  · have hreverse : (cs ++ after).reverse = after.reverse ++ (cs.reverse ++ []) := by
      rw [List.reverse_append, List.append_nil]
    rw [trim, List.append_assoc, hdrop after hbefore h hne, hreverse,
      hdrop [] (by simpa using hafter) (by simpa using h) (by simpa), List.append_nil,
      List.reverse_reverse]

/-- Trimming takes all of a text away if it has nothing but blanks. -/
theorem trim_eq_nil_iff {cs : List Char} : trim cs = [] ↔ ∀ c ∈ cs, isBlank c = true := by
  constructor
  · intro h c hc
    obtain ⟨before, after, hbefore, hafter, hcs⟩ := exists_around_trim cs
    rw [hcs, h, List.append_nil] at hc
    exact (List.mem_append.mp hc).elim (hbefore c) (hafter c)
  · intro h
    have haround := @trim_around cs [] [] h (List.forall_mem_nil _) (List.forall_mem_nil _)
    rwa [List.append_nil, List.append_nil] at haround

end Text

/-! ## Base64 -/

namespace Base64

open Text

/-- The symbols of six bits in order. -/
def alphabet : List Char :=
  "ABCDEFGHIJKLMNOPQRSTUVWXYZabcdefghijklmnopqrstuvwxyz0123456789+/".toList

theorem symbol_mem_alphabet {v : Nat} (h : v < 64) : symbol v ∈ alphabet := by
  have hall : ∀ v < 64, symbol v ∈ alphabet := by decide +kernel
  exact hall v h

/-- Only the byte of a symbol has six bits. -/
theorem of_value? {b : UInt8} {v : Nat} (h : value? b = some v) :
    v < 64 ∧ byteOf (symbol v) = b := by
  have hall : ∀ n < 256, ∀ v ∈ value? (UInt8.ofNat n),
      v < 64 ∧ byteOf (symbol v) = UInt8.ofNat n := by decide +kernel
  have hb := hall b.toNat b.toNat_lt v
  rw [UInt8.ofNat_toNat] at hb
  exact hb h

theorem of_valueAt {offset : Nat} {b : UInt8} {v : Nat} (h : valueAt offset b = .ok v) :
    v < 64 ∧ byteOf (symbol v) = b := by
  rw [valueAt] at h
  split at h
  · next hv =>
    cases h
    exact of_value? hv
  · cases h

/-! ### The last group -/

theorem of_readPads {padOffset pads n : Nat} {bs : Bytes} (h : readPads padOffset pads bs = .ok n) :
    n = pads + bs.length ∧ bs = List.replicate bs.length pad := by
  induction bs generalizing pads with
  | nil =>
    cases h
    exact ⟨rfl, rfl⟩
  | cons b bs ih =>
    rw [readPads] at h
    split at h
    · next hb =>
      obtain ⟨hn, hbs⟩ := ih h
      rw [List.length_cons, List.replicate_succ, ← hbs, hb]
      exact ⟨by omega, rfl⟩
    · cases h

/-- The last group is its symbols and then padding signs. -/
theorem of_readLastGroup {offset place : Nat} {bs : Bytes} {group : LastGroup}
    (h : readLastGroup offset place bs = .ok group) :
    (∀ v ∈ group.values, v < 64) ∧
      bs = group.values.map (fun v => byteOf (symbol v)) ++ List.replicate group.pads pad := by
  induction bs generalizing place group with
  | nil =>
    cases h
    exact ⟨List.forall_mem_nil _, rfl⟩
  | cons b bs ih =>
    rw [readLastGroup] at h
    split at h
    · next hb =>
      split at h
      · cases h
      · obtain ⟨pads, hpads, rfl⟩ := map_eq_ok_iff.mp h
        obtain ⟨hcount, hbs⟩ := of_readPads hpads
        refine ⟨List.forall_mem_nil _, ?_⟩
        rw [List.map_nil, List.nil_append, hcount, Nat.add_comm, List.replicate_succ, ← hbs, hb]
    · obtain ⟨v, hv, h⟩ := bind_eq_ok_iff.mp h
      obtain ⟨rest, hrest, h⟩ := bind_eq_ok_iff.mp h
      cases h
      obtain ⟨hlt, rfl⟩ := of_valueAt hv
      obtain ⟨hvalues, hbs⟩ := ih hrest
      exact ⟨List.forall_mem_cons.mpr ⟨hlt, hvalues⟩, congrArg (_ :: ·) hbs⟩

/-! ### Regrouping -/

/-- What four symbols are regrouped into is written as these symbols. -/
theorem encode_regroup {v w x y n : Nat} (hv : v < 64) (hw : w < 64) (hx : x < 64) (hy : y < 64)
    (hn : n = v * 262144 + w * 4096 + x * 64 + y) (rest : Bytes) :
    encode (UInt8.ofNat (n / 65536) :: UInt8.ofNat (n / 256) :: UInt8.ofNat n :: rest) =
      symbol v :: symbol w :: symbol x :: symbol y :: encode rest := by
  have hbytes : (UInt8.ofNat (n / 65536)).toNat * 65536 + (UInt8.ofNat (n / 256)).toNat * 256 +
      (UInt8.ofNat n).toNat = n := by
    simp only [UInt8.toNat_ofNat']
    omega
  have hfirst : n / 262144 = v := by omega
  have hsecond : n / 4096 % 64 = w := by omega
  have hthird : n / 64 % 64 = x := by omega
  have hfourth : n % 64 = y := by omega
  simp only [encode, hbytes, hfirst, hsecond, hthird, hfourth]

theorem encode_regroup_two {v w x n : Nat} (hv : v < 64) (hw : w < 64) (hx : x < 64)
    (hrest : x % 4 = 0) (hn : n = (v * 4096 + w * 64 + x) / 4) :
    encode [UInt8.ofNat (n / 256), UInt8.ofNat n] = [symbol v, symbol w, symbol x, '='] := by
  have hbytes : (UInt8.ofNat (n / 256)).toNat * 1024 + (UInt8.ofNat n).toNat * 4 =
      v * 4096 + w * 64 + x := by
    simp only [UInt8.toNat_ofNat']
    omega
  have hfirst : (v * 4096 + w * 64 + x) / 4096 = v := by omega
  have hsecond : (v * 4096 + w * 64 + x) / 64 % 64 = w := by omega
  have hthird : (v * 4096 + w * 64 + x) % 64 = x := by omega
  simp only [encode, hbytes, hfirst, hsecond, hthird]

theorem encode_regroup_one {v w : Nat} (hv : v < 64) (hw : w < 64) (hrest : w % 16 = 0) :
    encode [UInt8.ofNat ((v * 64 + w) / 16)] = [symbol v, symbol w, '=', '='] := by
  have hbytes : (UInt8.ofNat ((v * 64 + w) / 16)).toNat * 16 = v * 64 + w := by
    simp only [UInt8.toNat_ofNat']
    omega
  have hfirst : (v * 64 + w) / 64 = v := by omega
  have hsecond : (v * 64 + w) % 64 = w := by omega
  simp only [encode, hbytes, hfirst, hsecond]

/-- An accepted last group is written as it stands. -/
theorem of_decodeLastGroup {offset : Nat} {bs out : Bytes} (hlength : bs.length ≤ 4)
    (h : decodeLastGroup offset bs = .ok out) : (encode out).map byteOf = bs := by
  rw [decodeLastGroup] at h
  obtain ⟨⟨values, pads⟩, hgroup, h⟩ := bind_eq_ok_iff.mp h
  obtain ⟨hvalues, hbs⟩ := of_readLastGroup hgroup
  obtain ⟨hshort, h⟩ := check_eq_ok_iff.mp h
  obtain ⟨hpadded, h⟩ := check_eq_ok_iff.mp h
  have hcount : bs.length = values.length + pads := by
    rw [hbs, List.length_append, List.length_map, List.length_replicate]
  dsimp only at h hvalues hbs hpadded hshort
  -- A group of two, three or four symbols; of none there is nothing, and one is refused.
  rcases values with _ | ⟨v, _ | ⟨w, _ | ⟨x, _ | ⟨y, _ | ⟨z, values⟩⟩⟩⟩⟩
  · obtain rfl := Except.ok.inj h
    have hempty : bs = [] := by
      by_contra hne
      exact hshort ⟨hne, by decide⟩
    rw [hempty]
    rfl
  · have hne : bs ≠ [] := by
      rw [hbs]
      simp
    exact absurd ⟨hne, by simp⟩ hshort
  · obtain ⟨hrest, h⟩ := check_eq_ok_iff.mp h
    obtain rfl := Except.ok.inj h
    obtain ⟨hv, hw⟩ : v < 64 ∧ w < 64 := by simpa using hvalues
    obtain rfl : pads = 2 := by
      simp only [List.length_cons, List.length_nil] at hcount hpadded
      omega
    rw [encode_regroup_one hv hw (not_not.mp hrest), hbs]
    rfl
  · obtain ⟨hrest, h⟩ := check_eq_ok_iff.mp h
    obtain rfl := Except.ok.inj h
    obtain ⟨hv, hw, hx⟩ : v < 64 ∧ w < 64 ∧ x < 64 := by simpa using hvalues
    obtain rfl : pads = 1 := by
      simp only [List.length_cons, List.length_nil] at hcount hpadded
      omega
    rw [encode_regroup_two hv hw hx (not_not.mp hrest) rfl, hbs]
    rfl
  · obtain rfl := Except.ok.inj h
    obtain ⟨hv, hw, hx, hy⟩ : v < 64 ∧ w < 64 ∧ x < 64 ∧ y < 64 := by simpa using hvalues
    obtain rfl : pads = 0 := by
      simp only [List.length_cons, List.length_nil] at hcount
      omega
    rw [encode_regroup hv hw hx hy rfl, hbs]
    rfl
  · simp only [List.length_cons] at hcount
    omega

/-! ### Whole texts -/

theorem of_decodeFrom {offset : Nat} {bs out : Bytes} (h : decodeFrom offset bs = .ok out) :
    (encode out).map byteOf = bs := by
  fun_induction decodeFrom offset bs generalizing out with
  | case1 offset a b c d e rest ih =>
    obtain ⟨v, hv, h⟩ := bind_eq_ok_iff.mp h
    obtain ⟨w, hw, h⟩ := bind_eq_ok_iff.mp h
    obtain ⟨x, hx, h⟩ := bind_eq_ok_iff.mp h
    obtain ⟨y, hy, h⟩ := bind_eq_ok_iff.mp h
    obtain ⟨more, hmore, h⟩ := bind_eq_ok_iff.mp h
    obtain rfl := Except.ok.inj h
    obtain ⟨hvlt, rfl⟩ := of_valueAt hv
    obtain ⟨hwlt, rfl⟩ := of_valueAt hw
    obtain ⟨hxlt, rfl⟩ := of_valueAt hx
    obtain ⟨hylt, rfl⟩ := of_valueAt hy
    rw [encode_regroup hvlt hwlt hxlt hylt rfl, List.map_cons, List.map_cons, List.map_cons,
      List.map_cons, ih hmore]
  | case2 offset bs hlast =>
    refine of_decodeLastGroup ?_ h
    by_contra hlong
    rcases bs with _ | ⟨a, _ | ⟨b, _ | ⟨c, _ | ⟨d, _ | ⟨e, rest⟩⟩⟩⟩⟩
    · simp at hlong
    · simp at hlong
    · simp at hlong
    · simp at hlong
    · simp at hlong
    · exact hlast a b c d e rest rfl

/-- Reading accepts exactly what is written. -/
theorem decode_eq_ok_iff_encode (bs out : Bytes) :
    decode bs = .ok out ↔ bs = (encode out).map byteOf := by
  constructor
  · intro h
    rw [decode] at h
    split at h
    · exact (of_decodeFrom (check_eq_ok_iff.mp h).2).symm
    · next hnone =>
      obtain rfl := Except.ok.inj h
      exact List.getLast?_eq_none_iff.mp hnone
  · rintro rfl
    exact decode_written out

/-- What is written: symbols, and padding signs that fill up the last group. -/
theorem exists_encode (bs : Bytes) :
    ∃ vs : List Nat, (∀ v ∈ vs, v < 64) ∧
      encode bs = vs.map symbol ++ List.replicate ((3 - bs.length % 3) % 3) '=' := by
  fun_induction encode bs with
  | case1 a b c rest n ih =>
    have ha := a.toNat_lt
    have hb := b.toNat_lt
    have hc := c.toNat_lt
    obtain ⟨vs, hvs, hrest⟩ := ih
    refine ⟨n / 262144 :: n / 4096 % 64 :: n / 64 % 64 :: n % 64 :: vs, ?_, ?_⟩
    · simp only [List.forall_mem_cons]
      exact ⟨by omega, by omega, by omega, by omega, hvs⟩
    · have hlength : (a :: b :: c :: rest).length % 3 = rest.length % 3 := by
        simp only [List.length_cons]
        omega
      rw [hrest, hlength]
      rfl
  | case2 a b n =>
    have ha := a.toNat_lt
    have hb := b.toNat_lt
    refine ⟨[n / 4096, n / 64 % 64, n % 64], ?_, rfl⟩
    simp only [List.forall_mem_cons]
    exact ⟨by omega, by omega, by omega, List.forall_mem_nil _⟩
  | case3 a n =>
    have ha := a.toNat_lt
    refine ⟨[n / 64, n % 64], ?_, rfl⟩
    simp only [List.forall_mem_cons]
    exact ⟨by omega, by omega, List.forall_mem_nil _⟩
  | case4 => exact ⟨[], List.forall_mem_nil _, rfl⟩

end Base64

/-! ## Keys -/

namespace Key

/-- A text that reads as a key is the text of that key with blanks around it. -/
theorem trim_of_ofText {s : String} {k : Key} (h : ofText s = .ok k) :
    Text.trim s.toList = k.chars := by
  rw [ofText] at h
  split at h
  · cases h
  · next bs hdecode =>
    split at h
    · next block hblock =>
      obtain rfl := Except.ok.inj h
      have hbs : block.toList = bs := by
        rw [Block.ofList?] at hblock
        split at hblock
        · cases hblock
          rfl
        · cases hblock
      have hwritten := (Base64.decode_eq_ok_iff_encode _ _).mp hdecode
      rw [← hbs] at hwritten
      exact Text.eq_of_bytes (hwritten.trans (bytes_chars ⟨block⟩).symm)
    · cases h

/-- The text of a key is 43 symbols and a padding sign. -/
theorem exists_chars (k : Key) :
    ∃ front : List Char, k.chars = front ++ ['='] ∧ front.length = 43 ∧
      ∀ c ∈ front, c ∈ Base64.alphabet := by
  have hbytes : k.bytes.length = 32 := k.block.length_toList
  obtain ⟨vs, hvs, hchars⟩ := Base64.exists_encode k.bytes
  have hlength := Base64.length_encode k.bytes
  rw [hchars, hbytes, List.length_append, List.length_replicate] at hlength
  rw [hbytes] at hchars
  refine ⟨vs.map Base64.symbol, hchars, Nat.add_right_cancel hlength, ?_⟩
  intro c hc
  obtain ⟨v, hv, rfl⟩ := List.mem_map.mp hc
  exact Base64.symbol_mem_alphabet (hvs v hv)

theorem ofText_eq_ok_iff_trim (s : String) (k : Key) :
    ofText s = .ok k ↔ Text.trim s.toList = k.chars :=
  ⟨trim_of_ofText, ofText_of_trim⟩

/-- **Each key has exactly one spelling.** A text reads as a key exactly if, without the blanks
around it, it is the text of that key. That text is 43 symbols of the alphabet and one padding sign,
it reads as the key itself, and no other key has it. -/
theorem ofText_eq_ok_iff (s : String) (k : Key) :
    (ofText s = .ok k ↔ String.ofList (Text.trim s.toList) = k.text) ∧
      (ofText s = .ok k ↔ ∃ before after : List Char, (∀ c ∈ before, Text.isBlank c = true) ∧
        (∀ c ∈ after, Text.isBlank c = true) ∧ s.toList = before ++ k.text.toList ++ after) ∧
      (∃ front : List Char, k.text.toList = front ++ ['='] ∧ front.length = 43 ∧
        ∀ c ∈ front, c ∈ Base64.alphabet) ∧
      ofText k.text = .ok k ∧ ∀ other : Key, other.text = k.text → other = k := by
  have hchars : k.text.toList = k.chars := String.toList_ofList
  refine ⟨?_, ?_, hchars ▸ k.exists_chars, k.ofText_text, ?_⟩
  · rw [ofText_eq_ok_iff_trim]
    exact String.ofList_inj.symm
  · rw [ofText_eq_ok_iff_trim, hchars]
    constructor
    · intro h
      rw [← h]
      exact Text.exists_around_trim s.toList
    · rintro ⟨before, after, hbefore, hafter, hs⟩
      rw [hs]
      exact Text.trim_around hbefore hafter fun _ h => isBlank_of_mem_chars h
  · intro other h
    have hread := other.ofText_text
    rw [h, k.ofText_text] at hread
    exact (Except.ok.inj hread).symm

end Key

end TunnelConfig
