import TunnelConfig.Key
import TunnelConfig.Proofs.Digits

/-!
# Keys written and read

**Theorem (`Key.ofText_text`).** The text of a key reads as the key.

Base64 text is read as the bytes of its characters. All of its symbols are one byte each, and each
byte has the six bits that its symbol stands for (`value?_symbol`), so reading regroups the bits of
four symbols into the three bytes that writing took them from.
-/

namespace TunnelConfig

/-! ## Bytes of a text -/

namespace Text

theorem toList_loop (bs : ByteArray) (i : Nat) (r : Bytes) :
    ByteArray.toList.loop bs i r = r.reverse ++ bs.data.toList.drop i := by
  fun_induction ByteArray.toList.loop bs i r with
  | case1 i r hi ih =>
    have hlt : i < bs.data.toList.length := by simpa using hi
    have hget : bs.get! i = bs.data.toList[i] := getElem!_pos bs.data i hi
    rw [ih, List.drop_eq_getElem_cons hlt, List.reverse_cons, List.append_assoc, hget]
    rfl
  | case2 i r hi =>
    have hle : bs.data.toList.length ≤ i := by simpa using hi
    rw [List.drop_of_length_le hle, List.append_nil]

theorem toList_eq_data (bs : ByteArray) : bs.toList = bs.data.toList := by
  rw [ByteArray.toList, toList_loop]
  rfl

/-- The byte of a character that takes one. -/
def byteOf (c : Char) : UInt8 := UInt8.ofNat c.toNat

theorem utf8EncodeChar_of_ascii {c : Char} (h : c.toNat < 128) :
    String.utf8EncodeChar c = [byteOf c] := by
  have hsize : c.utf8Size = 1 := by
    rw [Char.utf8Size, if_pos]
    exact Nat.le_of_lt_succ h
  rw [String.utf8EncodeChar_eq_singleton hsize]
  exact congrArg (· :: []) (UInt8.toNat_inj.mp (by simp [byteOf]; rfl))

theorem bytes_of_ascii {cs : List Char} (h : ∀ c ∈ cs, c.toNat < 128) :
    (String.ofList cs).toUTF8.toList = cs.map byteOf := by
  have hencode : cs.flatMap String.utf8EncodeChar = cs.map byteOf := by
    induction cs with
    | nil => rfl
    | cons c cs ih =>
      obtain ⟨hc, hcs⟩ := List.forall_mem_cons.mp h
      rw [List.flatMap_cons, utf8EncodeChar_of_ascii hc, ih hcs]
      rfl
  rw [String.toUTF8_eq_toByteArray, String.toByteArray_ofList, List.utf8Encode, hencode,
    toList_eq_data, List.data_toByteArray]

end Text

/-! ## Base64 -/

namespace Base64

open Text

theorem value?_symbol {v : Nat} (h : v < 64) :
    value? (byteOf (symbol v)) = some v ∧ byteOf (symbol v) ≠ pad ∧
      33 ≤ (symbol v).toNat ∧ (symbol v).toNat < 128 := by
  have hall : ∀ v < 64, value? (byteOf (symbol v)) = some v ∧ byteOf (symbol v) ≠ pad ∧
      33 ≤ (symbol v).toNat ∧ (symbol v).toNat < 128 := by decide +kernel
  exact hall v h

theorem valueAt_symbol (offset : Nat) {v : Nat} (h : v < 64) :
    valueAt offset (byteOf (symbol v)) = .ok v := by
  rw [valueAt, (value?_symbol h).1]

theorem readLastGroup_symbol (offset place : Nat) {v : Nat} (h : v < 64) (rest : Bytes) :
    readLastGroup offset place (byteOf (symbol v) :: rest) =
      (readLastGroup offset (place + 1) rest).map fun group =>
        { group with values := v :: group.values } := by
  rw [readLastGroup, if_neg (value?_symbol h).2.1, valueAt_symbol _ h]
  rfl

theorem byteOf_pad : byteOf '=' = pad := rfl

theorem decodeFrom_group (offset : Nat) {v w x y : Nat} (hv : v < 64) (hw : w < 64) (hx : x < 64)
    (hy : y < 64) (e : UInt8) (rest : Bytes) :
    decodeFrom offset (byteOf (symbol v) :: byteOf (symbol w) :: byteOf (symbol x) ::
        byteOf (symbol y) :: e :: rest) =
      (decodeFrom (offset + 4) (e :: rest)).map fun more =>
        let n := v * 262144 + w * 4096 + x * 64 + y
        UInt8.ofNat (n / 65536) :: UInt8.ofNat (n / 256) :: UInt8.ofNat n :: more := by
  rw [decodeFrom, valueAt_symbol _ hv, valueAt_symbol _ hw, valueAt_symbol _ hx,
    valueAt_symbol _ hy]
  rfl

/-- The last group is read like the others, and only the bits it has left over are looked at. -/
theorem decodeFrom_three (offset : Nat) {v w x y : Nat} (hv : v < 64) (hw : w < 64) (hx : x < 64)
    (hy : y < 64) :
    decodeFrom offset [byteOf (symbol v), byteOf (symbol w), byteOf (symbol x),
        byteOf (symbol y)] =
      .ok (
        let n := v * 262144 + w * 4096 + x * 64 + y
        [UInt8.ofNat (n / 65536), UInt8.ofNat (n / 256), UInt8.ofNat n]) := by
  have hgroup : readLastGroup offset 0 [byteOf (symbol v), byteOf (symbol w), byteOf (symbol x),
      byteOf (symbol y)] = .ok ⟨[v, w, x, y], 0⟩ := by
    simp only [readLastGroup_symbol _ _ hv, readLastGroup_symbol _ _ hw,
      readLastGroup_symbol _ _ hx, readLastGroup_symbol _ _ hy]
    rfl
  show decodeLastGroup offset _ = _
  rw [decodeLastGroup, hgroup]
  simp [pure, Except.pure, bind, Except.bind]

theorem decodeFrom_two (offset : Nat) {v w x : Nat} (hv : v < 64) (hw : w < 64) (hx : x < 64)
    (hrest : x % 4 = 0) :
    decodeFrom offset [byteOf (symbol v), byteOf (symbol w), byteOf (symbol x), pad] =
      .ok (
        let n := (v * 4096 + w * 64 + x) / 4
        [UInt8.ofNat (n / 256), UInt8.ofNat n]) := by
  have hgroup : readLastGroup offset 0 [byteOf (symbol v), byteOf (symbol w), byteOf (symbol x),
      pad] = .ok ⟨[v, w, x], 1⟩ := by
    simp only [readLastGroup_symbol _ _ hv, readLastGroup_symbol _ _ hw,
      readLastGroup_symbol _ _ hx]
    rfl
  show decodeLastGroup offset _ = _
  rw [decodeLastGroup, hgroup]
  simp [hrest, pure, Except.pure, bind, Except.bind]

theorem decodeFrom_one (offset : Nat) {v w : Nat} (hv : v < 64) (hw : w < 64)
    (hrest : w % 16 = 0) :
    decodeFrom offset [byteOf (symbol v), byteOf (symbol w), pad, pad] =
      .ok [UInt8.ofNat ((v * 64 + w) / 16)] := by
  have hgroup : readLastGroup offset 0 [byteOf (symbol v), byteOf (symbol w), pad, pad] =
      .ok ⟨[v, w], 2⟩ := by
    simp only [readLastGroup_symbol _ _ hv, readLastGroup_symbol _ _ hw]
    rfl
  show decodeLastGroup offset _ = _
  rw [decodeLastGroup, hgroup]
  simp [hrest, pure, Except.pure, bind, Except.bind]

theorem ofNat_eq {n : Nat} {b : UInt8} (h : n % 256 = b.toNat) : UInt8.ofNat n = b :=
  UInt8.toNat_inj.mp ((UInt8.toNat_ofNat').trans h)

theorem decodeFrom_encode (bs : Bytes) (offset : Nat) :
    decodeFrom offset ((encode bs).map byteOf) = .ok bs := by
  fun_induction encode bs generalizing offset with
  | case1 a b c rest n ih =>
    have ha := a.toNat_lt
    have hb := b.toNat_lt
    have hc := c.toNat_lt
    have hn : n / 262144 * 262144 + n / 4096 % 64 * 4096 + n / 64 % 64 * 64 + n % 64 = n := by
      omega
    have hfirst : UInt8.ofNat (n / 65536) = a := ofNat_eq (by omega)
    have hsecond : UInt8.ofNat (n / 256) = b := ofNat_eq (by omega)
    have hthird : UInt8.ofNat n = c := ofNat_eq (by omega)
    simp only [List.map_cons]
    cases hrest : (encode rest).map byteOf with
    | nil =>
      have hend := ih offset
      rw [hrest] at hend
      rw [decodeFrom_three offset (by omega) (by omega) (by omega) (by omega)]
      simp only [hn, hfirst, hsecond, hthird]
      cases hend
      rfl
    | cons e tail =>
      rw [decodeFrom_group offset (by omega) (by omega) (by omega) (by omega), ← hrest, ih]
      simp only [hn, hfirst, hsecond, hthird]
      rfl
  | case2 a b n =>
    have ha := a.toNat_lt
    have hb := b.toNat_lt
    have hn : (n / 4096 * 4096 + n / 64 % 64 * 64 + n % 64) / 4 = n / 4 := by omega
    have hfirst : UInt8.ofNat (n / 4 / 256) = a := ofNat_eq (by omega)
    have hsecond : UInt8.ofNat (n / 4) = b := ofNat_eq (by omega)
    simp only [List.map_cons, List.map_nil, byteOf_pad]
    rw [decodeFrom_two offset (by omega) (by omega) (by omega) (by omega)]
    simp only [hn, hfirst, hsecond]
  | case3 a n =>
    have ha := a.toNat_lt
    have hn : (n / 64 * 64 + n % 64) / 16 = a.toNat := by omega
    simp only [List.map_cons, List.map_nil, byteOf_pad]
    rw [decodeFrom_one offset (by omega) (by omega) (by omega), hn, UInt8.ofNat_toNat]
  | case4 => rfl

theorem length_encode (bs : Bytes) : (encode bs).length = (bs.length + 2) / 3 * 4 := by
  fun_induction encode bs with
  | case1 a b c rest n ih =>
    simp only [List.length_cons]
    omega
  | case2 => simp
  | case3 => simp
  | case4 => rfl

/-- Reading undoes writing. -/
theorem decode_written (bs : Bytes) : decode ((encode bs).map byteOf) = .ok bs := by
  have hlength : ¬((encode bs).map byteOf).length % 4 = 1 := by
    rw [List.length_map, length_encode]
    omega
  have hfrom := decodeFrom_encode bs 0
  rw [decode]
  split
  · rw [if_neg fun h => hlength h.1, hfrom]
  · next hnone =>
    rw [List.getLast?_eq_none_iff.mp hnone] at hfrom
    cases hfrom
    rfl

theorem bounds_of_mem_encode {bs : Bytes} {c : Char} (h : c ∈ encode bs) :
    33 ≤ c.toNat ∧ c.toNat < 128 := by
  have hsymbol : ∀ {v : Nat}, v < 64 → 33 ≤ (symbol v).toNat ∧ (symbol v).toNat < 128 :=
    fun hv => (value?_symbol hv).2.2
  fun_induction encode bs with
  | case1 a b c' rest n ih =>
    have ha := a.toNat_lt
    have hb := b.toNat_lt
    have hc := c'.toNat_lt
    simp only [List.mem_cons] at h
    rcases h with rfl | rfl | rfl | rfl | h
    · exact hsymbol (by omega)
    · exact hsymbol (by omega)
    · exact hsymbol (by omega)
    · exact hsymbol (by omega)
    · exact ih h
  | case2 a b n =>
    have ha := a.toNat_lt
    have hb := b.toNat_lt
    simp only [List.mem_cons, List.not_mem_nil, or_false] at h
    rcases h with rfl | rfl | rfl | rfl
    · exact hsymbol (by omega)
    · exact hsymbol (by omega)
    · exact hsymbol (by omega)
    · decide
  | case3 a n =>
    have ha := a.toNat_lt
    simp only [List.mem_cons, List.not_mem_nil, or_false] at h
    rcases h with rfl | rfl | rfl | rfl
    · exact hsymbol (by omega)
    · exact hsymbol (by omega)
    · decide
    · decide
  | case4 => cases h

end Base64

/-! ## Keys -/

namespace Key

theorem isBlank_of_mem_chars {k : Key} {c : Char} (h : c ∈ k.chars) : Text.isBlank c = false :=
  Text.isBlank_eq_false (Base64.bounds_of_mem_encode h).1 (Base64.bounds_of_mem_encode h).2

theorem trim_chars (k : Key) : Text.trim k.chars = k.chars :=
  Text.trim_eq_self fun _ h => isBlank_of_mem_chars h

theorem bytes_chars (k : Key) :
    (String.ofList k.chars).toUTF8.toList = (Base64.encode k.bytes).map Text.byteOf :=
  Text.bytes_of_ascii fun _ hc => (Base64.bounds_of_mem_encode hc).2

theorem ofText_of_trim {s : String} {k : Key} (h : Text.trim s.toList = k.chars) :
    ofText s = .ok k := by
  rw [ofText, h, bytes_chars, Base64.decode_written]
  dsimp only
  rw [bytes, Block.ofList?_toList]

theorem ofText_text (k : Key) : ofText k.text = .ok k :=
  ofText_of_trim (by rw [text, String.toList_ofList, trim_chars])

end Key

end TunnelConfig
