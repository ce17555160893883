import Mathlib.Algebra.Group.Nat.Even
import TunnelConfig.Text.Blank
import TunnelConfig.Text.Number

/-!
# Numbers written and read

A number is written with the digits of a radix, and every reader of the project takes off the front
of a text all the digits that stand there. So a number is read back if the text does not go on with
another digit (`NoDigit`), and the readers differ only in what they make of leading zeros, of the
number of digits and of numbers that are too large.
-/

namespace TunnelConfig.Text

/-! ## Runs of digits -/

/-- The text does not go on with a digit. -/
def NoDigit (radix : Nat) (cs : List Char) : Prop := ∀ c ∈ cs.head?, isDigit radix c = false

theorem noDigit_nil (radix : Nat) : NoDigit radix [] := by simp [NoDigit]

theorem noDigit_cons {radix : Nat} {c : Char} {cs : List Char} :
    NoDigit radix (c :: cs) ↔ isDigit radix c = false := by simp [NoDigit]

theorem isDigit_mono {c : Char} (h : isDigit 10 c = true) : isDigit 16 c = true := by
  obtain ⟨d, hd⟩ := Option.isSome_iff_exists.mp h
  obtain ⟨hvalue, hlt⟩ := Option.filter_eq_some_iff.mp hd
  refine Option.isSome_iff_exists.mpr ⟨d, Option.filter_eq_some_iff.mpr ⟨hvalue, ?_⟩⟩
  simp only [decide_eq_true_eq] at hlt ⊢
  omega

theorem NoDigit.decimal {cs : List Char} (h : NoDigit 16 cs) : NoDigit 10 cs := fun c hc => by
  cases h10 : isDigit 10 c with
  | false => rfl
  | true =>
    have h16 := h c hc
    rw [isDigit_mono h10] at h16
    cases h16

theorem toNat_of_isDigit {radix : Nat} {c : Char} (h : isDigit radix c = true) :
    48 ≤ c.toNat ∧ c.toNat ≤ 57 ∨ 97 ≤ c.toNat ∧ c.toNat ≤ 122 ∨
      65 ≤ c.toNat ∧ c.toNat ≤ 90 := by
  have hle : ∀ a b : Char, a ≤ b ↔ a.toNat ≤ b.toNat := fun _ _ => Iff.rfl
  unfold isDigit digit? at h
  simp only [hle] at h
  split at h
  · next hc => exact .inl hc
  · split at h
    · next hc => exact .inr (.inl hc)
    · split at h
      · next hc => exact .inr (.inr hc)
      · cases h

theorem takeDigits_append {radix : Nat} {ds cs : List Char} (hds : ∀ c ∈ ds, isDigit radix c = true)
    (hcs : NoDigit radix cs) : takeDigits radix (ds ++ cs) = (ds, cs) := by
  rw [takeDigits, List.takeWhile_append_of_pos hds, List.dropWhile_append_of_pos hds]
  cases cs with
  | nil => simp
  | cons c cs =>
    have hc : ¬isDigit radix c = true := by simp [noDigit_cons.mp hcs]
    rw [List.takeWhile_cons_of_neg hc, List.dropWhile_cons_of_neg hc, List.append_nil]

/-- The number that digits make of one that comes before them. -/
def onto (radix start : Nat) (ds : List Char) : Nat :=
  ds.foldl (fun n c => n * radix + (digit? radix c).getD 0) start

theorem le_onto {radix : Nat} (hradix : 0 < radix) (start : Nat) (ds : List Char) :
    start ≤ onto radix start ds := by
  induction ds generalizing start with
  | nil => exact Nat.le_refl start
  | cons c ds ih =>
    calc start ≤ start * radix := Nat.le_mul_of_pos_right start hradix
      _ ≤ start * radix + (digit? radix c).getD 0 := Nat.le_add_right _ _
      _ ≤ onto radix _ ds := ih _

/-! ## The digits of a number -/

theorem digit?_digitChar {radix d : Nat} (hradix : radix ≤ 16) (hd : d < radix) :
    digit? radix d.digitChar = some d := by
  have hall : ∀ radix ≤ 16, ∀ d < radix, digit? radix d.digitChar = some d := by decide +kernel
  exact hall radix hradix d hd

section Digits

variable {radix : Nat} (hone : 1 < radix) (hradix : radix ≤ 16)

include hone hradix

/-- A number's digits are digits, spell the number, and start with zero only if it is zero. -/
theorem toDigits_spec (n : Nat) :
    (∀ c ∈ Nat.toDigits radix n, isDigit radix c = true) ∧
      onto radix 0 (Nat.toDigits radix n) = n ∧
      ∃ d < radix, ∃ ds, Nat.toDigits radix n = d.digitChar :: ds ∧ (d = 0 → n = 0) := by
  induction n using Nat.strongRecOn with
  | ind n ih =>
    rw [Nat.toDigits_eq_if hone]
    split
    · next hlt =>
      have hdigit := digit?_digitChar hradix hlt
      refine ⟨?_, ?_, n, hlt, [], rfl, id⟩
      · intro c hc
        rw [List.mem_singleton.mp hc, isDigit, hdigit]
        rfl
      · simp [onto, hdigit]
    · next hle =>
      have hpos : 0 < n / radix := Nat.div_pos (Nat.le_of_not_lt hle) (Nat.lt_of_succ_lt hone)
      have hlt : n / radix < n := Nat.div_lt_self (by omega) hone
      have hdigit := digit?_digitChar hradix (Nat.mod_lt n (Nat.lt_of_succ_lt hone))
      obtain ⟨hdigits, hvalue, d, hd, ds, hds, hzero⟩ := ih (n / radix) hlt
      refine ⟨?_, ?_, d, hd, ds ++ [(n % radix).digitChar], by rw [hds]; rfl, ?_⟩
      · intro c hc
        rcases List.mem_append.mp hc with hc | hc
        · exact hdigits c hc
        · rw [List.mem_singleton.mp hc, isDigit, hdigit]
          rfl
      · rw [onto] at hvalue ⊢
        rw [List.foldl_append, hvalue]
        simp only [List.foldl_cons, List.foldl_nil, hdigit, Option.getD_some]
        exact Nat.div_add_mod' n radix
      · intro h
        have := hzero h
        omega

theorem isDigit_of_mem_toDigits {n : Nat} {c : Char} (h : c ∈ Nat.toDigits radix n) :
    isDigit radix c = true :=
  (toDigits_spec hone hradix n).1 c h

theorem digitsValue_toDigits (n : Nat) : digitsValue radix (Nat.toDigits radix n) = n :=
  (toDigits_spec hone hradix n).2.1

theorem takeDigits_toDigits (n : Nat) {cs : List Char} (hcs : NoDigit radix cs) :
    takeDigits radix (Nat.toDigits radix n ++ cs) = (Nat.toDigits radix n, cs) :=
  takeDigits_append (fun _ hc => isDigit_of_mem_toDigits hone hradix hc) hcs

end Digits

theorem exists_decimal (n : Nat) :
    ∃ d < 10, ∃ ds, decimal n = d.digitChar :: ds ∧ (d = 0 → n = 0) :=
  (toDigits_spec (by decide) (by decide) n).2.2

/-- Only zero is written with a zero in front. -/
theorem decimal_eq_of_head? {n : Nat} (h : (decimal n).head? = some '0') : decimal n = ['0'] := by
  obtain ⟨d, -, ds, hds, hzero⟩ := exists_decimal n
  rw [hds] at h
  rw [hzero (Nat.digitChar_eq_zero.mp (Option.some.inj h))]
  rfl

theorem isDigit_of_mem_decimal {n : Nat} {c : Char} (h : c ∈ decimal n) : isDigit 10 c = true :=
  isDigit_of_mem_toDigits (by decide) (by decide) h

theorem digitsValue_decimal (n : Nat) : digitsValue 10 (decimal n) = n :=
  digitsValue_toDigits (by decide) (by decide) n

theorem takeDigits_decimal (n : Nat) {cs : List Char} (hcs : NoDigit 10 cs) :
    takeDigits 10 (decimal n ++ cs) = (decimal n, cs) :=
  takeDigits_toDigits (by decide) (by decide) n hcs

theorem length_decimal_pos (n : Nat) : 0 < (decimal n).length :=
  Nat.length_toDigits_pos

theorem length_decimal_le {n k : Nat} (hk : 0 < k) (h : n < 10 ^ k) : (decimal n).length ≤ k :=
  (Nat.length_toDigits_le_iff (by decide) hk).mpr h

/-! ## Reading a whole number -/

theorem readDigits_eq {greatest start : Nat} {ds : List Char}
    (hds : ∀ c ∈ ds, isDigit 10 c = true) (h : onto 10 start ds ≤ greatest) :
    readDigits greatest start ds = .ok (onto 10 start ds) := by
  induction ds generalizing start with
  | nil => rfl
  | cons c ds ih =>
    obtain ⟨hc, hds⟩ := List.forall_mem_cons.mp hds
    obtain ⟨d, hd⟩ := Option.isSome_iff_exists.mp hc
    have hstep : onto 10 start (c :: ds) = onto 10 (start * 10 + d) ds := by
      rw [onto, List.foldl_cons, hd]
      rfl
    rw [hstep] at h ⊢
    rw [readDigits, hd]
    dsimp only
    rw [if_pos (Nat.le_trans (le_onto (by decide) _ ds) h), ih hds h]

/-- A text is a number: digits, and at most one plus sign in front of them. -/
def IsNumber (cs : List Char) (n : Nat) : Prop :=
  ∃ ds : List Char, (cs = ds ∨ cs = '+' :: ds) ∧ ds ≠ [] ∧
    (∀ c ∈ ds, isDigit 10 c = true) ∧ digitsValue 10 ds = n

/-- Only digits are read, and only up to the bound. -/
theorem of_readDigits {greatest start n : Nat} {ds : List Char}
    (h : readDigits greatest start ds = .ok n) (hstart : start ≤ greatest) :
    (∀ c ∈ ds, isDigit 10 c = true) ∧ onto 10 start ds = n ∧ n ≤ greatest := by
  induction ds generalizing start with
  | nil =>
    obtain rfl : start = n := Except.ok.inj h
    exact ⟨List.forall_mem_nil _, rfl, hstart⟩
  | cons c ds ih =>
    rw [readDigits] at h
    split at h
    · cases h
    · next d hd =>
      split at h
      · next hle =>
        obtain ⟨hds, hvalue, hn⟩ := ih h hle
        have hc : isDigit 10 c = true := by rw [isDigit, hd]; rfl
        refine ⟨List.forall_mem_cons.mpr ⟨hc, hds⟩, ?_, hn⟩
        rw [← hvalue, onto, List.foldl_cons, hd]
        rfl
      · cases h

theorem readDigits_eq_ok_iff {greatest n : Nat} {ds : List Char} :
    readDigits greatest 0 ds = .ok n ↔
      (∀ c ∈ ds, isDigit 10 c = true) ∧ digitsValue 10 ds = n ∧ n ≤ greatest := by
  constructor
  · exact fun h => of_readDigits h (Nat.zero_le _)
  · rintro ⟨hds, rfl, hle⟩
    exact readDigits_eq hds hle

theorem readUnsigned_eq_ok_iff {greatest n : Nat} {cs : List Char} :
    readUnsigned greatest cs = .ok n ↔ IsNumber cs n ∧ n ≤ greatest := by
  have hplus : isDigit 10 '+' = false := by decide
  constructor
  · intro h
    unfold readUnsigned at h
    split at h
    · cases h
    · cases h
    · next rest hne =>
      obtain ⟨hds, hvalue, hle⟩ := readDigits_eq_ok_iff.mp h
      exact ⟨⟨rest, .inr rfl, hne, hds, hvalue⟩, hle⟩
    · next hempty _ _ =>
      obtain ⟨hds, hvalue, hle⟩ := readDigits_eq_ok_iff.mp h
      exact ⟨⟨cs, .inl rfl, hempty, hds, hvalue⟩, hle⟩
  · rintro ⟨⟨ds, hcs, hne, hds, hvalue⟩, hle⟩
    have hread : readDigits greatest 0 ds = .ok n := readDigits_eq_ok_iff.mpr ⟨hds, hvalue, hle⟩
    obtain ⟨c, rest, rfl⟩ := List.exists_cons_of_ne_nil hne
    rcases hcs with rfl | rfl
    · -- A digit is no plus sign.
      have hc : c ≠ '+' := by
        rintro rfl
        have hdigit := hds '+' List.mem_cons_self
        rw [hplus] at hdigit
        cases hdigit
      rw [← hread]
      unfold readUnsigned
      split <;> simp_all
    · exact hread

theorem readUnsigned_decimal {greatest n : Nat} (h : n ≤ greatest) :
    readUnsigned greatest (decimal n) = .ok n :=
  have hne : decimal n ≠ [] := List.ne_nil_of_length_pos (length_decimal_pos n)
  readUnsigned_eq_ok_iff.mpr
    ⟨⟨decimal n, .inl rfl, hne, fun _ => isDigit_of_mem_decimal, digitsValue_decimal n⟩, h⟩

/-! ## Texts without blanks -/

theorem isBlank_eq_false {c : Char} (hlow : 33 ≤ c.toNat) (hhigh : c.toNat < 128) :
    isBlank c = false := by
  simp only [isBlank, Bool.or_eq_false_iff, Bool.and_eq_false_iff, decide_eq_false_iff_not,
    beq_eq_false_iff_ne]
  omega

theorem trim_eq_self {cs : List Char} (h : ∀ c ∈ cs, isBlank c = false) : trim cs = cs := by
  have hdrop : ∀ cs : List Char, (∀ c ∈ cs, isBlank c = false) → cs.dropWhile isBlank = cs := by
    intro cs hcs
    cases cs with
    | nil => rfl
    | cons c cs => rw [List.dropWhile_cons_of_neg (by simp [hcs c])]
  rw [trim, hdrop cs h, hdrop cs.reverse fun c hc => h c (List.mem_reverse.mp hc),
    List.reverse_reverse]

end TunnelConfig.Text
