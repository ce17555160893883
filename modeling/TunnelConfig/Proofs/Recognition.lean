import TunnelConfig.Proofs.Grammar

/-!
# Which texts are JSON texts

**Theorem (`Document.whole_iff_written`).** The texts of the grammar are exactly those that are read
as a well-formed value with nothing after it.

A text of the grammar is read as what it says. The other way round, the reader is followed
backwards. What was taken off the front of a text as a token is one (`Token.spelled_of_takeFrom`).
Where no token fits, whatever waits on the stack stays unclosed, and the document is not whole
(`Document.not_whole_of_misfit`). So the tokens of a whole document come in the order that the
grammar has them in. That is proved for a value, for what follows a key and for the rest of an array
or object at once (`Document.exists_written`), by the length of the text that is left.
-/

namespace TunnelConfig.Json

open Text

/-! ## Numbers -/

theorem of_takeDigits {cs ds rest : List Char} (h : takeDigits 10 cs = (ds, rest)) :
    cs = ds ++ rest ∧ ∀ c ∈ ds, isDigit 10 c = true := by
  rw [takeDigits, Prod.mk.injEq] at h
  obtain ⟨rfl, rfl⟩ := h
  exact ⟨List.takeWhile_append_dropWhile.symm, List.all_eq_true.mp List.all_takeWhile⟩

namespace WrittenNumber

variable {cs ds rest : List Char}

theorem of_takeSome (h : Numeral.takeSome cs = some (ds, rest)) :
    ∃ digits : Digits, digits.chars = ds ∧ cs = digits.chars ++ rest := by
  unfold Numeral.takeSome at h
  split at h
  · cases h
  · next hne htake =>
    obtain ⟨rfl, rfl⟩ := Prod.mk.inj (Option.some.inj h)
    obtain ⟨hcs, hdigit⟩ := of_takeDigits htake
    exact ⟨⟨_, hne, hdigit⟩, rfl, hcs⟩

theorem of_takeWhole (h : Numeral.takeWhole cs = some (ds, rest)) :
    ∃ digits : Digits, digits.chars = ds ∧ (ds.head? = some '0' → ds = ['0']) ∧
      cs = digits.chars ++ rest := by
  unfold Numeral.takeWhole at h
  split at h
  · cases h
  · next htake =>
    obtain ⟨rfl, rfl⟩ := Prod.mk.inj (Option.some.inj h)
    obtain ⟨hcs, hdigit⟩ := of_takeDigits htake
    exact ⟨⟨_, by simp, hdigit⟩, rfl, fun _ => rfl, hcs⟩
  · cases h
  · next hne _ hzero htake =>
    obtain ⟨rfl, rfl⟩ := Prod.mk.inj (Option.some.inj h)
    obtain ⟨hcs, hdigit⟩ := of_takeDigits htake
    refine ⟨⟨_, hne, hdigit⟩, rfl, fun hhead => ?_, hcs⟩
    obtain ⟨tail, hds⟩ := List.head?_eq_some_iff.mp hhead
    exact absurd hds (hzero tail)

theorem of_takeFraction {f : Option (List Char)} (h : Numeral.takeFraction cs = some (f, rest)) :
    ∃ fraction : Option Digits, fraction.map Digits.chars = f ∧
      cs = fractionChars fraction ++ rest := by
  unfold Numeral.takeFraction at h
  split at h
  · obtain ⟨⟨ds, tail⟩, htake, heq⟩ := Option.map_eq_some_iff.mp h
    obtain ⟨rfl, rfl⟩ := Prod.mk.inj heq
    obtain ⟨digits, rfl, rfl⟩ := of_takeSome htake
    exact ⟨some digits, rfl, rfl⟩
  · obtain ⟨rfl, rfl⟩ := Prod.mk.inj (Option.some.inj h)
    exact ⟨none, rfl, rfl⟩

theorem exists_sign (cs : List Char) : ∃ sign : ExponentSign,
    sign.negative = (Numeral.takeSign cs).1 ∧ cs = signChars sign ++ (Numeral.takeSign cs).2 := by
  unfold Numeral.takeSign
  split
  · exact ⟨.minus, rfl, rfl⟩
  · exact ⟨.plus, rfl, rfl⟩
  · exact ⟨.left, rfl, rfl⟩

theorem of_takeExponentDigits {e : Option (Bool × List Char)} {letter : Char}
    (hletter : letter = 'e' ∨ letter = 'E')
    (h : Numeral.takeExponentDigits cs = some (e, rest)) :
    ∃ exponent : Option WrittenExponent,
      (exponent.map fun e => (e.sign.negative, e.digits.chars)) = e ∧
        letter :: cs = exponentChars exponent ++ rest := by
  obtain ⟨⟨ds, tail⟩, htake, heq⟩ := Option.map_eq_some_iff.mp h
  obtain ⟨rfl, rfl⟩ := Prod.mk.inj heq
  obtain ⟨sign, hnegative, hcs⟩ := exists_sign cs
  obtain ⟨digits, rfl, hdigits⟩ := of_takeSome htake
  refine ⟨some ⟨letter, hletter, sign, digits⟩, ?_, ?_⟩
  · rw [Option.map_some, hnegative]
  · rw [hdigits] at hcs
    rw [hcs, exponentChars, List.cons_append, List.append_assoc]

theorem of_takeExponent {e : Option (Bool × List Char)}
    (h : Numeral.takeExponent cs = some (e, rest)) :
    ∃ exponent : Option WrittenExponent,
      (exponent.map fun e => (e.sign.negative, e.digits.chars)) = e ∧
        cs = exponentChars exponent ++ rest := by
  unfold Numeral.takeExponent at h
  split at h
  · exact of_takeExponentDigits (.inl rfl) h
  · exact of_takeExponentDigits (.inr rfl) h
  · obtain ⟨rfl, rfl⟩ := Prod.mk.inj (Option.some.inj h)
    exact ⟨none, rfl, rfl⟩

theorem eq_minus_append (cs : List Char) : cs =
    if (Numeral.takeMinus cs).1 then '-' :: (Numeral.takeMinus cs).2
    else (Numeral.takeMinus cs).2 := by
  unfold Numeral.takeMinus
  split <;> rfl

/-- A number that was taken off the front of a text is written there. -/
theorem of_take {numeral : Numeral} (h : Numeral.take cs = some (numeral, rest)) :
    ∃ n : WrittenNumber, n.numeral = numeral ∧ cs = n.chars ++ rest := by
  simp only [Numeral.take, Option.bind_eq_bind, Option.bind_eq_some_iff, Option.pure_def,
    Option.some.injEq, Prod.mk.injEq, Prod.exists] at h
  obtain ⟨_, _, hwhole, _, _, hfraction, _, tail, hexponent, rfl, rfl⟩ := h
  obtain ⟨whole, rfl, hzero, hcs⟩ := of_takeWhole hwhole
  obtain ⟨fraction, rfl, rfl⟩ := of_takeFraction hfraction
  obtain ⟨exponent, rfl, rfl⟩ := of_takeExponent hexponent
  let n : WrittenNumber := ⟨(Numeral.takeMinus cs).1, whole, hzero, fraction, exponent⟩
  have hunsigned : (Numeral.takeMinus cs).2 = n.unsignedChars ++ tail := by
    rw [hcs, unsignedChars, List.append_assoc, List.append_assoc]
  refine ⟨n, rfl, ?_⟩
  rw [eq_minus_append cs, hunsigned]
  change _ = (if (Numeral.takeMinus cs).1 = true then _ else _) ++ tail
  split <;> rfl

end WrittenNumber

/-! ## Tokens -/

namespace Token

/-- What a token is written as. -/
inductive Spelled : Token → List Char → Prop
  | openArray : Spelled openArray ['[']
  | closeArray : Spelled closeArray [']']
  | openObject : Spelled openObject ['{']
  | closeObject : Spelled closeObject ['}']
  | comma : Spelled comma [',']
  | colon : Spelled colon [':']
  | null : Spelled null Value.nullChars
  | bool (b : Bool) : Spelled (bool b) (Value.boolChars b)
  | number (n : WrittenNumber) : Spelled (number n.numeral.value?) n.chars
  | text (t : WrittenText) : Spelled (text t.text?) t.chars

variable {cs rest : List Char}

theorem of_takeText {r : Reading} {s : Option String} (h : takeText r cs = some (s, rest)) :
    ∃ ps : List Piece, cs = ps.flatMap Piece.chars ++ '"' :: rest ∧
      (ps.foldl Piece.onto r).text? = s := by
  fun_induction takeText r cs with
  | case1 => cases h
  | case2 r cs =>
    obtain ⟨rfl, rfl⟩ := Prod.mk.inj (Option.some.inj h)
    exact ⟨[], rfl, rfl⟩
  | case3 r a b c d cs unit hunit ih =>
    obtain ⟨ps, rfl, hs⟩ := ih h
    exact ⟨.unit a b c d unit hunit :: ps, rfl, hs⟩
  | case4 => cases h
  | case5 r letter cs hunit c hletter ih =>
    obtain ⟨ps, rfl, hs⟩ := ih h
    exact ⟨.escaped letter c hletter :: ps, rfl, hs⟩
  | case6 => cases h
  | case7 => cases h
  | case8 r c cs hquote hunit hescaped hlow ih =>
    obtain ⟨ps, rfl, hs⟩ := ih h
    have hbackslash : c ≠ '\\' := by
      intro hc
      obtain ⟨next, tail, hnext⟩ :=
        List.exists_cons_of_ne_nil (List.append_ne_nil_of_right_ne_nil (ps.flatMap Piece.chars)
          (List.cons_ne_nil '"' rest))
      exact hescaped next tail hc hnext
    exact ⟨.plain c hlow hquote hbackslash :: ps, rfl, hs⟩

/-- A token that was taken off the front of a text is written there. -/
theorem spelled_of_takeFrom {c : Char} {t : Token} (h : takeFrom c cs = some (t, rest)) :
    ∃ front, t.Spelled front ∧ c :: cs = front ++ rest := by
  unfold takeFrom at h
  split at h
  case h_7 =>
    obtain ⟨⟨s, tail⟩, htake, heq⟩ := Option.map_eq_some_iff.mp h
    obtain ⟨rfl, rfl⟩ := Prod.mk.inj heq
    obtain ⟨ps, rfl, rfl⟩ := of_takeText htake
    exact ⟨_, .text ⟨ps⟩, by simp [WrittenText.chars]⟩
  case h_11 =>
    obtain ⟨⟨numeral, tail⟩, htake, heq⟩ := Option.map_eq_some_iff.mp h
    obtain ⟨rfl, rfl⟩ := Prod.mk.inj heq
    obtain ⟨n, rfl, hcs⟩ := WrittenNumber.of_take htake
    exact ⟨_, .number n, hcs⟩
  all_goals obtain ⟨rfl, rfl⟩ := Prod.mk.inj (Option.some.inj h)
  · exact ⟨_, .openArray, rfl⟩
  · exact ⟨_, .closeArray, rfl⟩
  · exact ⟨_, .openObject, rfl⟩
  · exact ⟨_, .closeObject, rfl⟩
  · exact ⟨_, .comma, rfl⟩
  · exact ⟨_, .colon, rfl⟩
  · exact ⟨_, .null, rfl⟩
  · exact ⟨_, .bool true, rfl⟩
  · exact ⟨_, .bool false, rfl⟩

/-- A text is blank, or starts with what is no token, or with a token. -/
theorem exists_front (cs : List Char) :
    (∃ blanks : Blanks, cs = blanks.chars ∧ ofChars cs = []) ∨ ofChars cs = [bad] ∨
      ∃ (blanks : Blanks) (t : Token) (front rest : List Char), t.Spelled front ∧
        cs = blanks.chars ++ (front ++ rest) ∧ rest.length < cs.length ∧
          ofChars cs = t :: ofChars rest := by
  induction cs with
  | nil => exact .inl ⟨.none, rfl, by rw [ofChars]⟩
  | cons c cs ih =>
    by_cases hblank : isBlank c = true
    · rw [ofChars_blank hblank]
      obtain ⟨blanks, hcs, h⟩ | h | ⟨blanks, t, front, rest, ht, hcs, hlt, h⟩ := ih
      · exact .inl ⟨blanks.cons hblank, congrArg (c :: ·) hcs, h⟩
      · exact .inr (.inl h)
      · exact .inr (.inr ⟨blanks.cons hblank, t, front, rest, ht, congrArg (c :: ·) hcs,
          Nat.lt_succ_of_lt hlt, h⟩)
    · refine .inr ?_
      cases htake : takeFrom c cs with
      | none =>
        left
        rw [ofChars, if_neg hblank]
        split
        · next heq => cases heq.symm.trans htake
        · rfl
      | some taken =>
        right
        obtain ⟨t, rest⟩ := taken
        obtain ⟨front, ht, hcs⟩ := spelled_of_takeFrom htake
        exact ⟨.none, t, front, rest, ht, hcs, Nat.lt_succ_of_le (length_takeFrom_le htake),
          ofChars_token (Bool.eq_false_iff.mpr hblank) htake⟩

end Token

/-! ## Documents -/

theorem Frame.wellFormed_outline_false (frame : Frame) :
    (frame.outline false).wellFormed = false := by
  cases frame <;> rfl

theorem wellFormed_unclosed {value : Outline} (h : value.wellFormed = false)
    (stack : List Frame) : (unclosed value stack).wellFormed = false := by
  induction stack generalizing value with
  | nil => exact h
  | cons frame stack ih => exact ih (frame.add value).wellFormed_outline_false

theorem wellFormed_abandoned (expected : Expected) (stack : List Frame) :
    (abandoned expected stack).wellFormed = false := by
  unfold abandoned
  split
  · exact wellFormed_unclosed (Frame.wellFormed_outline_false _) _
  · exact wellFormed_unclosed (Frame.wellFormed_outline_false _) _
  · exact wellFormed_unclosed (Frame.wellFormed_outline_false _) _
  · exact wellFormed_unclosed rfl _

namespace Document

/-- The value is well formed and nothing follows it. -/
def Whole (d : Document) : Prop := d.value.wellFormed = true ∧ d.trailing = false

variable {expected : Expected} {stack : List Frame}

theorem not_whole_abandoned : ¬(⟨abandoned expected stack, false⟩ : Document).Whole :=
  fun h => absurd h.1 (by simp [wellFormed_abandoned])

/-- Where a token does not fit, the document ends. -/
theorem not_whole_of_misfit {t : Token} (h : Step.ofToken expected stack t = .misfit)
    (rest : List Token) : ¬(ofTokens expected stack (t :: rest)).Whole := by
  rw [ofTokens, h]
  exact not_whole_abandoned

/-- As long as the document is whole, there is a token. -/
theorem Whole.exists_front {cs : List Char}
    (h : (ofTokens expected stack (Token.ofChars cs)).Whole) :
    ∃ (blanks : Blanks) (t : Token) (front rest : List Char), t.Spelled front ∧
      cs = blanks.chars ++ (front ++ rest) ∧ rest.length < cs.length ∧
        Token.ofChars cs = t :: Token.ofChars rest := by
  obtain ⟨_, -, hcs⟩ | hcs | hfront := Token.exists_front cs
  · rw [hcs] at h
    exact absurd h not_whole_abandoned
  · have hbad : Step.ofToken expected stack .bad = .misfit := by
      unfold Step.ofToken
      split <;> first | rfl | contradiction
    rw [hcs] at h
    exact absurd h (not_whole_of_misfit hbad _)
  · exact hfront

theorem ofTokens_valueOrEnd {t : Token} (h : t ≠ .closeArray) (rest : List Token) :
    ofTokens .valueOrEnd stack (t :: rest) = ofTokens .value stack (t :: rest) := by
  rw [ofTokens, ofTokens, ofToken_starts (.inr rfl) h, ofToken_starts (.inl rfl) h]
  rfl

mutual

/-- Where a value is expected, the tokens of a whole document are those of a value. -/
theorem exists_written {t : Token} {front rest : List Char} (ht : t.Spelled front)
    {stack : List Frame} (h : (ofTokens .value stack (t :: Token.ofChars rest)).Whole) :
    ∃ (w : Written) (tail : List Char), front ++ rest = w.chars ++ tail ∧
      tail.length ≤ rest.length ∧ ofTokens .value stack (t :: Token.ofChars rest) =
        after w.outline stack (Token.ofChars tail) := by
  cases ht with
  | null => exact ⟨.null, rest, rfl, Nat.le_refl _, ofTokens_finish rfl _⟩
  | bool b => exact ⟨.bool b, rest, rfl, Nat.le_refl _, ofTokens_finish rfl _⟩
  | number n => exact ⟨.number n, rest, rfl, Nat.le_refl _, ofTokens_number (.inl rfl) stack n _⟩
  | text t => exact ⟨.text t, rest, rfl, Nat.le_refl _, ofTokens_text (.inl rfl) stack t _⟩
  | openArray =>
    change (ofTokens .valueOrEnd (.array [] :: stack) _).Whole at h
    change ∃ w tail, _ ∧ _ ∧ ofTokens .valueOrEnd (.array [] :: stack) _ = _
    obtain ⟨blanks, t, front, inner, ht, hrest, hlt, htokens⟩ := h.exists_front
    rw [htokens] at h ⊢
    by_cases hend : t = .closeArray
    · subst hend
      cases ht
      refine ⟨.array blanks [], inner, ?_, Nat.le_of_lt hlt, ofTokens_finish rfl _⟩
      rw [hrest, Written.chars]
      simp
    · rw [ofTokens_valueOrEnd hend] at h ⊢
      obtain ⟨w, tail, hw, hle, hvalue⟩ := exists_written ht h
      rw [hvalue] at h ⊢
      obtain ⟨blanks', items, tail', htail, hle', hitems⟩ := exists_items h
      refine ⟨.array blanks (⟨.none, w, blanks'⟩ :: items), tail', ?_, by omega, hitems⟩
      rw [hrest, hw, htail, Written.chars, Blanks.none]
      simp
  | openObject =>
    change (ofTokens .keyOrEnd (.object [] :: stack) _).Whole at h
    change ∃ w tail, _ ∧ _ ∧ ofTokens .keyOrEnd (.object [] :: stack) _ = _
    obtain ⟨blanks, t, front, inner, ht, hrest, hlt, htokens⟩ := h.exists_front
    rw [htokens] at h ⊢
    cases ht with
    | closeObject =>
      refine ⟨.object blanks [], inner, ?_, Nat.le_of_lt hlt, ofTokens_finish rfl _⟩
      rw [hrest, Written.chars]
      simp
    | text key =>
      change (ofTokens .colon (.member [] key.text? :: stack) _).Whole at h
      change ∃ w tail, _ ∧ _ ∧ ofTokens .colon (.member [] key.text? :: stack) _ = _
      obtain ⟨blanks', before, w, tail, hinner, hle, hmember⟩ := exists_value h
      rw [hmember] at h ⊢
      obtain ⟨last, members, tail', htail, hle', hmembers⟩ := exists_members h
      refine ⟨.object blanks ((⟨.none, key, blanks'⟩, ⟨before, w, last⟩) :: members), tail', ?_,
        by omega, hmembers⟩
      rw [hrest, hinner, htail, Written.chars, Blanks.none]
      simp
    | _ => exact absurd h (not_whole_of_misfit rfl _)
  | _ => exact absurd h (not_whole_of_misfit rfl _)
termination_by rest.length

/-- After a key there is a value. -/
theorem exists_value {done : List (Option String × Outline)} {key : Option String}
    {stack : List Frame} {cs : List Char}
    (h : (ofTokens .colon (.member done key :: stack) (Token.ofChars cs)).Whole) :
    ∃ (blanks before : Blanks) (w : Written) (tail : List Char),
      cs = blanks.chars ++ ':' :: (before.chars ++ (w.chars ++ tail)) ∧ tail.length ≤ cs.length ∧
        ofTokens .colon (.member done key :: stack) (Token.ofChars cs) =
          ofTokens .separator (.object ((key, w.outline) :: done) :: stack)
            (Token.ofChars tail) := by
  obtain ⟨blanks, t, front, rest, ht, hcs, hlt, htokens⟩ := h.exists_front
  rw [htokens] at h ⊢
  cases ht with
  | colon =>
    change (ofTokens .value (.member done key :: stack) _).Whole at h
    change ∃ blanks before w tail, _ ∧ _ ∧ ofTokens .value (.member done key :: stack) _ = _
    obtain ⟨before, t, front, inner, ht, hrest, hlt', htokens⟩ := h.exists_front
    rw [htokens] at h ⊢
    obtain ⟨w, tail, hw, hle, hvalue⟩ := exists_written ht h
    exact ⟨blanks, before, w, tail, by rw [hcs, hrest, hw]; rfl, by omega, hvalue⟩
  | _ => exact absurd h (not_whole_of_misfit rfl _)
termination_by cs.length

/-- After an item there are others, or the end of the array. -/
theorem exists_items {done : List Outline} {stack : List Frame} {cs : List Char}
    (h : (ofTokens .separator (.array done :: stack) (Token.ofChars cs)).Whole) :
    ∃ (blanks : Blanks) (items : List (Padded Written)) (tail : List Char),
      cs = blanks.chars ++ (Written.itemsChars items ++ tail) ∧ tail.length ≤ cs.length ∧
        ofTokens .separator (.array done :: stack) (Token.ofChars cs) =
          after (.array (done.reverse ++ Written.outlines items) true) stack
            (Token.ofChars tail) := by
  obtain ⟨blanks, t, front, rest, ht, hcs, hlt, htokens⟩ := h.exists_front
  rw [htokens] at h ⊢
  cases ht with
  | closeArray =>
    refine ⟨blanks, [], rest, by rw [hcs]; rfl, Nat.le_of_lt hlt, ?_⟩
    rw [Written.outlines, List.append_nil]
    exact ofTokens_finish rfl _
  | comma =>
    change (ofTokens .value (.array done :: stack) _).Whole at h
    change ∃ blanks items tail, _ ∧ _ ∧ ofTokens .value (.array done :: stack) _ = _
    obtain ⟨before, t, front, inner, ht, hrest, hlt', htokens⟩ := h.exists_front
    rw [htokens] at h ⊢
    obtain ⟨w, tail, hw, hle, hvalue⟩ := exists_written ht h
    rw [hvalue] at h ⊢
    -- The blanks before the next separator belong to this item.
    obtain ⟨last, items, tail', htail, hle', hitems⟩ := exists_items h
    refine ⟨blanks, ⟨before, w, last⟩ :: items, tail', ?_, by omega, hitems.trans ?_⟩
    · rw [hcs, hrest, hw, htail, Written.itemsChars]
      simp
    · rw [Written.outlines, List.reverse_cons, List.append_assoc]
      rfl
  | _ => exact absurd h (not_whole_of_misfit rfl _)
termination_by cs.length

/-- After a member there are others, or the end of the object. -/
theorem exists_members {done : List (Option String × Outline)} {stack : List Frame}
    {cs : List Char}
    (h : (ofTokens .separator (.object done :: stack) (Token.ofChars cs)).Whole) :
    ∃ (blanks : Blanks) (members : List (Padded WrittenText × Padded Written))
      (tail : List Char),
      cs = blanks.chars ++ (Written.membersChars members ++ tail) ∧ tail.length ≤ cs.length ∧
        ofTokens .separator (.object done :: stack) (Token.ofChars cs) =
          after (.object (done.reverse ++ Written.memberOutlines members) true) stack
            (Token.ofChars tail) := by
  obtain ⟨blanks, t, front, rest, ht, hcs, hlt, htokens⟩ := h.exists_front
  rw [htokens] at h ⊢
  cases ht with
  | closeObject =>
    refine ⟨blanks, [], rest, by rw [hcs]; rfl, Nat.le_of_lt hlt, ?_⟩
    rw [Written.memberOutlines, List.append_nil]
    exact ofTokens_finish rfl _
  | comma =>
    change (ofTokens .key (.object done :: stack) _).Whole at h
    change ∃ blanks members tail, _ ∧ _ ∧ ofTokens .key (.object done :: stack) _ = _
    obtain ⟨before, t, front, inner, ht, hrest, hlt', htokens⟩ := h.exists_front
    rw [htokens] at h ⊢
    cases ht with
    | text key =>
      change (ofTokens .colon (.member done key.text? :: stack) _).Whole at h
      change ∃ blanks members tail, _ ∧ _ ∧
        ofTokens .colon (.member done key.text? :: stack) _ = _
      obtain ⟨after, before', w, tail, hinner, hle, hmember⟩ := exists_value h
      rw [hmember] at h ⊢
      obtain ⟨last, members, tail', htail, hle', hmembers⟩ := exists_members h
      refine ⟨blanks, (⟨before, key, after⟩, ⟨before', w, last⟩) :: members, tail', ?_, by omega,
        hmembers.trans ?_⟩
      · rw [hcs, hrest, hinner, htail, Written.membersChars]
        simp
      · rw [Written.memberOutlines, List.reverse_cons, List.append_assoc]
        rfl
    | _ => exact absurd h (not_whole_of_misfit rfl _)
  | _ => exact absurd h (not_whole_of_misfit rfl _)
termination_by cs.length

end

theorem exists_document {s : String} (h : (ofText s).Whole) :
    ∃ w : Padded Written, w.document = s := by
  obtain ⟨blanks, t, front, rest, ht, hcs, -, htokens⟩ := Whole.exists_front h
  rw [ofText, htokens] at h
  obtain ⟨w, tail, hw, -, hvalue⟩ := exists_written ht h
  have hend : Token.ofChars tail = [] := by
    have htrailing := h.2
    rw [hvalue] at htrailing
    simpa [after] using htrailing
  obtain ⟨blanks', htail, -⟩ | htail | ⟨_, _, _, _, -, -, -, htail⟩ := Token.exists_front tail
  · refine ⟨⟨blanks, w, blanks'⟩, ?_⟩
    rw [Padded.document, ← htail, ← hw, ← hcs, String.ofList_toList]
  · cases hend.symm.trans htail
  · cases hend.symm.trans htail

end Document

namespace Written

mutual

theorem wellFormed_outline : ∀ w : Written, w.outline.wellFormed = true
  | .null => rfl
  | .bool _ => rfl
  | .number n => by
    rw [outline]
    cases n.numeral.value? <;> rfl
  | .text t => by
    rw [outline]
    cases t.text? <;> rfl
  | .array _ items => wellFormed_outlines items
  | .object _ members => wellFormed_memberOutlines members

theorem wellFormed_outlines : ∀ items : List (Padded Written),
    Outline.itemsWellFormed (outlines items) = true
  | [] => rfl
  | ⟨_, item, _⟩ :: rest =>
    Bool.and_eq_true_iff.mpr ⟨wellFormed_outline item, wellFormed_outlines rest⟩

theorem wellFormed_memberOutlines : ∀ members : List (Padded WrittenText × Padded Written),
    Outline.membersWellFormed (memberOutlines members) = true
  | [] => rfl
  | (⟨_, _, _⟩, ⟨_, value, _⟩) :: rest =>
    Bool.and_eq_true_iff.mpr ⟨wellFormed_outline value, wellFormed_memberOutlines rest⟩

end

end Written

/-- The texts of the grammar are those that are read as a whole document. -/
theorem Document.whole_iff_written {s : String} :
    (ofText s).Whole ↔ ∃ w : Padded Written, w.document = s := by
  constructor
  · exact exists_document
  · rintro ⟨w, rfl⟩
    rw [ofText_written]
    exact ⟨w.content.wellFormed_outline, rfl⟩

end TunnelConfig.Json
