import TunnelConfig.Json.Document
import TunnelConfig.Json.Value
import TunnelConfig.Proofs.Digits

/-!
# JSON values written and read

**Theorems (`Document.ofText_compact`, `Document.ofText_pretty`).** The text of a value whose
numbers fit 64 bits, in either of its two forms, is a document that says what the value says
(`Value.outline`), with nothing after it.

The two forms have the same tokens (`Value.tokens`) and differ in their blanks only. Each kind of
token is read back with any text after it, except that a number must not go on: it stands at the end
or before one of four characters (`Follows`).

Tokens are taken one by one, with the arrays and objects that are not closed yet on a stack, so what
becomes of the tokens of a value is stated for every stack (`Document.ofTokens_tokens`). The
inductions go over values, rows of items and rows of members at once.
-/

namespace TunnelConfig.Json

open Text

/-! ## Numbers -/

/-- What comes after a value within a text: a new line, or what follows or ends the array or object
that it is in. -/
def Follows (cs : List Char) : Prop :=
  ∀ c ∈ cs.head?, c = ',' ∨ c = ']' ∨ c = '}' ∨ c = '\n'

theorem Follows.noDigit {cs : List Char} (h : Follows cs) : NoDigit 10 cs := by
  intro c hc
  rcases h c hc with rfl | rfl | rfl | rfl <;> decide

namespace Numeral

theorem accumulate_eq {start : Nat} {ds : List Char} (h : onto 10 start ds ≤ greatest) :
    accumulate start ds = (onto 10 start ds, []) := by
  induction ds generalizing start with
  | nil => rfl
  | cons c ds ih =>
    have hstep : onto 10 start (c :: ds) = onto 10 (start * 10 + (digit? 10 c).getD 0) ds := rfl
    rw [hstep] at h ⊢
    rw [accumulate, if_pos (Nat.le_trans (le_onto (by decide) _ ds) h), ih h]

theorem takeWhole_append {ds cs : List Char} (hne : ds ≠ [])
    (hds : ∀ c ∈ ds, isDigit 10 c = true) (hzero : ds.head? = some '0' → ds = ['0'])
    (hcs : NoDigit 10 cs) : takeWhole (ds ++ cs) = some (ds, cs) := by
  rw [takeWhole, takeDigits_append hds hcs]
  split
  · next heq => exact absurd (Prod.mk.inj heq).1 hne
  · next heq => rw [heq]
  · next tail _ htail heq =>
    -- Only zero starts with a zero, and it has no other digits.
    obtain rfl : ds = '0' :: tail := (Prod.mk.inj heq).1
    exact absurd (List.cons.inj (hzero rfl)).2 htail
  · next heq => rw [heq]

theorem takeWhole_decimal (n : Nat) {cs : List Char} (hcs : NoDigit 10 cs) :
    takeWhole (decimal n ++ cs) = some (decimal n, cs) :=
  takeWhole_append (List.length_pos_iff.mp (length_decimal_pos n))
    (fun _ => isDigit_of_mem_decimal) decimal_eq_of_head? hcs

theorem take_decimal (n : Nat) {cs : List Char} (h : Follows cs) :
    take (decimal n ++ cs) = some (⟨false, decimal n, none, none⟩, cs) := by
  have hminus : takeMinus (decimal n ++ cs) = (false, decimal n ++ cs) := by
    obtain ⟨d, -, ds, hds, -⟩ := exists_decimal n
    rw [hds, List.cons_append]
    unfold takeMinus
    split
    · next heq => exact absurd (List.cons.inj heq).1 (Nat.digitChar_ne '-' (by decide))
    · rfl
  have hfraction : takeFraction cs = some (none, cs) := by
    unfold takeFraction
    split
    · rcases h '.' rfl with h | h | h | h <;> cases h
    · rfl
  have hexponent : takeExponent cs = some (none, cs) := by
    unfold takeExponent
    split
    · rcases h 'e' rfl with h | h | h | h <;> cases h
    · rcases h 'E' rfl with h | h | h | h <;> cases h
    · rfl
  simp [take, hminus, takeWhole_decimal n h.noDigit, hfraction, hexponent]

theorem value?_decimal {n : Nat} (h : n ≤ greatest) :
    value? ⟨false, decimal n, none, none⟩ = some (.integer n) := by
  have hvalue : onto 10 0 (decimal n) = n := digitsValue_decimal n
  have haccumulate : accumulate 0 (decimal n) = (n, []) := by
    rw [accumulate_eq (by rw [hvalue]; exact h), hvalue]
  simp [value?, haccumulate, isInteger]

end Numeral

/-! ## Tokens -/

namespace Token

theorem hexUnit?_control {n : Nat} (h : n < 32) :
    padLeft 4 '0' (hexadecimal n) = ['0', '0', (n / 16).digitChar, (n % 16).digitChar] ∧
      hexUnit? '0' '0' (n / 16).digitChar (n % 16).digitChar = some n := by
  have hall : ∀ n < 32,
      padLeft 4 '0' (hexadecimal n) = ['0', '0', (n / 16).digitChar, (n % 16).digitChar] ∧
        hexUnit? '0' '0' (n / 16).digitChar (n % 16).digitChar = some n := by decide +kernel
  exact hall n h

section

variable (r : Reading) (acc rest : List Char) {c : Char}

theorem takeText_pair {letter : Char} (h : escape? letter = some c) :
    takeText r ('\\' :: letter :: rest) = takeText (r.push c) rest := by
  rw [takeText, h]
  rintro _ _ _ _ _ rfl
  cases h

theorem takeText_unit {a b c d : Char} {unit : Nat} (h : hexUnit? a b c d = some unit) :
    takeText r ('\\' :: 'u' :: a :: b :: c :: d :: rest) = takeText (r.pushUnit unit) rest := by
  rw [takeText, h]

theorem takeText_control (h : c.toNat < 32) :
    takeText ⟨acc, none, true⟩
        ('\\' :: 'u' :: (padLeft 4 '0' (hexadecimal c.toNat) ++ rest)) =
      takeText ⟨c :: acc, none, true⟩ rest := by
  obtain ⟨hdigits, hunit⟩ := hexUnit?_control h
  have hpush : (⟨acc, none, true⟩ : Reading).pushUnit c.toNat = ⟨c :: acc, none, true⟩ := by
    rw [Reading.pushUnit, if_neg (by omega), if_neg (by omega), Char.ofNat_toNat]
    rfl
  rw [hdigits, ← hpush]
  exact takeText_unit _ rest hunit

theorem takeText_plain (hquote : c ≠ '"') (hbackslash : c ≠ '\\') (h : ¬c.toNat < 32) :
    takeText r (c :: rest) = takeText (r.push c) rest := by
  rw [takeText, if_neg h]
  · exact hquote
  · exact fun _ _ _ _ _ hc => absurd hc hbackslash
  · exact fun _ _ hc => absurd hc hbackslash

/-- What is written for a character reads as the character. -/
theorem takeText_escaped (c : Char) :
    takeText ⟨acc, none, true⟩ (Value.escapedChar c ++ rest) =
      takeText ⟨c :: acc, none, true⟩ rest := by
  unfold Value.escapedChar
  split
  · next h => subst h; exact takeText_pair _ rest rfl
  split
  · next h => subst h; exact takeText_pair _ rest rfl
  split
  · next h => subst h; exact takeText_pair _ rest rfl
  split
  · next h => subst h; exact takeText_pair _ rest rfl
  split
  · next h => subst h; exact takeText_pair _ rest rfl
  split
  · next h => subst h; exact takeText_pair _ rest rfl
  split
  · next h => subst h; exact takeText_pair _ rest rfl
  split
  · next h => exact takeText_control acc rest h
  · next hquote hbackslash _ _ _ _ _ h => exact takeText_plain _ rest hquote hbackslash h

end

theorem takeText_chars (cs acc rest : List Char) :
    takeText ⟨acc, none, true⟩ (cs.flatMap Value.escapedChar ++ '"' :: rest) =
      some (some (String.ofList (acc.reverse ++ cs)), rest) := by
  induction cs generalizing acc with
  | nil => simp [takeText, Reading.text?]
  | cons c cs ih =>
    rw [List.flatMap_cons, List.append_assoc, takeText_escaped, ih, List.reverse_cons,
      List.append_assoc, List.singleton_append]

/-! ### The row of tokens -/

section

variable {c : Char} {cs rest : List Char} {t : Token}

theorem ofChars_blank (h : isBlank c = true) : ofChars (c :: cs) = ofChars cs := by
  rw [ofChars, if_pos h]

theorem ofChars_token (hblank : isBlank c = false) (h : takeFrom c cs = some (t, rest)) :
    ofChars (c :: cs) = t :: ofChars rest := by
  rw [ofChars, if_neg (by simp [hblank])]
  split
  · next t' rest' heq =>
    cases heq.symm.trans h
    rfl
  · next heq => cases heq.symm.trans h

variable (cs)

@[simp] theorem ofChars_openArray : ofChars ('[' :: cs) = .openArray :: ofChars cs :=
  ofChars_token (by decide) rfl

@[simp] theorem ofChars_closeArray : ofChars (']' :: cs) = .closeArray :: ofChars cs :=
  ofChars_token (by decide) rfl

@[simp] theorem ofChars_openObject : ofChars ('{' :: cs) = .openObject :: ofChars cs :=
  ofChars_token (by decide) rfl

@[simp] theorem ofChars_closeObject : ofChars ('}' :: cs) = .closeObject :: ofChars cs :=
  ofChars_token (by decide) rfl

@[simp] theorem ofChars_comma : ofChars (',' :: cs) = .comma :: ofChars cs :=
  ofChars_token (by decide) rfl

@[simp] theorem ofChars_colon : ofChars (':' :: cs) = .colon :: ofChars cs :=
  ofChars_token (by decide) rfl

@[simp] theorem ofChars_null : ofChars (Value.nullChars ++ cs) = .null :: ofChars cs :=
  ofChars_token (by decide) rfl

@[simp] theorem ofChars_bool (b : Bool) :
    ofChars (Value.boolChars b ++ cs) = .bool b :: ofChars cs := by
  cases b with
  | true => exact ofChars_token (by decide) rfl
  | false => exact ofChars_token (by decide) rfl

@[simp] theorem ofChars_space : ofChars (' ' :: cs) = ofChars cs := ofChars_blank (by decide)

@[simp] theorem ofChars_newline (level : Nat) :
    ofChars (Value.newline level ++ cs) = ofChars cs := by
  have hspaces : ∀ n, ofChars (List.replicate n ' ' ++ cs) = ofChars cs := by
    intro n
    induction n with
    | zero => rfl
    | succ n ih => rw [List.replicate_succ, List.cons_append, ofChars_space, ih]
  rw [Value.newline, List.cons_append, ofChars_blank (by decide), hspaces]

@[simp] theorem ofChars_quoted (s : String) :
    ofChars (Value.quotedChars s ++ cs) = .text (some s) :: ofChars cs := by
  have htake := takeText_chars s.toList [] cs
  rw [Value.quotedChars, List.cons_append, List.append_assoc]
  refine ofChars_token (by decide) ?_
  show (takeText .empty _).map _ = _
  rw [Reading.empty, List.singleton_append, htake]
  simp

theorem takeFrom_number {c : Char} (h : c = '-' ∨ isDigit 10 c = true) :
    isBlank c = false ∧ takeFrom c cs =
      (Numeral.take (c :: cs)).map fun taken => (number taken.1.value?, taken.2) := by
  constructor
  · rw [Bool.eq_false_iff]
    intro hblank
    simp only [isBlank, Bool.or_eq_true, beq_iff_eq] at hblank
    rcases hblank with ((rfl | rfl) | rfl) | rfl <;> exact absurd h (by decide)
  · unfold takeFrom
    split
    all_goals first | rfl | exact absurd h (by decide)

theorem ofChars_decimal {n : Nat} (hn : n ≤ Numeral.greatest) (h : Follows cs) :
    ofChars (decimal n ++ cs) = .number (some (.integer n)) :: ofChars cs := by
  have htake := Numeral.take_decimal n h
  obtain ⟨d, -, ds, hds, -⟩ := exists_decimal n
  have hfirst : isDigit 10 d.digitChar = true := isDigit_of_mem_decimal (hds ▸ List.mem_cons_self)
  have hdigit := takeFrom_number (ds ++ cs) (.inr hfirst)
  rw [hds, List.cons_append] at htake ⊢
  refine ofChars_token hdigit.1 ?_
  rw [hdigit.2, htake, ← hds, Option.map_some]
  dsimp only
  rw [Numeral.value?_decimal hn]

end

end Token

/-! ## Values -/

namespace Value

mutual

/-- All numbers fit 64 bits. -/
def Fits : Value → Prop
  | null => True
  | bool _ => True
  | number n => n ≤ Numeral.greatest
  | text _ => True
  | array items => ItemsFit items
  | object members => MembersFit members

def ItemsFit : List Value → Prop
  | [] => True
  | item :: rest => item.Fits ∧ ItemsFit rest

def MembersFit : List (String × Value) → Prop
  | [] => True
  | (_, value) :: rest => value.Fits ∧ MembersFit rest

end

mutual

/-- The tokens of the value's text. -/
def tokens : Value → List Token
  | null => [.null]
  | bool b => [.bool b]
  | number n => [.number (some (.integer n))]
  | text s => [.text (some s)]
  | array [] => [.openArray, .closeArray]
  | array (item :: rest) => .openArray :: (item.tokens ++ tokensOfItems rest)
  | object [] => [.openObject, .closeObject]
  | object ((key, value) :: rest) =>
    .openObject :: .text (some key) :: .colon :: (value.tokens ++ tokensOfMembers rest)

/-- The tokens of the items of an array but the first, and of its end. -/
def tokensOfItems : List Value → List Token
  | [] => [.closeArray]
  | item :: rest => .comma :: (item.tokens ++ tokensOfItems rest)

/-- The tokens of the members of an object but the first, and of its end. -/
def tokensOfMembers : List (String × Value) → List Token
  | [] => [.closeObject]
  | (key, value) :: rest =>
    .comma :: .text (some key) :: .colon :: (value.tokens ++ tokensOfMembers rest)

end

mutual

/-- What the value's text says. -/
def outline : Value → Outline
  | null => .null
  | bool b => .bool b
  | number n => .number (.integer n)
  | text s => .text s
  | array items => .array (outlines items) true
  | object members => .object (memberOutlines members) true

def outlines : List Value → List Outline
  | [] => []
  | item :: rest => item.outline :: outlines rest

def memberOutlines : List (String × Value) → List (Option String × Outline)
  | [] => []
  | (key, value) :: rest => (some key, value.outline) :: memberOutlines rest

end

/-! ### Cutting the text of a value -/

theorem follows_compactItems (items : List Value) (cs : List Char) :
    Follows (compactItems items ++ cs) := by
  cases items <;> simp [compactItems, Follows]

theorem follows_compactMembers (members : List (String × Value)) (cs : List Char) :
    Follows (compactMembers members ++ cs) := by
  cases members <;> simp [compactMembers, Follows]

mutual

theorem ofChars_compact : ∀ (v : Value) (cs : List Char), v.Fits → Follows cs →
    Token.ofChars (v.compact ++ cs) = v.tokens ++ Token.ofChars cs
  | null, cs, _, _ => Token.ofChars_null cs
  | bool b, cs, _, _ => Token.ofChars_bool cs b
  | number n, cs, hn, hcs => Token.ofChars_decimal cs hn hcs
  | text s, cs, _, _ => Token.ofChars_quoted cs s
  | array [], cs, _, _ => by simp [compact, tokens]
  | array (item :: rest), cs, ⟨hitem, hrest⟩, _ => by
    simp only [compact, tokens, List.cons_append, List.append_assoc, Token.ofChars_openArray,
      ofChars_compact item _ hitem (follows_compactItems rest cs),
      ofChars_compactItems rest cs hrest]
  | object [], cs, _, _ => by simp [compact, tokens]
  | object ((key, value) :: rest), cs, ⟨hvalue, hrest⟩, _ => by
    simp only [compact, tokens, List.cons_append, List.append_assoc, Token.ofChars_openObject,
      Token.ofChars_quoted, Token.ofChars_colon,
      ofChars_compact value _ hvalue (follows_compactMembers rest cs),
      ofChars_compactMembers rest cs hrest]

theorem ofChars_compactItems : ∀ (items : List Value) (cs : List Char), ItemsFit items →
    Token.ofChars (compactItems items ++ cs) = tokensOfItems items ++ Token.ofChars cs
  | [], cs, _ => Token.ofChars_closeArray cs
  | item :: rest, cs, ⟨hitem, hrest⟩ => by
    simp only [compactItems, tokensOfItems, List.cons_append, List.append_assoc,
      Token.ofChars_comma, ofChars_compact item _ hitem (follows_compactItems rest cs),
      ofChars_compactItems rest cs hrest]

theorem ofChars_compactMembers : ∀ (members : List (String × Value)) (cs : List Char),
    MembersFit members →
    Token.ofChars (compactMembers members ++ cs) = tokensOfMembers members ++ Token.ofChars cs
  | [], cs, _ => Token.ofChars_closeObject cs
  | (key, value) :: rest, cs, ⟨hvalue, hrest⟩ => by
    simp only [compactMembers, tokensOfMembers, List.cons_append, List.append_assoc,
      Token.ofChars_comma, Token.ofChars_quoted, Token.ofChars_colon,
      ofChars_compact value _ hvalue (follows_compactMembers rest cs),
      ofChars_compactMembers rest cs hrest]

end

theorem follows_prettyItems (level : Nat) (items : List Value) (cs : List Char) :
    Follows (prettyItems level items ++ cs) := by
  cases items <;> simp [prettyItems, newline, Follows]

theorem follows_prettyMembers (level : Nat) (members : List (String × Value)) (cs : List Char) :
    Follows (prettyMembers level members ++ cs) := by
  cases members <;> simp [prettyMembers, newline, Follows]

mutual

theorem ofChars_prettyAt : ∀ (v : Value) (level : Nat) (cs : List Char), v.Fits → Follows cs →
    Token.ofChars (v.prettyAt level ++ cs) = v.tokens ++ Token.ofChars cs
  | null, _, cs, _, _ => Token.ofChars_null cs
  | bool b, _, cs, _, _ => Token.ofChars_bool cs b
  | number n, _, cs, hn, hcs => Token.ofChars_decimal cs hn hcs
  | text s, _, cs, _, _ => Token.ofChars_quoted cs s
  | array [], _, cs, _, _ => by simp [prettyAt, tokens]
  | array (item :: rest), level, cs, ⟨hitem, hrest⟩, _ => by
    simp only [prettyAt, tokens, List.cons_append, List.append_assoc, Token.ofChars_openArray,
      Token.ofChars_newline,
      ofChars_prettyAt item _ _ hitem (follows_prettyItems level rest cs),
      ofChars_prettyItems rest level cs hrest]
  | object [], _, cs, _, _ => by simp [prettyAt, tokens]
  | object ((key, value) :: rest), level, cs, ⟨hvalue, hrest⟩, _ => by
    simp only [prettyAt, tokens, List.cons_append, List.append_assoc, Token.ofChars_openObject,
      Token.ofChars_newline, Token.ofChars_quoted, Token.ofChars_colon, Token.ofChars_space,
      ofChars_prettyAt value _ _ hvalue (follows_prettyMembers level rest cs),
      ofChars_prettyMembers rest level cs hrest]

theorem ofChars_prettyItems : ∀ (items : List Value) (level : Nat) (cs : List Char),
    ItemsFit items →
    Token.ofChars (prettyItems level items ++ cs) = tokensOfItems items ++ Token.ofChars cs
  | [], level, cs, _ => by simp [prettyItems, tokensOfItems]
  | item :: rest, level, cs, ⟨hitem, hrest⟩ => by
    simp only [prettyItems, tokensOfItems, List.cons_append, List.append_assoc,
      Token.ofChars_comma, Token.ofChars_newline,
      ofChars_prettyAt item _ _ hitem (follows_prettyItems level rest cs),
      ofChars_prettyItems rest level cs hrest]

theorem ofChars_prettyMembers : ∀ (members : List (String × Value)) (level : Nat)
    (cs : List Char), MembersFit members →
    Token.ofChars (prettyMembers level members ++ cs) = tokensOfMembers members ++ Token.ofChars cs
  | [], level, cs, _ => by simp [prettyMembers, tokensOfMembers]
  | (key, value) :: rest, level, cs, ⟨hvalue, hrest⟩ => by
    simp only [prettyMembers, tokensOfMembers, List.cons_append, List.append_assoc,
      Token.ofChars_comma, Token.ofChars_newline, Token.ofChars_quoted, Token.ofChars_colon,
      Token.ofChars_space, ofChars_prettyAt value _ _ hvalue (follows_prettyMembers level rest cs),
      ofChars_prettyMembers rest level cs hrest]

end

end Value

/-! ## Documents -/

namespace Document

/-- The document after a value within whatever waits on the stack. -/
def after (value : Outline) : List Frame → List Token → Document
  | [], rest => ⟨value, !rest.isEmpty⟩
  | frame :: stack, rest => ofTokens .separator (frame.add value :: stack) rest

theorem ofTokens_finish {expected : Expected} {stack stack' : List Frame} {t : Token}
    {value : Outline} (h : Step.ofToken expected stack t = Step.finish value stack')
    (rest : List Token) : ofTokens expected stack (t :: rest) = after value stack' rest := by
  rw [ofTokens, h]
  cases stack' <;> rfl

/-- Where a value may start. -/
def Starts (expected : Expected) : Prop := expected = .value ∨ expected = .valueOrEnd

theorem ofToken_starts {expected : Expected} (h : Starts expected) {t : Token}
    (ht : t ≠ .closeArray) (stack : List Frame) :
    Step.ofToken expected stack t = Step.start stack t := by
  rcases h with rfl | rfl
  · rfl
  · unfold Step.ofToken
    split <;> first | rfl | contradiction

theorem ofTokens_start {expected expected' : Expected} (h : Starts expected) {t : Token}
    (ht : t ≠ .closeArray) {stack stack' : List Frame}
    (hstart : Step.start stack t = .more expected' stack') (rest : List Token) :
    ofTokens expected stack (t :: rest) = ofTokens expected' stack' rest := by
  rw [ofTokens, ofToken_starts h ht, hstart]

mutual

/-- The tokens of a value are taken up to its end, wherever it stands. -/
theorem ofTokens_tokens : ∀ (v : Value) {expected : Expected} (_ : Starts expected)
    (stack : List Frame) (rest : List Token),
    ofTokens expected stack (v.tokens ++ rest) = after v.outline stack rest
  | .null, _, h, stack, rest => ofTokens_finish (ofToken_starts h (by simp) stack) rest
  | .bool b, _, h, stack, rest => ofTokens_finish (ofToken_starts h (by simp) stack) rest
  | .number n, _, h, stack, rest => ofTokens_finish (ofToken_starts h (by simp) stack) rest
  | .text s, _, h, stack, rest => ofTokens_finish (ofToken_starts h (by simp) stack) rest
  | .array [], _, h, stack, rest => by
    show ofTokens _ stack (.openArray :: .closeArray :: rest) = _
    rw [ofTokens_start h (by simp) rfl]
    exact ofTokens_finish rfl rest
  | .array (item :: items), _, h, stack, rest => by
    rw [Value.tokens, List.cons_append, List.append_assoc, ofTokens_start h (by simp) rfl,
      ofTokens_tokens item (.inr rfl)]
    exact ofTokens_items items [item.outline] stack rest
  | .object [], _, h, stack, rest => by
    show ofTokens _ stack (.openObject :: .closeObject :: rest) = _
    rw [ofTokens_start h (by simp) rfl]
    exact ofTokens_finish rfl rest
  | .object ((key, value) :: members), _, h, stack, rest => by
    rw [Value.tokens]
    simp only [List.cons_append, List.append_assoc]
    rw [ofTokens_start h (by simp) rfl]
    show ofTokens .value (.member [] (some key) :: stack) _ = _
    rw [ofTokens_tokens value (.inl rfl)]
    exact ofTokens_members members [(some key, value.outline)] stack rest

theorem ofTokens_items : ∀ (items : List Value) (done : List Outline) (stack : List Frame)
    (rest : List Token),
    ofTokens .separator (.array done :: stack) (Value.tokensOfItems items ++ rest) =
      after (.array (done.reverse ++ Value.outlines items) true) stack rest
  | [], done, stack, rest => by
    rw [Value.outlines, List.append_nil]
    exact ofTokens_finish rfl rest
  | item :: items, done, stack, rest => by
    rw [Value.tokensOfItems, List.cons_append, List.append_assoc]
    show ofTokens .value (.array done :: stack) _ = _
    rw [ofTokens_tokens item (.inl rfl)]
    have hrest := ofTokens_items items (item.outline :: done) stack rest
    rw [List.reverse_cons, List.append_assoc] at hrest
    exact hrest

theorem ofTokens_members : ∀ (members : List (String × Value))
    (done : List (Option String × Outline)) (stack : List Frame) (rest : List Token),
    ofTokens .separator (.object done :: stack) (Value.tokensOfMembers members ++ rest) =
      after (.object (done.reverse ++ Value.memberOutlines members) true) stack rest
  | [], done, stack, rest => by
    rw [Value.memberOutlines, List.append_nil]
    exact ofTokens_finish rfl rest
  | (key, value) :: members, done, stack, rest => by
    rw [Value.tokensOfMembers]
    simp only [List.cons_append, List.append_assoc]
    show ofTokens .value (.member done (some key) :: stack) _ = _
    rw [ofTokens_tokens value (.inl rfl)]
    have hrest := ofTokens_members members ((some key, value.outline) :: done) stack rest
    rw [List.reverse_cons, List.append_assoc] at hrest
    exact hrest

end

theorem ofTokens_value (v : Value) : ofTokens .value [] v.tokens = ⟨v.outline, false⟩ := by
  have h := ofTokens_tokens v (.inl rfl) [] []
  rw [List.append_nil] at h
  exact h

theorem ofText_compact {v : Value} (h : v.Fits) :
    ofText (String.ofList v.compact) = ⟨v.outline, false⟩ := by
  have hcut := Value.ofChars_compact v [] h (by simp [Follows])
  rw [List.append_nil] at hcut
  rw [ofText, String.toList_ofList, hcut, Token.ofChars, List.append_nil, ofTokens_value]

theorem ofText_pretty {v : Value} (h : v.Fits) : ofText v.pretty = ⟨v.outline, false⟩ := by
  have hcut := Value.ofChars_prettyAt v 0 [] h (by simp [Follows])
  rw [List.append_nil] at hcut
  rw [ofText, Value.pretty, String.toList_ofList, hcut, Token.ofChars, List.append_nil,
    ofTokens_value]

/-- A line break after a text over several lines makes no difference. -/
theorem ofText_pretty_newline {v : Value} (h : v.Fits) :
    ofText (v.pretty ++ "\n") = ⟨v.outline, false⟩ := by
  have hcut := Value.ofChars_prettyAt v 0 ['\n'] h (by simp [Follows])
  have hchars : "\n".toList = ['\n'] := rfl
  rw [ofText, Value.pretty, String.toList_append, String.toList_ofList, hchars, hcut,
    Token.ofChars_blank (by decide), Token.ofChars, List.append_nil, ofTokens_value]

end Document

end TunnelConfig.Json
