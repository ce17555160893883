import TunnelConfig.Proofs.Documents

/-!
# JSON texts as they are written

**Theorem (`Document.ofText_written`).** Every JSON text is read as what it says, whichever way it
is written: with any blanks between its tokens, any spelling of its numbers and any escapes in its
texts.

The grammar of JSON is a type here (`Written`), whose values keep everything that can be chosen in
writing, so that each has one text (`Written.chars`). What it says (`Written.outline`) does not
depend on the blanks. Numbers and texts may be well formed without having a value; they are in the
grammar, too.

A value is read up to its end wherever it stands (`Document.ofTokens_chars`). Only a number may go
on with what comes after it, so this must not be a character of a number (`Ends`).
-/

namespace TunnelConfig.Json

open Text

/-! ## The grammar -/

/-- Blanks between two tokens. -/
structure Blanks where
  chars : List Char
  blank : ∀ c ∈ chars, Token.isBlank c = true

def Blanks.none : Blanks := ⟨[], List.forall_mem_nil _⟩

/-- One more blank in front. -/
def Blanks.cons {c : Char} (h : Token.isBlank c = true) (blanks : Blanks) : Blanks :=
  ⟨c :: blanks.chars, List.forall_mem_cons.mpr ⟨h, blanks.blank⟩⟩

/-- Something with blanks around it. -/
structure Padded (α : Type) where
  before : Blanks
  content : α
  after : Blanks

/-- One or more decimal digits. -/
structure Digits where
  chars : List Char
  ne_nil : chars ≠ []
  digit : ∀ c ∈ chars, isDigit 10 c = true

/-- The sign of an exponent. -/
inductive ExponentSign where
  | left
  | plus
  | minus

/-- Whether the sign is a minus. -/
def ExponentSign.negative : ExponentSign → Bool
  | left => false
  | plus => false
  | minus => true

/-- An exponent as it is written. -/
structure WrittenExponent where
  letter : Char
  letter_eq : letter = 'e' ∨ letter = 'E'
  sign : ExponentSign
  digits : Digits

/-- A number as it is written. Only zero starts with a zero. -/
structure WrittenNumber where
  negative : Bool
  whole : Digits
  zero : whole.chars.head? = some '0' → whole.chars = ['0']
  fraction : Option Digits
  exponent : Option WrittenExponent

/-- A part of a text: a character that stands for itself, a letter after a backslash, or a unit of
sixteen bits, of which two may be needed for a character. -/
inductive Piece where
  | plain (c : Char) (hlow : ¬c.toNat < 32) (hquote : c ≠ '"') (hbackslash : c ≠ '\\')
  | escaped (letter c : Char) (h : Token.escape? letter = some c)
  | unit (a b c d : Char) (value : Nat) (h : Token.hexUnit? a b c d = some value)

/-- A text as it is written. -/
structure WrittenText where
  pieces : List Piece

/-- A value as it is written. -/
inductive Written where
  | null
  | bool (value : Bool)
  | number (value : WrittenNumber)
  | text (value : WrittenText)
  | array (blanks : Blanks) (items : List (Padded Written))
  | object (blanks : Blanks) (members : List (Padded WrittenText × Padded Written))

/-! ## Their texts -/

namespace WrittenNumber

def signChars : ExponentSign → List Char
  | .left => []
  | .plus => ['+']
  | .minus => ['-']

def fractionChars : Option Digits → List Char
  | none => []
  | some ds => '.' :: ds.chars

def exponentChars : Option WrittenExponent → List Char
  | none => []
  | some e => e.letter :: (signChars e.sign ++ e.digits.chars)

/-- The characters of the number behind its sign. -/
def unsignedChars (n : WrittenNumber) : List Char :=
  n.whole.chars ++ (fractionChars n.fraction ++ exponentChars n.exponent)

def chars (n : WrittenNumber) : List Char :=
  if n.negative then '-' :: n.unsignedChars else n.unsignedChars

end WrittenNumber

def Piece.chars : Piece → List Char
  | plain c _ _ _ => [c]
  | escaped letter _ _ => ['\\', letter]
  | unit a b c d _ _ => ['\\', 'u', a, b, c, d]

/-- The characters of a text, with its quotes. -/
def WrittenText.chars (t : WrittenText) : List Char :=
  '"' :: (t.pieces.flatMap Piece.chars ++ ['"'])

namespace Written

mutual

def chars : Written → List Char
  | null => Value.nullChars
  | bool b => Value.boolChars b
  | number n => n.chars
  | text t => t.chars
  | array blanks [] => '[' :: (blanks.chars ++ [']'])
  | array blanks (⟨before, item, after⟩ :: rest) =>
    '[' :: (blanks.chars ++ (before.chars ++ (item.chars ++ (after.chars ++ itemsChars rest))))
  | object blanks [] => '{' :: (blanks.chars ++ ['}'])
  | object blanks ((⟨before, key, after⟩, ⟨before', value, after'⟩) :: rest) =>
    '{' :: (blanks.chars ++ (before.chars ++ (key.chars ++ (after.chars ++
      ':' :: (before'.chars ++ (value.chars ++ (after'.chars ++ membersChars rest)))))))

/-- The characters of the items of an array but the first, and its end. -/
def itemsChars : List (Padded Written) → List Char
  | [] => [']']
  | ⟨before, item, after⟩ :: rest =>
    ',' :: (before.chars ++ (item.chars ++ (after.chars ++ itemsChars rest)))

/-- The characters of the members of an object but the first, and its end. -/
def membersChars : List (Padded WrittenText × Padded Written) → List Char
  | [] => ['}']
  | (⟨before, key, after⟩, ⟨before', value, after'⟩) :: rest =>
    ',' :: (before.chars ++ (key.chars ++ (after.chars ++
      ':' :: (before'.chars ++ (value.chars ++ (after'.chars ++ membersChars rest))))))

end

end Written

/-- The text of a document that has nothing but a value and blanks around it. -/
def Padded.document (w : Padded Written) : String :=
  String.ofList (w.before.chars ++ (w.content.chars ++ w.after.chars))

/-! ## What they say -/

/-- The parts of the number. -/
def WrittenNumber.numeral (n : WrittenNumber) : Numeral where
  negative := n.negative
  whole := n.whole.chars
  fraction := n.fraction.map Digits.chars
  exponent := n.exponent.map fun e => (e.sign.negative, e.digits.chars)

/-- Reads a part of a text. -/
def Piece.onto (r : Token.Reading) : Piece → Token.Reading
  | plain c _ _ _ => r.push c
  | escaped _ c _ => r.push c
  | unit _ _ _ _ value _ => r.pushUnit value

/-- The text, if it has a value. -/
def WrittenText.text? (t : WrittenText) : Option String := (t.pieces.foldl Piece.onto .empty).text?

namespace Written

mutual

/-- What the value says. -/
def outline : Written → Outline
  | null => .null
  | bool b => .bool b
  | number n =>
    match n.numeral.value? with
    | some value => .number value
    | none => .unreadable
  | text t =>
    match t.text? with
    | some value => .text value
    | none => .unreadable
  | array _ items => .array (outlines items) true
  | object _ members => .object (memberOutlines members) true

def outlines : List (Padded Written) → List Outline
  | [] => []
  | ⟨_, item, _⟩ :: rest => item.outline :: outlines rest

def memberOutlines : List (Padded WrittenText × Padded Written) → List (Option String × Outline)
  | [] => []
  | (⟨_, key, _⟩, ⟨_, value, _⟩) :: rest => (key.text?, value.outline) :: memberOutlines rest

end

end Written

/-! ## Numbers -/

/-- What comes after a number: nothing that belongs to one. -/
def Ends (cs : List Char) : Prop :=
  ∀ c ∈ cs.head?, isDigit 10 c = false ∧ c ≠ '.' ∧ c ≠ 'e' ∧ c ≠ 'E'

theorem ends_nil : Ends [] := by simp [Ends]

theorem ends_cons {c : Char} {cs : List Char} :
    Ends (c :: cs) ↔ isDigit 10 c = false ∧ c ≠ '.' ∧ c ≠ 'e' ∧ c ≠ 'E' := by simp [Ends]

theorem Ends.noDigit {cs : List Char} (h : Ends cs) : NoDigit 10 cs := fun c hc => (h c hc).1

/-- A token that is no number ends one, and so do blanks before it. -/
theorem Blanks.ends (blanks : Blanks) {cs : List Char} (h : Ends cs) :
    Ends (blanks.chars ++ cs) := by
  obtain ⟨chars, hblank⟩ := blanks
  cases chars with
  | nil => exact h
  | cons c chars =>
    have hc := hblank c List.mem_cons_self
    simp only [Token.isBlank, Bool.or_eq_true, beq_iff_eq] at hc
    rcases hc with ((rfl | rfl) | rfl) | rfl <;> exact ends_cons.mpr (by decide)

theorem Digits.exists_cons (ds : Digits) :
    ∃ c rest, ds.chars = c :: rest ∧ isDigit 10 c = true := by
  obtain ⟨c, rest, h⟩ := List.exists_cons_of_ne_nil ds.ne_nil
  exact ⟨c, rest, h, ds.digit c (h ▸ List.mem_cons_self)⟩

namespace WrittenNumber

variable (n : WrittenNumber) {cs : List Char}

theorem takeSome_chars (ds : Digits) (h : NoDigit 10 cs) :
    Numeral.takeSome (ds.chars ++ cs) = some (ds.chars, cs) := by
  rw [Numeral.takeSome, takeDigits_append ds.digit h]
  split
  · next heq => exact absurd (Prod.mk.inj heq).1 ds.ne_nil
  · next heq => rw [heq]

theorem takeFraction_chars (f : Option Digits) (h : NoDigit 10 cs) (hpoint : cs.head? ≠ some '.') :
    Numeral.takeFraction (fractionChars f ++ cs) = some (f.map Digits.chars, cs) := by
  cases f with
  | none =>
    change Numeral.takeFraction cs = some (none, cs)
    unfold Numeral.takeFraction
    split
    · exact absurd rfl hpoint
    · rfl
  | some ds =>
    change (Numeral.takeSome (ds.chars ++ cs)).map _ = _
    rw [takeSome_chars ds h]
    rfl

theorem takeExponentDigits_chars (sign : ExponentSign) (ds : Digits) (h : NoDigit 10 cs) :
    Numeral.takeExponentDigits (signChars sign ++ (ds.chars ++ cs)) =
      some (some (sign.negative, ds.chars), cs) := by
  have hsign : Numeral.takeSign (signChars sign ++ (ds.chars ++ cs)) =
      (sign.negative, ds.chars ++ cs) := by
    cases sign with
    | plus => rfl
    | minus => rfl
    | left =>
      change Numeral.takeSign (ds.chars ++ cs) = (false, ds.chars ++ cs)
      unfold Numeral.takeSign
      obtain ⟨c, rest, hds, hc⟩ := ds.exists_cons
      rw [hds, List.cons_append]
      split
      · next heq => exact absurd ((List.cons.inj heq).1 ▸ hc) (by decide)
      · next heq => exact absurd ((List.cons.inj heq).1 ▸ hc) (by decide)
      · rfl
  rw [Numeral.takeExponentDigits, hsign]
  dsimp only
  rw [takeSome_chars ds h]
  rfl

theorem takeExponent_chars (e : Option WrittenExponent) (h : Ends cs) :
    Numeral.takeExponent (exponentChars e ++ cs) =
      some (e.map fun e => (e.sign.negative, e.digits.chars), cs) := by
  cases e with
  | none =>
    change Numeral.takeExponent cs = some (none, cs)
    unfold Numeral.takeExponent
    split
    · exact absurd rfl (h 'e' rfl).2.2.1
    · exact absurd rfl (h 'E' rfl).2.2.2
    · rfl
  | some e =>
    have hdigits := takeExponentDigits_chars e.sign e.digits h.noDigit
    rw [exponentChars, List.cons_append, List.append_assoc]
    rcases e.letter_eq with hletter | hletter
    · rw [hletter, Numeral.takeExponent, hdigits]
      rfl
    · rw [hletter, Numeral.takeExponent, hdigits]
      rfl

/-- What comes after the digits before the point is no digit, and is a point only if there is a
fraction. -/
theorem ends_exponent (e : Option WrittenExponent) (h : Ends cs) :
    NoDigit 10 (exponentChars e ++ cs) ∧ (exponentChars e ++ cs).head? ≠ some '.' := by
  cases e with
  | none => exact ⟨h.noDigit, fun hpoint => (h '.' hpoint).2.1 rfl⟩
  | some e =>
    rw [exponentChars, List.cons_append, noDigit_cons]
    rcases e.letter_eq with hletter | hletter
    · rw [hletter]
      exact ⟨by decide, by simp⟩
    · rw [hletter]
      exact ⟨by decide, by simp⟩

theorem take_chars (h : Ends cs) : Numeral.take (n.chars ++ cs) = some (n.numeral, cs) := by
  obtain ⟨hexponent, hpoint⟩ := ends_exponent n.exponent h
  have hfraction : NoDigit 10 (fractionChars n.fraction ++ (exponentChars n.exponent ++ cs)) := by
    cases n.fraction with
    | none => exact hexponent
    | some ds => exact noDigit_cons.mpr (by decide)
  have hminus : Numeral.takeMinus (n.chars ++ cs) = (n.negative, n.unsignedChars ++ cs) := by
    rw [chars]
    cases n.negative with
    | true => rfl
    | false =>
      obtain ⟨c, rest, hc, hdigit⟩ := n.whole.exists_cons
      change Numeral.takeMinus (n.unsignedChars ++ cs) = _
      rw [unsignedChars, hc, List.cons_append, List.cons_append]
      unfold Numeral.takeMinus
      split
      · next heq => exact absurd ((List.cons.inj heq).1 ▸ hdigit) (by decide)
      · rfl
  have hwhole : Numeral.takeWhole (n.unsignedChars ++ cs) =
      some (n.whole.chars, fractionChars n.fraction ++ (exponentChars n.exponent ++ cs)) := by
    rw [unsignedChars, List.append_assoc, List.append_assoc]
    exact Numeral.takeWhole_append n.whole.ne_nil n.whole.digit n.zero hfraction
  simp [Numeral.take, hminus, hwhole, takeFraction_chars n.fraction hexponent hpoint,
    takeExponent_chars n.exponent h, numeral]

theorem exists_cons : ∃ c rest, n.chars = c :: rest ∧ (c = '-' ∨ isDigit 10 c = true) := by
  rw [chars]
  cases n.negative with
  | true => exact ⟨'-', _, rfl, .inl rfl⟩
  | false =>
    obtain ⟨c, rest, hc, hdigit⟩ := n.whole.exists_cons
    refine ⟨c, rest ++ (fractionChars n.fraction ++ exponentChars n.exponent), ?_, .inr hdigit⟩
    change n.unsignedChars = _
    rw [unsignedChars, hc, List.cons_append]

theorem ofChars_chars (h : Ends cs) :
    Token.ofChars (n.chars ++ cs) = .number n.numeral.value? :: Token.ofChars cs := by
  have htake := n.take_chars h
  obtain ⟨c, rest, hc, hfirst⟩ := n.exists_cons
  obtain ⟨hblank, hfrom⟩ := Token.takeFrom_number (rest ++ cs) hfirst
  rw [hc, List.cons_append] at htake ⊢
  refine Token.ofChars_token hblank ?_
  rw [hfrom, htake]
  rfl

end WrittenNumber

/-! ## Texts -/

theorem Piece.takeText_chars (p : Piece) (r : Token.Reading) (rest : List Char) :
    Token.takeText r (p.chars ++ rest) = Token.takeText (p.onto r) rest := by
  cases p with
  | plain c hlow hquote hbackslash => exact Token.takeText_plain r rest hquote hbackslash hlow
  | escaped letter c h => exact Token.takeText_pair r rest h
  | unit a b c d value h => exact Token.takeText_unit r rest h

theorem Piece.takeText_pieces (ps : List Piece) (r : Token.Reading) (rest : List Char) :
    Token.takeText r (ps.flatMap chars ++ '"' :: rest) = some ((ps.foldl onto r).text?, rest) := by
  induction ps generalizing r with
  | nil => rw [List.flatMap_nil, List.nil_append, Token.takeText, List.foldl_nil]
  | cons p ps ih => rw [List.flatMap_cons, List.append_assoc, p.takeText_chars, ih, List.foldl_cons]

theorem WrittenText.ofChars_chars (t : WrittenText) (cs : List Char) :
    Token.ofChars (t.chars ++ cs) = .text t.text? :: Token.ofChars cs := by
  rw [chars, List.cons_append, List.append_assoc, List.singleton_append]
  refine Token.ofChars_token (by decide) ?_
  change (Token.takeText .empty _).map _ = _
  rw [Piece.takeText_pieces]
  rfl

theorem Blanks.ofChars_chars (blanks : Blanks) (cs : List Char) :
    Token.ofChars (blanks.chars ++ cs) = Token.ofChars cs := by
  obtain ⟨chars, hblank⟩ := blanks
  change Token.ofChars (chars ++ cs) = _
  induction chars with
  | nil => rfl
  | cons c chars ih =>
    obtain ⟨hc, hchars⟩ := List.forall_mem_cons.mp hblank
    rw [List.cons_append, Token.ofChars_blank hc, ih hchars]

/-! ## Values -/

namespace Written

theorem ends_itemsChars (items : List (Padded Written)) (cs : List Char) :
    Ends (itemsChars items ++ cs) := by
  cases items with
  | nil => exact ends_cons.mpr (by decide)
  | cons item rest =>
    rw [itemsChars]
    exact ends_cons.mpr (by decide)

theorem ends_membersChars (members : List (Padded WrittenText × Padded Written)) (cs : List Char) :
    Ends (membersChars members ++ cs) := by
  cases members with
  | nil => exact ends_cons.mpr (by decide)
  | cons member rest =>
    rw [membersChars]
    exact ends_cons.mpr (by decide)

end Written

namespace Document

/-- What a number or text says, if it has a value. -/
theorem ofTokens_number {expected : Expected} (h : Starts expected) (stack : List Frame)
    (n : WrittenNumber) (rest : List Token) :
    ofTokens expected stack (.number n.numeral.value? :: rest) =
      after (Written.number n).outline stack rest := by
  refine ofTokens_finish ?_ rest
  rw [ofToken_starts h (by simp), Written.outline]
  cases n.numeral.value? <;> rfl

theorem ofTokens_text {expected : Expected} (h : Starts expected) (stack : List Frame)
    (t : WrittenText) (rest : List Token) :
    ofTokens expected stack (.text t.text? :: rest) =
      after (Written.text t).outline stack rest := by
  refine ofTokens_finish ?_ rest
  rw [ofToken_starts h (by simp), Written.outline]
  cases t.text? <;> rfl

mutual

/-- The tokens of a value are taken up to its end, wherever it stands. -/
theorem ofTokens_chars : ∀ (w : Written) {expected : Expected} (_ : Starts expected)
    (stack : List Frame) {cs : List Char} (_ : Ends cs),
    ofTokens expected stack (Token.ofChars (w.chars ++ cs)) =
      after w.outline stack (Token.ofChars cs)
  | .null, _, h, stack, cs, _ => by
    rw [Written.chars, Token.ofChars_null]
    exact ofTokens_finish (ofToken_starts h (by simp) stack) _
  | .bool b, _, h, stack, cs, _ => by
    rw [Written.chars, Token.ofChars_bool]
    exact ofTokens_finish (ofToken_starts h (by simp) stack) _
  | .number n, _, h, stack, cs, hcs => by
    rw [Written.chars, n.ofChars_chars hcs, ofTokens_number h]
  | .text t, _, h, stack, cs, _ => by
    rw [Written.chars, t.ofChars_chars, ofTokens_text h]
  | .array blanks [], _, h, stack, cs, _ => by
    rw [Written.chars, List.cons_append, Token.ofChars_openArray, ofTokens_start h (by simp) rfl,
      List.append_assoc, blanks.ofChars_chars, List.singleton_append, Token.ofChars_closeArray]
    exact ofTokens_finish rfl _
  | .array blanks (⟨before, item, after⟩ :: rest), _, h, stack, cs, _ => by
    have hend := after.ends (Written.ends_itemsChars rest cs)
    simp only [Written.chars, List.cons_append, List.append_assoc, Token.ofChars_openArray]
    rw [ofTokens_start h (by simp) rfl, blanks.ofChars_chars, before.ofChars_chars,
      ofTokens_chars item (.inr rfl) _ hend, after.ofChars_chars]
    exact ofTokens_itemsChars rest [item.outline] stack cs
  | .object blanks [], _, h, stack, cs, _ => by
    rw [Written.chars, List.cons_append, Token.ofChars_openObject, ofTokens_start h (by simp) rfl,
      List.append_assoc, blanks.ofChars_chars, List.singleton_append, Token.ofChars_closeObject]
    exact ofTokens_finish rfl _
  | .object blanks ((⟨before, key, after⟩, ⟨before', value, after'⟩) :: rest), _, h, stack, cs,
      _ => by
    have hend := after'.ends (Written.ends_membersChars rest cs)
    simp only [Written.chars, List.cons_append, List.append_assoc, Token.ofChars_openObject]
    rw [ofTokens_start h (by simp) rfl, blanks.ofChars_chars, before.ofChars_chars,
      key.ofChars_chars, after.ofChars_chars, Token.ofChars_colon, before'.ofChars_chars]
    change ofTokens .value (.member [] key.text? :: stack) _ = _
    rw [ofTokens_chars value (.inl rfl) _ hend, after'.ofChars_chars]
    exact ofTokens_membersChars rest [(key.text?, value.outline)] stack cs

theorem ofTokens_itemsChars : ∀ (items : List (Padded Written)) (done : List Outline)
    (stack : List Frame) (cs : List Char),
    ofTokens .separator (.array done :: stack)
        (Token.ofChars (Written.itemsChars items ++ cs)) =
      after (.array (done.reverse ++ Written.outlines items) true) stack (Token.ofChars cs)
  | [], done, stack, cs => by
    rw [Written.outlines, List.append_nil, Written.itemsChars, List.singleton_append,
      Token.ofChars_closeArray]
    exact ofTokens_finish rfl _
  | ⟨before, item, after⟩ :: rest, done, stack, cs => by
    have hend := after.ends (Written.ends_itemsChars rest cs)
    simp only [Written.itemsChars, List.cons_append, List.append_assoc, Token.ofChars_comma]
    rw [before.ofChars_chars]
    change ofTokens .value (.array done :: stack) _ = _
    rw [ofTokens_chars item (.inl rfl) _ hend, after.ofChars_chars]
    have hrest := ofTokens_itemsChars rest (item.outline :: done) stack cs
    rw [List.reverse_cons, List.append_assoc] at hrest
    exact hrest

theorem ofTokens_membersChars : ∀ (members : List (Padded WrittenText × Padded Written))
    (done : List (Option String × Outline)) (stack : List Frame) (cs : List Char),
    ofTokens .separator (.object done :: stack)
        (Token.ofChars (Written.membersChars members ++ cs)) =
      after (.object (done.reverse ++ Written.memberOutlines members) true) stack
        (Token.ofChars cs)
  | [], done, stack, cs => by
    rw [Written.memberOutlines, List.append_nil, Written.membersChars, List.singleton_append,
      Token.ofChars_closeObject]
    exact ofTokens_finish rfl _
  | (⟨before, key, after⟩, ⟨before', value, after'⟩) :: rest, done, stack, cs => by
    have hend := after'.ends (Written.ends_membersChars rest cs)
    simp only [Written.membersChars, List.cons_append, List.append_assoc, Token.ofChars_comma]
    rw [before.ofChars_chars, key.ofChars_chars, after.ofChars_chars, Token.ofChars_colon,
      before'.ofChars_chars]
    change ofTokens .value (.member done key.text? :: stack) _ = _
    rw [ofTokens_chars value (.inl rfl) _ hend, after'.ofChars_chars]
    have hrest := ofTokens_membersChars rest ((key.text?, value.outline) :: done) stack cs
    rw [List.reverse_cons, List.append_assoc] at hrest
    exact hrest

end

/-- A document says what its value says, and nothing follows it. -/
theorem ofText_written (w : Padded Written) : ofText w.document = ⟨w.content.outline, false⟩ := by
  have hend := w.after.ends ends_nil
  have hafter := w.after.ofChars_chars []
  rw [List.append_nil] at hend hafter
  rw [ofText, Padded.document, String.toList_ofList, w.before.ofChars_chars,
    ofTokens_chars w.content (.inl rfl) [] hend, hafter, Token.ofChars]
  rfl

end Document

end TunnelConfig.Json
