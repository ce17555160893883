import TunnelConfig.Json.Number

/-!
# Tokens of JSON text

A text is cut into tokens from left to right; blanks between them do not count. The first place
where no token can be found ends the row with the token `bad`.

**Unreadable tokens.** A text with a lone surrogate and a number out of range are well formed, and
may stand where a value is passed over, but have no value.
-/

namespace TunnelConfig.Json

/-- A token. -/
inductive Token where
  | openArray
  | closeArray
  | openObject
  | closeObject
  | comma
  | colon
  | null
  | bool (value : Bool)
  /-- A number, unless it is out of range. -/
  | number (value : Option Number)
  /-- A text, unless it has a lone surrogate. -/
  | text (value : Option String)
  /-- No token. -/
  | bad
  deriving DecidableEq

namespace Token

/-! ## Texts -/

/-- The value of four hexadecimal digits. -/
def hexUnit? (a b c d : Char) : Option Nat :=
  if Text.isDigit 16 a && Text.isDigit 16 b && Text.isDigit 16 c && Text.isDigit 16 d then
    some (Text.digitsValue 16 [a, b, c, d])
  else
    none

/-- The character that a letter stands for after a backslash. -/
def escape? : Char → Option Char
  | '"' => some '"'
  | '\\' => some '\\'
  | '/' => some '/'
  | 'b' => some '\x08'
  | 'f' => some '\x0c'
  | 'n' => some '\n'
  | 'r' => some '\r'
  | 't' => some '\t'
  | _ => none

/-- The part of a text that was read. -/
structure Reading where
  /-- The characters, newest first. -/
  newestFirst : List Char
  /-- A high surrogate that waits for a low one. -/
  pending : Option Nat
  /-- Whether there was no lone surrogate so far. -/
  readable : Bool

namespace Reading

/-- Nothing read. -/
def empty : Reading := ⟨[], none, true⟩

/-- Adds a character. -/
def push (r : Reading) (c : Char) : Reading :=
  ⟨c :: r.newestFirst, none, r.readable && r.pending.isNone⟩

/-- Adds a unit of sixteen bits. -/
def pushUnit (r : Reading) (unit : Nat) : Reading :=
  if 0xD800 ≤ unit ∧ unit < 0xDC00 then
    { r with pending := some unit, readable := r.readable && r.pending.isNone }
  else if 0xDC00 ≤ unit ∧ unit < 0xE000 then
    match r.pending with
    | some high =>
      let code := 0x10000 + (high - 0xD800) * 0x400 + (unit - 0xDC00)
      { r with newestFirst := Char.ofNat code :: r.newestFirst, pending := none }
    | none => { r with readable := false }
  else r.push (Char.ofNat unit)

/-- The text, if all of it could be read. -/
def text? (r : Reading) : Option String :=
  if r.readable && r.pending.isNone then some (String.ofList r.newestFirst.reverse) else none

end Reading

/-- Takes the rest of a text, after its opening quote, off the front. -/
def takeText (r : Reading) : List Char → Option (Option String × List Char)
  | [] => none
  | '"' :: rest => some (r.text?, rest)
  | '\\' :: 'u' :: a :: b :: c :: d :: rest =>
    match hexUnit? a b c d with
    | some unit => takeText (r.pushUnit unit) rest
    | none => none
  | '\\' :: c :: rest =>
    match escape? c with
    | some e => takeText (r.push e) rest
    | none => none
  | c :: rest => if c.toNat < 0x20 then none else takeText (r.push c) rest

theorem length_takeText_lt {r : Reading} {cs rest : List Char} {t : Option String}
    (h : takeText r cs = some (t, rest)) : rest.length < cs.length := by
  fun_induction takeText r cs with
  | case1 => simp at h
  | case2 r cs =>
    simp only [Option.some.injEq, Prod.mk.injEq] at h
    simp [← h.2]
  | case3 r a b c d cs unit hunit ih =>
    have := ih h
    simp only [List.length_cons]
    omega
  | case4 => simp at h
  | case5 r c cs hne e he ih =>
    have := ih h
    simp only [List.length_cons]
    omega
  | case6 => simp at h
  | case7 => simp at h
  | case8 r c cs h1 h2 h3 h4 ih =>
    have := ih h
    simp only [List.length_cons]
    omega

/-! ## Other tokens -/

/-- The blanks of JSON text. -/
def isBlank (c : Char) : Bool := c == ' ' || c == '\n' || c == '\t' || c == '\r'

/-- Takes the token that starts with `c` off the front of a text. -/
def takeFrom (c : Char) (cs : List Char) : Option (Token × List Char) :=
  match c, cs with
  | '[', cs => some (openArray, cs)
  | ']', cs => some (closeArray, cs)
  | '{', cs => some (openObject, cs)
  | '}', cs => some (closeObject, cs)
  | ',', cs => some (comma, cs)
  | ':', cs => some (colon, cs)
  | '"', cs => (takeText .empty cs).map fun (t, rest) => (text t, rest)
  | 'n', 'u' :: 'l' :: 'l' :: rest => some (null, rest)
  | 't', 'r' :: 'u' :: 'e' :: rest => some (bool true, rest)
  | 'f', 'a' :: 'l' :: 's' :: 'e' :: rest => some (bool false, rest)
  | c, cs => (Numeral.take (c :: cs)).map fun (n, rest) => (number n.value?, rest)

theorem length_takeFrom_le {c : Char} {cs rest : List Char} {t : Token}
    (h : takeFrom c cs = some (t, rest)) : rest.length ≤ cs.length := by
  unfold takeFrom at h
  split at h
  case h_7 =>
    obtain ⟨⟨text, tail⟩, htake, heq⟩ := Option.map_eq_some_iff.1 h
    have := length_takeText_lt htake
    simp only [Prod.mk.injEq] at heq
    rw [← heq.2]
    omega
  case h_11 =>
    obtain ⟨⟨n, tail⟩, htake, heq⟩ := Option.map_eq_some_iff.1 h
    have := Numeral.length_take_lt htake
    simp only [Prod.mk.injEq] at heq
    rw [← heq.2]
    simp only [List.length_cons] at this
    omega
  all_goals
    simp only [Option.some.injEq, Prod.mk.injEq] at h
    simp only [← h.2, List.length_cons]
    omega

/-! ## The whole text -/

/-- The tokens of a text. -/
def ofChars : List Char → List Token
  | [] => []
  | c :: cs =>
    if isBlank c then ofChars cs
    else
      match h : takeFrom c cs with
      | some (t, rest) =>
        have := length_takeFrom_le h
        t :: ofChars rest
      | none => [bad]
termination_by cs => cs.length

end Token

end TunnelConfig.Json
