import TunnelConfig.Text.Number

/-!
# Readers

A reader takes something off the front of a text or fails. Failing takes nothing off, so another
reader can be tried in its place.
-/

namespace TunnelConfig.Toml

/-- Takes an `α` off the front of a text. -/
abbrev Reader := StateT (List Char) Option

namespace Reader

variable {α : Type}

/-- The next character, which stays there. -/
def peek : Reader (Option Char) := fun cs => some (cs.head?, cs)

def fail : Reader α := fun _ => none

/-- A character of a kind. -/
def satisfying (p : Char → Bool) : Reader Char
  | [] => none
  | c :: rest => if p c then some (c, rest) else none

def char (c : Char) : Reader Unit := do
  let _ ← satisfying (· == c)

def word : List Char → Reader Unit
  | [] => pure ()
  | c :: rest => do
    char c
    word rest

/-- As many characters of a kind as there are. -/
def takeWhile (p : Char → Bool) : Reader (List Char) := fun cs =>
  some (cs.takeWhile p, cs.dropWhile p)

/-- At least one character of a kind. -/
def takeSome (p : Char → Bool) : Reader (List Char) := do
  let taken ← takeWhile p
  if taken.isEmpty then fail else return taken

/-- Exactly `n` characters of a kind. -/
def takeExactly (n : Nat) (p : Char → Bool) : Reader (List Char) := fun cs =>
  let taken := cs.take n
  if taken.length = n ∧ taken.all p then some (taken, cs.drop n) else none

/-- What another reader takes, or nothing where it fails. -/
def attempt (r : Reader α) : Reader (Option α) := fun cs =>
  match r cs with
  | some (a, rest) => some (some a, rest)
  | none => some (none, cs)

/-- What another reader takes at most `n` times in a row, after what it `taken`, newest first. -/
def upTo (r : Reader α) : (n : Nat) → (taken : List α) → Reader (List α)
  | 0, taken => pure taken.reverse
  | n + 1, taken => do
    match ← attempt r with
    | some a => upTo r n (a :: taken)
    | none => return taken.reverse

/-- What another reader takes as often as it can. It has to take off at least one character each
time, so the length of the text bounds how often. -/
def many (r : Reader α) : Reader (List α) := do
  upTo r (← get).length []

/-- What the reader takes off a whole text. -/
def readAll (r : Reader α) (s : String) : Option α :=
  match r s.toList with
  | some (a, []) => some a
  | _ => none

end Reader

end TunnelConfig.Toml
