import TunnelConfig.Pattern.Basic
import TunnelConfig.Text.Blank
import TunnelConfig.Text.Number

/-!
# Blanks and backslashes in patterns

A flag lets blanks stand between the parts of a pattern, and comments, from a number sign to the end
of the line. A backslash takes the meaning from a character that has one, and gives one to letters.
-/

namespace TunnelConfig.Pattern

/-- Drops blanks and comments; at the start the text may be within a comment. -/
def dropSpace (inComment : Bool) : List Char → List Char
  | [] => []
  | c :: rest =>
    if inComment then dropSpace (c != '\n') rest
    else if Text.isBlank c then dropSpace false rest
    else if c = '#' then dropSpace true rest
    else c :: rest

/-- Drops blanks and comments where they may stand. -/
def skip (spaced : Bool) (cs : List Char) : List Char := if spaced then dropSpace false cs else cs

/-- What a backslash and the characters after it stand for. -/
inductive Escaped where
  | literal (l : Literal)
  | shorthand (negated : Bool)
  | textEdge
  | wordEdge

/-- Takes so many hexadecimal digits. -/
def takeHexadecimal (spaced : Bool) : (width : Nat) → List Char → Option (List Char × List Char)
  | 0, cs => some ([], cs)
  | width + 1, cs =>
    match skip spaced cs with
    | [] => none
    | c :: rest => do
      if !Text.isDigit 16 c then none
      let (digits, rest) ← takeHexadecimal spaced width rest
      return (c :: digits, rest)

/-- Takes a code point of so many hexadecimal digits. -/
def takeCode (spaced : Bool) (width : Nat) (cs : List Char) : Option (Escaped × List Char) := do
  let (digits, rest) ← takeHexadecimal spaced width cs
  let n := Text.digitsValue 16 digits
  if n.isValidChar then some (.literal ⟨Char.ofNat n, width == 2⟩, rest) else none

/-- Takes what follows a backslash. -/
def takeEscaped (spaced : Bool) : List Char → Option (Escaped × List Char)
  | [] => none
  | c :: rest =>
    match c with
    | 'x' => takeCode spaced 2 rest
    | 'u' => takeCode spaced 4 rest
    | 'U' => takeCode spaced 8 rest
    | 'd' | 's' | 'w' => some (.shorthand false, rest)
    | 'D' | 'S' | 'W' => some (.shorthand true, rest)
    | 'a' => some (.literal ⟨'\x07', false⟩, rest)
    | 'f' => some (.literal ⟨'\x0c', false⟩, rest)
    | 'n' => some (.literal ⟨'\n', false⟩, rest)
    | 'r' => some (.literal ⟨'\r', false⟩, rest)
    | 't' => some (.literal ⟨'\t', false⟩, rest)
    | 'v' => some (.literal ⟨'\x0b', false⟩, rest)
    | 'A' | 'z' => some (.textEdge, rest)
    | 'b' | 'B' | '<' | '>' => some (.wordEdge, rest)
    | c => if c.toNat < 0x80 ∧ !c.isAlphanum then some (.literal ⟨c, false⟩, rest) else none

end TunnelConfig.Pattern
