import TunnelConfig.Toml.Blank

/-!
# Strings

There are four ways to write a string. Between quotes a backslash starts an escape; between
apostrophes every character stands for itself. With three quotes or apostrophes at each end the
string may go over several lines; a line end right after the opening ones does not count, one or
two quotes may stand anywhere inside, and up to two more right before the closing ones.
-/

namespace TunnelConfig.Toml

open Reader

/-- The character whose number is given in hexadecimal. -/
def codePoint (digits : List Char) : Reader Char :=
  let n := Text.digitsValue 16 digits
  if n < 0xD800 ∨ (0xE000 ≤ n ∧ n < 0x110000) then pure (Char.ofNat n) else fail

/-- An escape, from its backslash on. -/
def escape : Reader Char := do
  char '\\'
  match ← satisfying fun _ => true with
  | 'b' => return '\x08'
  | 'f' => return '\x0c'
  | 'n' => return '\n'
  | 'r' => return '\r'
  | 't' => return '\t'
  | '"' => return '"'
  | '\\' => return '\\'
  | 'u' => takeExactly 4 (Text.isDigit 16) >>= codePoint
  | 'U' => takeExactly 8 (Text.isDigit 16) >>= codePoint
  | _ => fail

/-! ## On one line -/

/-- A character of a string between quotes. -/
def quotedChar : Reader Char := satisfying (fun c => isPlain c && c != '"' && c != '\\') <|> escape

/-- A string between quotes. -/
def quotedString : Reader (List Char) := do
  char '"'
  let cs ← many quotedChar
  char '"'
  return cs

/-- A string between apostrophes. -/
def literalString : Reader (List Char) := do
  char '\''
  let cs ← takeWhile fun c => isPlain c && c != '\''
  char '\''
  return cs

/-! ## Over several lines -/

/-- A line end, which counts as a line feed. -/
def innerNewline : Reader (List Char) := do
  newline
  return ['\n']

/-- A backslash at the end of a line, with all blanks and line ends that follow. -/
def lineJoint : Reader (List Char) := do
  char '\\'
  blanks
  newline
  let _ ← many ((do let _ ← takeSome isBlank) <|> newline)
  return []

/-- Content of a string between three quotes. -/
def quotedContent : Reader (List Char) :=
  takeSome (fun c => isPlain c && c != '"' && c != '\\') <|> lineJoint
    <|> (do return [← escape]) <|> innerNewline

/-- Content of a string between three apostrophes. -/
def literalContent : Reader (List Char) :=
  takeSome (fun c => isPlain c && c != '\'') <|> innerNewline

/-- The rest of a string over several lines. Three to five marks end it; all but three of them
belong to it. -/
def longRest (mark : Char) (content : Reader (List Char)) : (steps : Nat) → (taken : List Char) →
    Reader (List Char)
  | 0, _ => fail
  | steps + 1, taken => do
    let marks ← takeWhile (· == mark)
    if 5 < marks.length then fail
    else if 3 ≤ marks.length then return taken ++ marks.drop 3
    else
      let more ← content
      longRest mark content steps (taken ++ marks ++ more)

/-- A string over several lines. -/
def longString (mark : Char) (content : Reader (List Char)) : Reader (List Char) := do
  word [mark, mark, mark]
  let _ ← attempt newline
  longRest mark content ((← get).length + 1) []

def anyString : Reader String := do
  let cs ← longString '"' quotedContent <|> quotedString <|> longString '\'' literalContent
    <|> literalString
  return String.ofList cs

end TunnelConfig.Toml
