import TunnelConfig.Toml.Reader

/-!
# Blanks, line ends and comments

A line ends with a line feed, which may follow a carriage return. A comment reaches from a number
sign to the end of its line and holds no control characters but tabs.
-/

namespace TunnelConfig.Toml

open Reader

/-- A blank within a line. -/
def isBlank (c : Char) : Bool := c == ' ' || c == '\t'

/-- Not a control character, or a tab. -/
def isPlain (c : Char) : Bool := c == '\t' || (0x20 ≤ c.toNat && c.toNat != 0x7F)

/-- Blanks within a line. -/
def blanks : Reader Unit := do
  let _ ← takeWhile isBlank

def newline : Reader Unit := word ['\n'] <|> word ['\r', '\n']

def endOfText : Reader Unit
  | [] => some ((), [])
  | _ => none

/-- The end of a line or of the text. -/
def lineEnd : Reader Unit := newline <|> endOfText

/-- A comment up to the end of its line. -/
def comment : Reader Unit := do
  char '#'
  let _ ← takeWhile isPlain

/-- What may follow a line's content: blanks, a comment and the end of the line. -/
def trailing : Reader Unit := do
  blanks
  let _ ← attempt comment
  lineEnd

/-- A blank, an end of a line, or a comment with its end of a line. -/
def gap : Reader Unit :=
  (do let _ ← takeSome isBlank) <|> newline <|> (do comment; newline)

def gaps : Reader Unit := do
  let _ ← many gap

end TunnelConfig.Toml
