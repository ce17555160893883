import TunnelConfig.Text.Extending
import TunnelConfig.Text.Number
import TunnelConfig.Text.Unprintable

/-!
# Quoted text

How a text stands in a diagnostic: between double quotes, with a backslash in front of quotes and
backslashes, short forms for the common control characters, and the code point in hexadecimal for
every other character that would not show as itself.
-/

namespace TunnelConfig.Text

/-- A character as it stands in quoted text. -/
def quotedChar (c : Char) : List Char :=
  if c = '"' then ['\\', '"']
  else if c = '\\' then ['\\', '\\']
  else if c = '\n' then ['\\', 'n']
  else if c = '\r' then ['\\', 'r']
  else if c = '\t' then ['\\', 't']
  else if c.toNat = 0 then ['\\', '0']
  else if 0x20 ≤ c.toNat ∧ c.toNat ≤ 0x7E then [c]
  else if isExtending c || isUnprintable c then
    '\\' :: 'u' :: '{' :: (hexadecimal c.toNat ++ ['}'])
  else [c]

def quoted (s : String) : String :=
  String.ofList ('"' :: (s.toList.flatMap quotedChar ++ ['"']))

end TunnelConfig.Text
