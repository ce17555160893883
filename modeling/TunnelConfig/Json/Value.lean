import TunnelConfig.Text.Number

/-!
# JSON values and their text

The values that are written as JSON. There are two ways to write one: on a single line without
blanks, and over several lines with an indentation of two blanks for each level.
-/

namespace TunnelConfig.Json

/-- A value. -/
inductive Value where
  | null
  | bool (value : Bool)
  | number (value : Nat)
  | text (value : String)
  | array (items : List Value)
  | object (members : List (String × Value))

namespace Value

instance : Inhabited Value := ⟨null⟩

/-! ## Texts -/

/-- A character as it stands in a text. -/
def escapedChar (c : Char) : List Char :=
  if c = '"' then ['\\', '"']
  else if c = '\\' then ['\\', '\\']
  else if c = '\x08' then ['\\', 'b']
  else if c = '\x0c' then ['\\', 'f']
  else if c = '\n' then ['\\', 'n']
  else if c = '\r' then ['\\', 'r']
  else if c = '\t' then ['\\', 't']
  else if c.toNat < 0x20 then '\\' :: 'u' :: Text.padLeft 4 '0' (Text.hexadecimal c.toNat)
  else [c]

/-- A text between quotes. -/
def quotedChars (s : String) : List Char := '"' :: (s.toList.flatMap escapedChar ++ ['"'])

def boolChars : Bool → List Char
  | true => ['t', 'r', 'u', 'e']
  | false => ['f', 'a', 'l', 's', 'e']

def nullChars : List Char := ['n', 'u', 'l', 'l']

/-! ## On a single line -/

mutual

/-- The value on a single line. -/
def compact : Value → List Char
  | null => nullChars
  | bool b => boolChars b
  | number n => Text.decimal n
  | text s => quotedChars s
  | array [] => ['[', ']']
  | array (item :: rest) => '[' :: (item.compact ++ compactItems rest)
  | object [] => ['{', '}']
  | object ((key, value) :: rest) =>
    '{' :: (quotedChars key ++ ':' :: (value.compact ++ compactMembers rest))

/-- The items of an array but the first, and its end. -/
def compactItems : List Value → List Char
  | [] => [']']
  | item :: rest => ',' :: (item.compact ++ compactItems rest)

/-- The members of an object but the first, and its end. -/
def compactMembers : List (String × Value) → List Char
  | [] => ['}']
  | (key, value) :: rest =>
    ',' :: (quotedChars key ++ ':' :: (value.compact ++ compactMembers rest))

end

/-! ## Over several lines -/

/-- A new line at a level. -/
def newline (level : Nat) : List Char := '\n' :: List.replicate (2 * level) ' '

mutual

/-- The value over several lines, of which the first stands at `level`. -/
def prettyAt (level : Nat) : Value → List Char
  | null => nullChars
  | bool b => boolChars b
  | number n => Text.decimal n
  | text s => quotedChars s
  | array [] => ['[', ']']
  | array (item :: rest) =>
    '[' :: (newline (level + 1) ++ item.prettyAt (level + 1) ++ prettyItems level rest)
  | object [] => ['{', '}']
  | object ((key, value) :: rest) =>
    '{' :: (newline (level + 1) ++ quotedChars key ++ ':' :: ' '
      :: (value.prettyAt (level + 1) ++ prettyMembers level rest))

/-- The items of an array at `level` but the first, and its end. -/
def prettyItems (level : Nat) : List Value → List Char
  | [] => newline level ++ [']']
  | item :: rest =>
    ',' :: (newline (level + 1) ++ item.prettyAt (level + 1) ++ prettyItems level rest)

/-- The members of an object at `level` but the first, and its end. -/
def prettyMembers (level : Nat) : List (String × Value) → List Char
  | [] => newline level ++ ['}']
  | (key, value) :: rest =>
    ',' :: (newline (level + 1) ++ quotedChars key ++ ':' :: ' '
      :: (value.prettyAt (level + 1) ++ prettyMembers level rest))

end

/-- The value over several lines. -/
def pretty (v : Value) : String := String.ofList (v.prettyAt 0)

end Value

end TunnelConfig.Json
