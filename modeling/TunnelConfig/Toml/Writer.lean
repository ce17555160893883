import TunnelConfig.Text.Number

/-!
# Writing TOML documents

A document is written as entries and then sections of entries, with an empty line before each
section.

**Strings** are written in the first of five ways that shows them well: between quotes if nothing
has to be escaped; between apostrophes if they are on one line; between three quotes or three
apostrophes if no backslash is needed; and otherwise with escapes, between three quotes if they go
over several lines. A string over several lines starts on a line of its own.
-/

namespace TunnelConfig.Toml

/-! ## Strings -/

/-- A control character other than a tab or a line feed. -/
def isControl (c : Char) : Bool :=
  (c.toNat < 0x20 && c != '\t' && c != '\n') || c.toNat == 0x7F

/-- The length of the longest run of a mark, given the length of the run before the text. -/
def longestRun (mark : Char) : (run : Nat) → List Char → Nat
  | run, [] => run
  | run, c :: rest =>
    if c = mark then longestRun mark (run + 1) rest else max run (longestRun mark 0 rest)

/-- A character as it stands between quotes, other than a quote. -/
def escapedChar (c : Char) : List Char :=
  if c = '\x08' then ['\\', 'b']
  else if c = '\t' then ['\\', 't']
  else if c = '\n' then ['\\', 'n']
  else if c = '\x0c' then ['\\', 'f']
  else if c = '\r' then ['\\', 'r']
  else if c = '\\' then ['\\', '\\']
  else if isControl c then
    '\\' :: 'u' :: Text.padLeft 4 '0' ((Text.hexadecimal c.toNat).map Char.toUpper)
  else [c]

/-- A text as it stands between quotes, or between three quotes if it is `long`. Then a line feed
stays, and of several quotes in a row each third is escaped; `run` is the number of quotes right
before the text. -/
def escaped (long : Bool) : (run : Nat) → List Char → List Char
  | _, [] => []
  | run, c :: rest =>
    if c = '"' then
      if long && run < 2 then '"' :: escaped long (run + 1) rest
      else '\\' :: '"' :: escaped long 0 rest
    else if c = '\n' && long then '\n' :: escaped long 0 rest
    else escapedChar c ++ escaped long 0 rest

/-- A text between three marks at each end. -/
def longChars (mark : Char) (lines : Bool) (body : List Char) : List Char :=
  List.replicate 3 mark ++ (if lines then ['\n'] else []) ++ body ++ List.replicate 3 mark

/-- A string as it is written. -/
def stringChars (s : String) : List Char :=
  let cs := s.toList
  let control := cs.any isControl
  let backslash := cs.contains '\\'
  let lines := cs.contains '\n'
  let quotes := longestRun '"' 0 cs
  let apostrophes := longestRun '\'' 0 cs
  if !control && !backslash && quotes == 0 && !lines then '"' :: (escaped false 0 cs ++ ['"'])
  else if !control && apostrophes == 0 && !lines then '\'' :: (cs ++ ['\''])
  else if !control && !backslash && quotes ≤ 2 then longChars '"' lines (escaped true 0 cs)
  else if !control && apostrophes ≤ 2 then longChars '\'' lines cs
  else if lines then longChars '"' true (escaped true 0 cs)
  else '"' :: (escaped false 0 cs ++ ['"'])

/-! ## Documents -/

/-- A value that is written. -/
inductive Plain where
  | text (value : String)
  | count (value : Nat)
  | bool (value : Bool)
  deriving DecidableEq

def Plain.chars : Plain → List Char
  | text s => stringChars s
  | count n => Text.decimal n
  | bool true => ['t', 'r', 'u', 'e']
  | bool false => ['f', 'a', 'l', 's', 'e']

/-- Entries as they are written, each on a line. -/
def entryChars (entries : List (String × Plain)) : List Char :=
  entries.flatMap fun (name, value) => name.toList ++ ' ' :: '=' :: ' ' :: (value.chars ++ ['\n'])

/-- A section as it is written, after an empty line. -/
def sectionChars (name : String) (entries : List (String × Plain)) : List Char :=
  '\n' :: '[' :: (name.toList ++ ']' :: '\n' :: entryChars entries)

/-- A document as it is written. -/
def write (entries : List (String × Plain)) (sections : List (String × List (String × Plain))) :
    String :=
  String.ofList (entryChars entries ++ sections.flatMap fun (name, es) => sectionChars name es)

end TunnelConfig.Toml
