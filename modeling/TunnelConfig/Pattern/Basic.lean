/-!
# Patterns

Regular expressions as they are written. A pattern matches characters unless a flag says that it
matches bytes; a class of characters is a set that is put together from characters, ranges and other
classes.

The depth of a pattern is the number of its parts of several parts around its innermost one. Rows of
parts count once, however long they are, and not at all if there is only one part.
-/

namespace TunnelConfig

namespace Pattern

/-- A character in a pattern. -/
structure Literal where
  char : Char
  /-- Whether it is written as a byte, with two hexadecimal digits. -/
  byte : Bool
  deriving DecidableEq

/-- What is in a class. -/
inductive Members where
  | literal (l : Literal)
  | range (low high : Literal)
  /-- A class of ASCII characters with a name. -/
  | named (negated : Bool)
  /-- The digits, the blanks or the characters of words. -/
  | shorthand (negated : Bool)
  | bracketed (negated : Bool) (members : Members)
  | union (parts : List Members)
  /-- What is in both, in one only, or in the first and not in the second. -/
  | operation (left right : Members)

/-- Flags that are set or cleared. -/
abbrev Flags := List (Char × Bool)

end Pattern

open Pattern (Literal Members Flags)

inductive Pattern where
  /-- Changes flags from here on. -/
  | flags (changes : Flags)
  | literal (l : Literal)
  | any
  /-- The start or the end of the text or of a line. -/
  | textEdge
  /-- A place where a word starts or ends, or one where none does. -/
  | wordEdge
  | shorthand (negated : Bool)
  | bracketed (negated : Bool) (members : Members)
  | repeated (p : Pattern)
  /-- A group, with changes of flags within it. -/
  | group (changes : Flags) (p : Pattern)
  | sequence (parts : List Pattern)
  | alternatives (parts : List Pattern)

namespace Pattern

/-- The union of what is in a row. -/
def Members.ofList : List Members → Members
  | [part] => part
  | parts => .union parts

/-- One pattern after the other. -/
def sequenceOf : List Pattern → Pattern
  | [part] => part
  | parts => .sequence parts

/-- One pattern or the other. -/
def alternativesOf : List Pattern → Pattern
  | [part] => part
  | parts => .alternatives parts

/-! ## Depth -/

/-- The depth of a row of parts, from that of the deepest. -/
def rowDepth (isEmpty : Bool) (deepest : Nat) : Nat := if isEmpty then 0 else deepest + 1

mutual

/-- The depth of what is in a class. -/
def Members.depth : Members → Nat
  | .literal _ | .range .. | .named _ | .shorthand _ => 0
  | .bracketed _ members => members.depth + 1
  | .union parts => rowDepth parts.isEmpty (Members.greatestDepth parts)
  | .operation left right => max left.depth right.depth + 1

/-- The depth of the deepest part. -/
def Members.greatestDepth : List Members → Nat
  | [] => 0
  | part :: parts => max part.depth (Members.greatestDepth parts)

end

mutual

def depth : Pattern → Nat
  | .flags _ | .literal _ | .any | .textEdge | .wordEdge | .shorthand _ => 0
  | .bracketed _ members => members.depth + 1
  | .repeated p => p.depth + 1
  | .group _ p => p.depth + 1
  | .sequence parts => rowDepth parts.isEmpty (greatestDepth parts)
  | .alternatives parts => rowDepth parts.isEmpty (greatestDepth parts)

/-- The depth of the deepest part. -/
def greatestDepth : List Pattern → Nat
  | [] => 0
  | part :: parts => max part.depth (greatestDepth parts)

end

end Pattern

end TunnelConfig
