import TunnelConfig.Pattern.Reader

/-!
# Patterns that can be matched

A pattern is matched by a machine that looks at one byte of UTF-8 after the other and has no tables
of characters. So letters of either case cannot be taken for each other unless bytes are matched,
nor are the digits, blanks and characters of words known; and bytes may be matched only where they
are ASCII, since the machine never stops within a character. The edges of words cannot be found
either, but that is a fault of its own, which shows only where there is no other.
-/

namespace TunnelConfig

/-- Why a text is no pattern that can be matched. -/
inductive PatternError where
  | malformed
  /-- The pattern has an edge of a word, which one character alone does not tell. -/
  | wordEdge
  deriving DecidableEq

def PatternError.message : PatternError → String
  | malformed => "error building NFA"
  | wordEdge => "unsupported regex feature for DFAs: cannot build DFAs for regexes with Unicode "
      ++ "word boundaries; switch to ASCII word boundaries, or heuristically enable Unicode word "
      ++ "boundaries or use a different regex engine"

namespace Pattern

/-- How the parts of a pattern are taken. -/
structure Mode where
  /-- Whether letters of either case are taken for each other. -/
  caseless : Bool
  /-- Whether bytes are matched. -/
  bytes : Bool
  deriving DecidableEq

/-- A mode after changes of flags. -/
def Mode.change (m : Mode) (changes : Flags) : Mode where
  caseless := (changes.lookup 'i').getD m.caseless
  bytes := ((changes.lookup 'u').map (! ·)).getD m.bytes

/-- Whether a character in a class can be matched. -/
def Literal.isMember (m : Mode) (l : Literal) : Bool :=
  if m.bytes then l.char.toNat < 0x80 else !m.caseless

/-- Whether a character outside of classes can be matched. A character that is not written as a byte
is a row of bytes. -/
def Literal.isPart (m : Mode) (l : Literal) : Bool :=
  if m.bytes then !l.byte || l.char.toNat < 0x80 else !m.caseless

mutual

/-- Whether what is in a class can be matched. The complement of a class of bytes always has bytes
that are not ASCII. -/
def Members.canMatch (m : Mode) : Members → Bool
  | .literal l => l.isMember m
  | .range low high => low.isMember m && high.isMember m
  | .named negated => if m.bytes then !negated else !m.caseless
  | .shorthand negated => m.bytes && !negated
  | .bracketed negated members => !(m.bytes && negated) && members.canMatch m
  | .union parts => Members.canMatchAll m parts
  | .operation left right => left.canMatch m && right.canMatch m

/-- Whether all parts of a class can be matched. -/
def Members.canMatchAll (m : Mode) : List Members → Bool
  | [] => true
  | part :: parts => part.canMatch m && Members.canMatchAll m parts

end

/-- What is known behind a part of a pattern. -/
structure Progress where
  mode : Mode
  /-- Whether there was an edge of a word that is not one between bytes. -/
  wordEdge : Bool
  deriving DecidableEq

/-- Goes on if a condition holds. -/
def Progress.onlyIf (s : Progress) (condition : Bool) : Option Progress :=
  if condition then some s else none

mutual

/-- Goes through a pattern, if it can be matched. Changes of flags hold to the end of the group. -/
def follow (s : Progress) : Pattern → Option Progress
  | .flags changes => some { s with mode := s.mode.change changes }
  | .literal l => s.onlyIf (l.isPart s.mode)
  | .any => s.onlyIf !s.mode.bytes
  | .textEdge => some s
  | .wordEdge => some { s with wordEdge := s.wordEdge || !s.mode.bytes }
  | .shorthand negated => s.onlyIf ((Members.shorthand negated).canMatch s.mode)
  | .bracketed negated members => s.onlyIf ((Members.bracketed negated members).canMatch s.mode)
  | .repeated p => follow s p
  | .group changes p => do
    let inner ← follow { s with mode := s.mode.change changes } p
    return { s with wordEdge := inner.wordEdge }
  | .sequence parts => followAll s parts
  | .alternatives parts => followAll s parts

/-- Goes through parts of a pattern, one after the other. -/
def followAll (s : Progress) : List Pattern → Option Progress
  | [] => some s
  | part :: parts => do followAll (← follow s part) parts

end

/-- The greatest depth of a pattern. -/
def greatestAllowedDepth : Nat := 250

/-- Whether a text is a pattern that can be matched. -/
def check (cs : List Char) : Except PatternError Unit :=
  match read? cs with
  | none => .error .malformed
  | some p =>
    if greatestAllowedDepth < p.depth then .error .malformed
    else
      match p.follow ⟨⟨false, false⟩, false⟩ with
      | none => .error .malformed
      | some s => if s.wordEdge then .error .wordEdge else .ok ()

end Pattern

end TunnelConfig
