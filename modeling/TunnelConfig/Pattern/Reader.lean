import TunnelConfig.Pattern.Class
import TunnelConfig.Text.Alphanumeric

/-!
# Reading patterns

Patterns stand between braces, so they hold no closing brace; with that, no number of repetitions
and no property of characters can be written, and an opening brace is a fault.
-/

namespace TunnelConfig.Pattern

/-! ## Groups -/

/-- Whether the text may name a group. -/
def isGroupName : List Char → Bool
  | [] => false
  | first :: rest =>
    (first == '_' || Text.isAlphabetic first)
      && rest.all fun c => c == '_' || c == '.' || c == '[' || c == ']' || Text.isAlphanumeric c

/-- The flags that a text sets and, after a hyphen, clears. Each may stand there once. -/
def readFlags (cs : List Char) : Option Flags :=
  if cs.all ("imsUuRx-".toList.contains ·) ∧ cs.Nodup ∧ cs.getLast? ≠ some '-' then
    some ((cs.takeWhile (· != '-')).map (·, true)
      ++ ((cs.dropWhile (· != '-')).drop 1).map (·, false))
  else none

/-- What starts with a parenthesis. -/
inductive Opening where
  | flags (changes : Flags)
  /-- A group, with the names of all groups up to here. -/
  | group (changes : Flags) (names : List (List Char))

/-- Takes the name of a group and the sign that ends it. -/
def takeGroupName (names : List (List Char)) (cs : List Char) : Option (Opening × List Char) :=
  let name := cs.takeWhile (· != '>')
  match cs.drop name.length with
  | '>' :: rest =>
    if isGroupName name && !names.contains name then some (.group [] (name :: names), rest)
    else none
  | _ => none

/-- Takes flags, which hold for a group or from here on. -/
def takeFlags (names : List (List Char)) (cs : List Char) : Option (Opening × List Char) := do
  let text := cs.takeWhile fun c => c != ':' && c != ')'
  let changes ← readFlags text
  match cs.drop text.length with
  | ':' :: rest => return (.group changes names, rest)
  | ')' :: rest => if changes.isEmpty then none else return (.flags changes, rest)
  | _ => none

/-- Takes the start of a group, from behind its parenthesis. -/
def takeOpening (names : List (List Char)) : List Char → Option (Opening × List Char)
  | '?' :: 'P' :: '<' :: rest => takeGroupName names rest
  | '?' :: '<' :: rest => takeGroupName names rest
  | '?' :: rest => takeFlags names rest
  | cs => some (.group [] names, cs)

/-! ## Whole patterns -/

/-- Whether blanks may stand between the parts after changes of flags. -/
def spacedAfter (changes : Flags) (spaced : Bool) : Bool := (changes.lookup 'x').getD spaced

/-- A pattern with a sign of repetition after it. Flags alone cannot be repeated. -/
def repeat? : List Pattern → Option (List Pattern)
  | [] | .flags _ :: _ => none
  | part :: parts => some (.repeated part :: parts)

/-- The part of a pattern that a backslash and the characters after it are. -/
def Escaped.part : Escaped → Pattern
  | .literal l => .literal l
  | .shorthand negated => .shorthand negated
  | .textEdge => .textEdge
  | .wordEdge => .wordEdge

/-- The part of a pattern that a character is, if it has no other meaning. -/
def partOf (c : Char) : Pattern :=
  if c = '.' then .any
  else if c = '^' ∨ c = '$' then .textEdge
  else .literal ⟨c, false⟩

/-- Takes alternatives up to the parenthesis that ends their group, or to the end. The parts of the
last alternative and the alternatives before it are given, each with the last first. -/
def takeAlternatives : (steps : Nat) → (spaced : Bool) → (names : List (List Char)) →
    (parts branches : List Pattern) → List Char →
    Option (Pattern × List (List Char) × List Char)
  | 0, _, _, _, _, _ => none
  | steps + 1, spaced, names, parts, branches, cs =>
    let ended := sequenceOf parts.reverse :: branches
    let go (parts : List Pattern) (rest : List Char) :=
      takeAlternatives steps spaced names parts branches rest
    match skip spaced cs with
    | [] => some (alternativesOf ended.reverse, names, [])
    | c :: rest =>
      match c with
      | ')' => some (alternativesOf ended.reverse, names, c :: rest)
      | '|' => takeAlternatives steps spaced names [] ended rest
      | '(' => do
        match ← takeOpening names (skip spaced rest) with
        | (.flags changes, rest) =>
          takeAlternatives steps (spacedAfter changes spaced) names (.flags changes :: parts)
            branches rest
        | (.group changes names, rest) =>
          let (inner, names, rest) ←
            takeAlternatives steps (spacedAfter changes spaced) names [] [] rest
          match rest with
          | ')' :: rest =>
            takeAlternatives steps spaced names (.group changes inner :: parts) branches rest
          | _ => none
      | '[' => do
        let (part, rest) ← takeClass spaced rest
        go (part :: parts) rest
      | '?' | '*' | '+' => do
        go (← repeat? parts) (if rest.head? = some '?' then rest.drop 1 else rest)
      | '{' => none
      | '\\' => do
        let (escaped, rest) ← takeEscaped spaced rest
        go (escaped.part :: parts) rest
      | c => go (partOf c :: parts) rest

/-- Reads a whole pattern. -/
def read? (cs : List Char) : Option Pattern := do
  match ← takeAlternatives (cs.length + 1) false [] [] [] cs with
  | (p, _, []) => return p
  | _ => none

end TunnelConfig.Pattern
