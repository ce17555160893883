import TunnelConfig.Pattern.Escape

/-!
# Classes in patterns

Reading of a class, from behind its opening bracket. A class may hold other classes, and two double
signs and two hyphens stand for operations on what is on their left and on their right. Hyphens at
the start of a class stand for themselves, and without them a closing bracket does.
-/

namespace TunnelConfig.Pattern

/-- The names of classes of ASCII characters. -/
def classNames : List String := ["alnum", "alpha", "ascii", "blank", "cntrl", "digit", "graph",
  "lower", "print", "punct", "space", "upper", "word", "xdigit"]

/-- Takes a class with a name, from behind its bracket; tells whether it is negated. -/
def takeNamed : List Char → Option (Bool × List Char)
  | ':' :: cs =>
    let negated := cs.head? == some '^'
    let cs := if negated then cs.drop 1 else cs
    let name := cs.takeWhile (· != ':')
    match cs.drop name.length with
    | ':' :: ']' :: rest => if String.ofList name ∈ classNames then some (negated, rest) else none
    | _ => none
  | _ => none

/-- Takes one member of a class, or one end of a range. -/
def takeEnd (spaced : Bool) : List Char → Option (Escaped × List Char)
  | [] => none
  | '\\' :: rest => takeEscaped spaced rest
  | c :: rest => some (.literal ⟨c, false⟩, rest)

/-- A member of a class; places are none. -/
def Escaped.member? : Escaped → Option Members
  | .literal l => some (.literal l)
  | .shorthand negated => some (.shorthand negated)
  | .textEdge | .wordEdge => none

/-- The range between two members. -/
def range? : Escaped → Escaped → Option Members
  | .literal low, .literal high => if high.char < low.char then none else some (.range low high)
  | _, _ => none

/-- The character after a hyphen that decides what the hyphen stands for. Of a comment, only the
number sign is skipped. -/
def afterHyphen (spaced : Bool) (cs : List Char) : Option Char :=
  if spaced then
    match cs.dropWhile Text.isBlank with
    | '#' :: rest => (rest.dropWhile Text.isBlank).head?
    | rest => rest.head?
  else cs.head?

/-- Takes a member of a class or a range of members. -/
def takeMember (spaced : Bool) (cs : List Char) : Option (Members × List Char) := do
  let (first, rest) ← takeEnd spaced cs
  match skip spaced rest with
  | [] => none
  | '-' :: rest =>
    let next := afterHyphen spaced rest
    if next = some ']' ∨ next = some '-' then return (← first.member?, '-' :: rest)
    let (last, rest) ← takeEnd spaced (skip spaced rest)
    return (← range? first last, rest)
  | rest => return (← first.member?, rest)

def takeHyphens (spaced : Bool) : (steps : Nat) → List Char → List Members × List Char
  | steps + 1, '-' :: rest =>
    let (hyphens, rest) := takeHyphens spaced steps (skip spaced rest)
    (.literal ⟨'-', false⟩ :: hyphens, rest)
  | _, cs => ([], cs)

/-- Takes the start of a class: whether it is negated, and the members that stand for themselves
only there. -/
def takeClassStart (spaced : Bool) (cs : List Char) : Bool × List Members × List Char :=
  let cs := skip spaced cs
  let negated := cs.head? == some '^'
  let cs := if negated then skip spaced (cs.drop 1) else cs
  match takeHyphens spaced cs.length cs with
  | ([], ']' :: rest) => (negated, [.literal ⟨']', false⟩], rest)
  | (hyphens, rest) => (negated, hyphens, rest)

/-- What is in a class up to here: the left side of an operation, if there is one, and the parts
after it, the last first. -/
def joined (left : Option Members) (parts : List Members) : Members :=
  let right := Members.ofList parts.reverse
  match left with
  | some left => .operation left right
  | none => right

/-- Takes what is in a class and its closing bracket. -/
def takeMembers (spaced : Bool) : (steps : Nat) → (left : Option Members) → (parts : List Members) →
    List Char → Option (Members × List Char)
  | 0, _, _, _ => none
  | steps + 1, left, parts, cs =>
    match skip spaced cs with
    | [] => none
    | ']' :: rest => some (joined left parts, rest)
    | '&' :: '&' :: rest => takeMembers spaced steps (some (joined left parts)) [] rest
    | '-' :: '-' :: rest => takeMembers spaced steps (some (joined left parts)) [] rest
    | '~' :: '~' :: rest => takeMembers spaced steps (some (joined left parts)) [] rest
    | '[' :: rest =>
      match takeNamed rest with
      | some (negated, rest) => takeMembers spaced steps left (.named negated :: parts) rest
      | none => do
        let (negated, start, rest) := takeClassStart spaced rest
        let (inner, rest) ← takeMembers spaced steps none start.reverse rest
        takeMembers spaced steps left (.bracketed negated inner :: parts) rest
    | cs => do
      let (member, rest) ← takeMember spaced cs
      takeMembers spaced steps left (member :: parts) rest

/-- Takes a class, from behind its opening bracket. -/
def takeClass (spaced : Bool) (cs : List Char) : Option (Pattern × List Char) := do
  let (negated, start, rest) := takeClassStart spaced cs
  let (members, rest) ← takeMembers spaced (rest.length + 1) none start.reverse rest
  return (.bracketed negated members, rest)

end TunnelConfig.Pattern
