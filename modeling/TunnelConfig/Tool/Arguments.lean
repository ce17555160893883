/-!
# Options among arguments

Arguments are options and words. An option goes by a name after two dashes or by a letter after one.
If it takes a value, the value follows an equals sign, stands right behind the letter, or is the
next argument, which then may not look like an option itself. Two dashes alone end the options.
-/

namespace TunnelConfig.Tool

/-- Why arguments do not lead to a run. -/
inductive Stop where
  /-- They make no sense. -/
  | usage
  /-- They ask for help. -/
  | help
  /-- They ask for the version. -/
  | version
  deriving DecidableEq

/-! ## Spelling -/

/-- What an option goes by. -/
inductive Mark where
  | name (name : String)
  | letter (letter : Char)
  deriving DecidableEq

/-- An argument as it is spelled. -/
inductive Argument where
  | word
  /-- An option, perhaps with a value of its own. -/
  | option (mark : Mark) (value : Option String)
  /-- The end of the options. -/
  | terminator
  deriving DecidableEq

/-- The value right behind a letter, after an equals sign if there is one. -/
def valueBehind : List Char → Option String
  | [] => none
  | '=' :: value => some (String.ofList value)
  | value => some (String.ofList value)

namespace Argument

/-- Tells an argument by its dashes. A dash alone is a word. -/
def ofText (s : String) : Argument :=
  match s.toList with
  | ['-', '-'] => terminator
  | '-' :: '-' :: rest =>
    option (.name (String.ofList (rest.takeWhile (· != '='))))
      (match rest.dropWhile (· != '=') with
        | [] => none
        | _ :: value => some (String.ofList value))
  | '-' :: letter :: rest => option (.letter letter) (valueBehind rest)
  | _ => word

end Argument

/-! ## Reading -/

/-- What an option does to the values read before it. -/
inductive Effect (σ : Type) where
  /-- It takes a value, which may be refused. -/
  | value (put : String → σ → Option σ)
  /-- It stands alone. -/
  | flag (put : σ → Option σ)
  /-- It ends the reading. -/
  | stop (why : Stop)

/-- An option that a command has. -/
structure Rule (σ : Type) where
  name : String
  letter : Option Char
  effect : Effect σ

variable {σ α : Type}

/-- Whether the option goes by a mark. -/
def Rule.goesBy (rule : Rule σ) : Mark → Bool
  | .name name => rule.name == name
  | .letter letter => rule.letter == some letter

/-- A value that may be given once. -/
def Effect.once (get : σ → Option α) (read : String → Option α) (put : α → σ → σ) : Effect σ :=
  .value fun text s => if (get s).isSome then none else (read text).map (put · s)

/-- Goes on if there is something to go on with. -/
def orUsage (a : Option α) : Except Stop α :=
  match a with
  | some a => .ok a
  | none => .error .usage

/-- Reads options onto `s` up to the first argument that is none. -/
def readOptions (rules : List (Rule σ)) (s : σ) : List String → Except Stop (σ × List String)
  | [] => .ok (s, [])
  | argument :: rest =>
    match Argument.ofText argument with
    | .word => .ok (s, argument :: rest)
    | .terminator => .ok (s, argument :: rest)
    | .option mark given =>
      match (rules.find? (·.goesBy mark)).map Rule.effect, given, rest with
      | some (.value put), some value, rest =>
        (orUsage (put value s)).bind fun s => readOptions rules s rest
      | some (.value put), none, value :: rest =>
        if Argument.ofText value = .word then
          (orUsage (put value s)).bind fun s => readOptions rules s rest
        else .error .usage
      | some (.flag put), none, rest =>
        (orUsage (put s)).bind fun s => readOptions rules s rest
      | some (.stop why), none, _ => .error why
      | some (.stop why), some _, _ =>
        match mark with
        | .letter _ => .error why
        | .name _ => .error .usage
      | _, _, _ => .error .usage

/-- Reads arguments that are options only. -/
def readAll (rules : List (Rule σ)) (start : σ) (arguments : List String) : Except Stop σ := do
  let (s, rest) ← readOptions rules start arguments
  if rest = [] ∨ rest = ["--"] then return s else throw .usage

end TunnelConfig.Tool
