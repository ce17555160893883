import TunnelConfig.Pattern.Check
import TunnelConfig.Settings.Overlay

/-!
# Log filters

A variable of the environment may say in more detail what is logged. It holds directives with commas
between them. A directive is a level alone, or says from where a level is logged: the name of a part
of the program, a span of time in square brackets, or both, then an equals sign and the level; the
level may be missing. A span may have a field in braces, and the field a value.

A directive that cannot be read is passed over with a notice. Blanks around a directive do not count
where its parts are looked for, but the parts are cut from the text with the blanks, at the places
that they have without them.
-/

namespace TunnelConfig.LogFilter

/-- The variable with the directives. -/
def variableName : String := "RUST_LOG"

/-- Why a directive cannot be read. -/
inductive DirectiveError where
  | malformed
  | level
  | field (cause : PatternError)
  deriving DecidableEq

def DirectiveError.message : DirectiveError → String
  | malformed => "invalid filter directive"
  | level => "error parsing level filter: expected one of \"off\", \"error\", \"warn\", \"info\", "
      ++ "\"debug\", \"trace\", or a number 0-5"
  | field cause => "invalid field filter: " ++ cause.message

/-! ## Parts of directives -/

/-- Whether a text is a level: a name in any case of letters, or a number. -/
def isLevel (cs : List Char) : Bool :=
  (Text.readUnsigned 5 cs).isOk
    || ("off" :: LogLevel.all.map LogLevel.name).contains (lowerCase (String.ofList cs))

/-- Whether the text after an equals sign is a level or missing. -/
def checkLevel (cs : List Char) : Except DirectiveError Unit :=
  if cs.isEmpty || isLevel cs then .ok () else .error .level

/-- Whether a text is a number without a sign, as in a field's value. -/
def isNumber (cs : List Char) : Bool :=
  let (whole, rest) := Text.takeDigits 10 cs
  let (fraction, rest) := match rest with
    | '.' :: rest => Text.takeDigits 10 rest
    | _ => ([], rest)
  let rest := match rest with
    | e :: rest =>
      let digits := match rest with
        | '+' :: digits => digits
        | '-' :: digits => digits
        | digits => digits
      if (e == 'e' || e == 'E') && !digits.isEmpty then (Text.takeDigits 10 digits).2 else e :: rest
    | [] => []
  ["inf", "infinity", "nan"].contains (lowerCase (String.ofList cs))
    || (!(whole.isEmpty && fraction.isEmpty) && rest.isEmpty)

/-- Whether the value of a field is a pattern, or a number with a plus sign in front, which is none.
All other numbers are patterns, too. -/
def checkField (cs : List Char) : Except DirectiveError Unit :=
  let value := ((cs.dropWhile (· != '=')).drop 1).takeWhile (· != '=')
  if value.head? = some '+' ∧ isNumber (value.drop 1) then .ok ()
  else (Pattern.check value).mapError .field

/-- Checks what follows a span, which is at `place`. -/
def checkEnd (text : List Char) (place : Nat) : List Char → Except DirectiveError Unit
  | [] => .ok ()
  | '=' :: _ => checkLevel (text.drop (place + 1))
  | _ => .error .malformed

/-- Checks a span from behind its opening bracket, which is at `place`, and what follows it. -/
def checkSpan (text : List Char) (place : Nat) (cs : List Char) : Except DirectiveError Unit :=
  let name := cs.takeWhile fun c => c != ']' && c != '{'
  let place := place + name.length
  match cs.drop name.length with
  | ']' :: rest => checkEnd text (place + 1) rest
  | '{' :: rest => do
    let place := place + 1
    let field := rest.takeWhile (· != '}')
    let rest := rest.drop field.length
    if rest.isEmpty || field.isEmpty then throw .malformed
    checkField ((text.drop place).take field.length)
    match rest with
    | '}' :: ']' :: rest => checkEnd text (place + field.length + 2) rest
    | _ => throw .malformed
  | _ => .error .malformed

/-! ## Directives -/

/-- Whether a directive may start with the character. -/
def isStart (c : Char) : Bool :=
  c == '[' || c == '-' || c == ':' || c == '_' || Text.isAlphanumeric c

/-- Whether a directive can be read. -/
def checkDirective (text : List Char) : Except DirectiveError Unit :=
  let cs := Text.trim text
  if !cs.head?.any isStart then .error .malformed
  else
    let name := cs.takeWhile fun c => c != '=' && c != '['
    match cs.drop name.length with
    | '=' :: _ => checkLevel (text.drop (name.length + 1))
    | '[' :: rest => checkSpan text (name.length + 1) rest
    | _ => .ok ()

/-- The notice on a directive, if it cannot be read. -/
def notice? (directive : String) : Option String :=
  match checkDirective directive.toList with
  | .ok () => none
  | .error e => some ("ignoring `" ++ directive ++ "`: " ++ e.message)

/-- The notices on the directives of an environment. -/
def notices (env : Environment) : List String :=
  match env variableName with
  | some text => ((text.splitOn ",").filter (! ·.isEmpty)).filterMap notice?
  | none => []

end TunnelConfig.LogFilter
