import TunnelConfig.Settings.Overlay
import TunnelConfig.Tool.Arguments

/-!
# Invocations

What the arguments of the tool say: general options, then a command, then the options of the
command. Two of the general options may come from the environment instead. Every option may be
given once.
-/

namespace TunnelConfig.Tool

/-- How a configuration is shown. -/
inductive Format where
  | table
  | json
  deriving DecidableEq

/-- What the tool is to do. -/
inductive Command where
  /-- Shows the configuration in a buffer. -/
  | decode (input : String) (format : Format)
  /-- Makes a buffer from a configuration in JSON text. -/
  | encode (input output : String)
  /-- Shows where the fields of records are. -/
  | layout
  deriving DecidableEq

/-- What goes for every command. -/
structure GeneralOptions where
  level : Option LogLevel
  /-- Whether logs are JSON. -/
  json : Bool
  /-- The path of the settings. -/
  settings : Option String
  deriving DecidableEq

/-- A command with general options. -/
structure Invocation where
  general : GeneralOptions
  command : Command
  deriving DecidableEq

/-! ## Values of options -/

/-- The level that a word stands for, in any case of letters. -/
def readLevelWord (s : String) : Option LogLevel := LogLevel.ofName? (lowerCase s)

/-- The format that a word stands for. -/
def readFormat : String → Option Format
  | "table" => some .table
  | "json" => some .json
  | _ => none

/-- The truth value that a word stands for, in exactly this spelling. -/
def readExactTruth : String → Option Bool
  | "true" => some true
  | "false" => some false
  | _ => none

/-- A path, which is never empty. -/
def readPath (s : String) : Option String := if s.isEmpty then none else some s

/-! ## Commands -/

/-- The option that asks for help. -/
def helpRule {σ : Type} : Rule σ := ⟨"help", some 'h', .stop .help⟩

/-- What may be said about decoding. -/
structure DecodeOptions where
  input : Option String
  format : Option Format

def decodeRules : List (Rule DecodeOptions) := [
  ⟨"input", none, .once (·.input) readPath fun v o => { o with input := some v }⟩,
  ⟨"output", none, .once (·.format) readFormat fun v o => { o with format := some v }⟩,
  helpRule]

/-- Reads what follows the word for decoding. -/
def readDecode (arguments : List String) : Except Stop Command := do
  let o ← readAll decodeRules ⟨none, none⟩ arguments
  return .decode (← orUsage o.input) (o.format.getD .table)

/-- What may be said about encoding. -/
structure EncodeOptions where
  input : Option String
  output : Option String

def encodeRules : List (Rule EncodeOptions) := [
  ⟨"input", none, .once (·.input) readPath fun v o => { o with input := some v }⟩,
  ⟨"out", none, .once (·.output) readPath fun v o => { o with output := some v }⟩,
  helpRule]

/-- Reads what follows the word for encoding. -/
def readEncode (arguments : List String) : Except Stop Command := do
  let o ← readAll encodeRules ⟨none, none⟩ arguments
  return .encode (← orUsage o.input) (← orUsage o.output)

/-- Reads what follows the word for the layout. -/
def readLayout (arguments : List String) : Except Stop Command := do
  readAll [helpRule] () arguments
  return .layout

/-- What help may be asked about. -/
def helpTopics : List (List String) := [[], ["decode"], ["encode"], ["layout"], ["help"]]

/-- Reads a command and what follows it. -/
def readCommand : List String → Except Stop Command
  | "decode" :: rest => readDecode rest
  | "encode" :: rest => readEncode rest
  | "layout" :: rest => readLayout rest
  | "help" :: rest => .error (if rest ∈ helpTopics then .help else .usage)
  | _ => .error .usage

/-! ## Invocations -/

def generalRules : List (Rule GeneralOptions) := [
  ⟨"log-level", some 'l', .once (·.level) readLevelWord fun v o => { o with level := some v }⟩,
  ⟨"json-logs", none, .flag fun o => if o.json then none else some { o with json := true }⟩,
  ⟨"config", none, .once (·.settings) readPath fun v o => { o with settings := some v }⟩,
  helpRule,
  ⟨"version", some 'V', .stop .version⟩]

/-- The options with those of an environment, which count where an option is not given and then
have to make sense. -/
def GeneralOptions.inEnvironment (env : Environment) (o : GeneralOptions) :
    Option GeneralOptions := do
  let level ← match o.level, env (variableStart ++ "LOG_LEVEL") with
    | none, some text => (readLevelWord text).map some
    | level, _ => some level
  let json ← match o.json, env (variableStart ++ "JSON_LOGS") with
    | false, some text => readExactTruth text
    | json, _ => some json
  return { o with level := level, json := json }

/-- What arguments say in an environment. -/
def Invocation.ofArguments (env : Environment) (arguments : List String) :
    Except Stop Invocation := do
  let (general, rest) ← readOptions generalRules ⟨none, false, none⟩ arguments
  let command ← readCommand rest
  return ⟨← orUsage (general.inEnvironment env), command⟩

/-- The log of an invocation. Its options go before the settings. -/
def Invocation.log (i : Invocation) (s : Settings) : LogOptions :=
  let log := LogOptions.ofSettings s
  { log with level := i.general.level.getD log.level, json := log.json || i.general.json }

end TunnelConfig.Tool
