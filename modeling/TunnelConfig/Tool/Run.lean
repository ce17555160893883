import TunnelConfig.Configuration.Json
import TunnelConfig.Configuration.Log
import TunnelConfig.Settings.Load
import TunnelConfig.Tool.Failure
import TunnelConfig.Tool.Invocation
import TunnelConfig.Tool.Table

/-!
# Runs of the tool

A run reads its arguments, loads the settings, starts the log and then does what the command asks
for. It is a job with files; what it prints and the code it ends with are its result. The settings
are loaded even for a command that needs none, so bad settings stop every command. With the settings
the log starts: notices on its filter come before any other error, and its file and directory are
there before a command reads or writes anything.

**The log.** What a command tells the log is part of the outcome, as entries. A writer makes lines
of them, which standard output shows before the output of the command (`standardOutput`). If the log
has a file, the writer puts the same entries there, at any time up to the end of the run. Neither
these lines nor those in the file are among the output and the files of the job. So nothing is said
of a command that is to write its result to the very file of its log.
-/

namespace TunnelConfig.Tool

open Files (Job)

/-- A part of a run, which may fail. -/
abbrev Part := ExceptT Failure Job

/-- A part of a run that tells the log what it does, until it ends or fails. -/
abbrev LoggedPart := ExceptT Failure (StateT (List LogEntry) Job)

instance : MonadLift Part LoggedPart where
  monadLift part := ExceptT.mk fun told => do return (← part.run, told)

/-- What comes of a run. -/
structure Outcome where
  code : UInt32
  /-- What the command shows. The log's lines are not in it. -/
  output : String
  errors : String
  /-- What the log was told, if it has started. -/
  log : Option Log
  deriving DecidableEq

/-- All that standard output shows, if the log has this writer. Commands show nothing before they
are done. -/
def Outcome.standardOutput (w : LogWriter) (env : Environment) (o : Outcome) : String :=
  match o.log with
  | some log => (if log.options.toStandardOutput then log.text w env else "") ++ o.output
  | none => o.output

/-! ## Parts -/

/-- Does a job; a failure tells what was being done and the causes. -/
def during {ε α : Type} (doing : String) (causes : ε → List String) (job : Job (Except ε α)) :
    Part α :=
  ExceptT.mk do return (← job).mapError fun e => .error doing (causes e)

/-- Goes on with a result; a failure tells what was being done and its cause. -/
def require {ε α : Type} (doing : String) (message : ε → String) (result : Except ε α) : Part α :=
  during doing (fun e => [message e]) (pure result)

/-- Does a job with a file. -/
def withFile {α : Type} (doing path : String) (job : String → Job (Except Files.Error α)) :
    Part α :=
  during (doing ++ " " ++ path) (fun e => [e.message]) (job path)

/-- Loads the settings from a path or from their usual place. -/
def loadSettings (env : Environment) : Option String → Part Settings
  | some path => during ("loading configuration from " ++ path) settingsCauses
    (Settings.load env path)
  | none => during "loading default configuration" settingsCauses (Settings.loadOrStandard env)

def startLog (log : LogOptions) (now : Nat) : Part Unit :=
  ExceptT.mk do return (← log.start (.ofTime now)).mapError .noLog

/-- A configuration in a format. -/
def Format.write (now : Nat) (c : Configuration) : Format → String
  | .table => c.table now
  | .json => linesText [c.toJson.pretty]

def tell (entries : List LogEntry) : LoggedPart Unit :=
  ExceptT.mk fun told => return (.ok (), told ++ entries)

/-- Shows the configuration in a buffer. -/
def decodeFile (now : Nat) (input : String) (format : Format) : LoggedPart String := do
  let buffer ← withFile "reading" input Files.readBytes
  tell (Configuration.decodeEntries buffer)
  let c ← require ("decoding " ++ input) Wire.Error.message (Configuration.decode buffer)
  tell [⟨none, .bufferDecoded buffer.length c.peers.length⟩]
  return format.write now c

/-- What is wrong with the text of a configuration, in words. -/
def textFault : ConfigurationTextError → String
  | .malformed => "invalid JSON"
  | .misfit cause => cause.message ContentError.message

/-- What encoding says at its end. -/
def encodeNotice (size peers : Nat) (output : String) : Json.Value :=
  .object [("status", .text "ok"),
    ("detail", .text (toString size ++ " bytes, " ++ toString peers ++ " peers written to "
      ++ output))]

/-- Makes a buffer from a configuration in JSON text. -/
def encodeFile (input output : String) : LoggedPart String := do
  let text ← withFile "reading" input Files.readText
  let c ← require ("parsing " ++ input) textFault (Configuration.ofText text)
  tell c.encodeEntries
  let buffer ← ExceptT.mk (pure (c.encode.mapError fun e => .error e.message []))
  withFile "writing" output (Files.writeBytes · buffer.bytes)
  return linesText [(encodeNotice buffer.size c.peers.length output).pretty]

/-- Does what a command asks for. -/
def Command.run (now : Nat) : Command → LoggedPart String
  | .decode input format => decodeFile now input format
  | .encode input output => encodeFile input output
  | .layout => return Wire.layoutTable

/-! ## Outcomes -/

def versionText : String := "tunconfctl 0.1.0\n"

/-- How the tool is called. -/
def usageText : String :=
  "Usage: tunconfctl [-l LEVEL] [--json-logs] [--config PATH] COMMAND\n"
    ++ "Commands:\n"
    ++ "  decode --input PATH [--output table|json]\n"
    ++ "  encode --input PATH --out PATH\n"
    ++ "  layout\n"

/-- The outcome of arguments that do not lead to a run. -/
def Stop.outcome : Stop → Outcome
  | usage => ⟨2, "", usageText, none⟩
  | help => ⟨0, usageText, "", none⟩
  | version => ⟨0, versionText, "", none⟩

/-- The outcome of a run that has told the log so much. -/
def Outcome.ofResult (log : Option Log) : Except Failure String → Outcome
  | .ok output => ⟨0, output, "", log⟩
  | .error f => ⟨f.code, "", f.report, log⟩

/-- The outcome with something before its errors. -/
def Outcome.withNotices (notices : List String) (o : Outcome) : Outcome :=
  { o with errors := linesText notices ++ o.errors }

/-- Loads the settings, starts the log and does what the command asks for. -/
def Invocation.run (env : Environment) (now : Nat) (i : Invocation) : Job Outcome := do
  match ← (loadSettings env i.general.settings).run with
  | .error f => return .ofResult none (.error f)
  | .ok settings =>
    let options := i.log settings
    match ← (startLog options now).run with
    | .error f => return (Outcome.ofResult none (.error f)).withNotices (LogFilter.notices env)
    | .ok () =>
      let (result, told) ← (i.command.run now).run.run []
      return (Outcome.ofResult (some ⟨options, told⟩) result).withNotices (LogFilter.notices env)

/-- Runs the tool, at a time in nanoseconds since 1970. -/
def run (env : Environment) (now : Nat) (arguments : List String) : Job Outcome :=
  match Invocation.ofArguments env arguments with
  | .error stop => return stop.outcome
  | .ok invocation => invocation.run env now

end TunnelConfig.Tool
