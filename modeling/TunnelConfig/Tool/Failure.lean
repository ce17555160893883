import TunnelConfig.Settings.LogFile
import TunnelConfig.Text.Number

/-!
# Failures and their reports

A failure tells what went wrong, and the causes behind it, the nearest first. The report numbers the
causes if there is more than one. A log that cannot be started is no failure of a command: the run
breaks off at once, with a code of its own.
-/

namespace TunnelConfig.Tool

/-- Why a run failed. -/
inductive Failure where
  | error (message : String) (causes : List String)
  | noLog (cause : LogFileError)
  deriving DecidableEq

/-- The code that a run with a failure ends with. -/
def Failure.code : Failure → UInt32
  | error .. => 1
  | noLog _ => 101

/-- A text with something before its first line, and with every line after it set in. -/
def hang (first rest text : String) : String :=
  first ++ String.intercalate ("\n" ++ rest) (text.splitOn "\n")

/-- The causes in a report. -/
def causeLines : List String → List String
  | [cause] => [hang "    " "    " cause]
  | causes => causes.mapIdx fun i cause =>
    hang (String.ofList (Text.padLeft 5 ' ' (Text.decimal i)) ++ ": ") "       " cause

def Failure.lines : Failure → List String
  | error message [] => ["Error: " ++ message]
  | error message causes => ["Error: " ++ message, "", "Caused by:"] ++ causeLines causes
  | noLog cause => ["opening the log failed: " ++ cause.message]

def Failure.report (f : Failure) : String := String.join (f.lines.map (· ++ "\n"))

/-- A settings error and what it comes from. -/
def settingsCauses : SettingsError → List String
  | .file cause => [(SettingsError.file cause).message, cause.message]
  | e => [e.message]

end TunnelConfig.Tool
