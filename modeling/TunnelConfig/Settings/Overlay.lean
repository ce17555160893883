import TunnelConfig.Settings.Basic
import TunnelConfig.Text.Number

/-!
# Settings from the environment

Every setting has a variable, and a variable that is set takes the place of the setting. A value
that cannot be read leaves the setting as it is; the log level is taken whatever it is, in lower
case and without blanks around it, and the log directory unless it is empty.
-/

namespace TunnelConfig

/-- The variables of an environment. -/
abbrev Environment := String → Option String

/-- What the name of every variable starts with. -/
def variableStart : String := "TUNCONF_"

/-- The ASCII letters of a text in lower case. -/
def lowerCase (s : String) : String := String.ofList (s.toList.map Char.toLower)

/-- The truth value that a word stands for, in any case of letters. -/
def readTruth (s : String) : Option Bool :=
  let word := lowerCase s
  if word ∈ ["true", "1", "yes", "y"] then some true
  else if word ∈ ["false", "0", "no", "n"] then some false
  else none

/-- The number of at most `greatest` in a text. -/
def readCount (greatest : Nat) (s : String) : Option Nat :=
  (Text.readUnsigned greatest s.toList).toOption

/-- A log level as it is taken from a variable. -/
def readLevel (s : String) : String := lowerCase (String.ofList (Text.trim s.toList))

/-- The settings with those that `find` yields for the names of the variables, which are given
without what they all start with. -/
def Settings.overlay (find : String → Option String) (s : Settings) : Settings :=
  let size (name : String) (current : UInt64) : UInt64 :=
    (((find name).bind (readCount 18446744073709551615)).map UInt64.ofNat).getD current
  let truth (name : String) (current : Bool) : Bool :=
    ((find name).bind readTruth).getD current
  { logLevel := ((find "LOG_LEVEL").map readLevel).getD s.logLevel
    limits := {
      initialSize := size "EXCHANGE_INITIAL_GET_SIZE" s.limits.initialSize
      maxAttempts := (((find "EXCHANGE_MAX_GET_ATTEMPTS").bind
        (readCount 4294967295)).map UInt32.ofNat).getD s.limits.maxAttempts
      maxSize := size "EXCHANGE_MAX_GET_SIZE" s.limits.maxSize }
    logging := {
      toFile := truth "LOGGING_LOG_TO_FILE" s.logging.toFile
      directory := ((find "LOGGING_LOG_DIR").filter (! ·.isEmpty)).getD s.logging.directory
      json := truth "LOGGING_JSON_FORMAT" s.logging.json } }

/-- The names of the variables, without what they all start with. -/
def Settings.variableNames : List String := [
  "LOG_LEVEL", "EXCHANGE_INITIAL_GET_SIZE", "EXCHANGE_MAX_GET_ATTEMPTS", "EXCHANGE_MAX_GET_SIZE",
  "LOGGING_LOG_TO_FILE", "LOGGING_LOG_DIR", "LOGGING_JSON_FORMAT"]

/-- The settings with those of an environment. -/
def Settings.inEnvironment (env : Environment) (s : Settings) : Settings :=
  s.overlay fun name => env (variableStart ++ name)

end TunnelConfig
