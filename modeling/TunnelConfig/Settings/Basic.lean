import TunnelConfig.Driver.Limits
import TunnelConfig.Files.Job
import TunnelConfig.Text.Blank

/-!
# Settings

What a user of the library may set: how much is logged and where to, and the limits of reading a
configuration from a driver. Settings may hold anything; `validate` says whether they make sense.
-/

namespace TunnelConfig

/-! ## Log levels -/

/-- How much is logged. -/
inductive LogLevel where
  | trace
  | debug
  | info
  | warn
  | error
  deriving DecidableEq

namespace LogLevel

/-- All levels, the most talkative first. -/
def all : List LogLevel := [trace, debug, info, warn, error]

def name : LogLevel → String
  | trace => "trace"
  | debug => "debug"
  | info => "info"
  | warn => "warn"
  | error => "error"

def label : LogLevel → String
  | trace => "TRACE"
  | debug => "DEBUG"
  | info => "INFO"
  | warn => "WARN"
  | error => "ERROR"

def ofName? (s : String) : Option LogLevel := all.find? (·.name == s)

end LogLevel

/-! ## Settings -/

/-- Where logs go. -/
structure Logging where
  toFile : Bool
  directory : String
  json : Bool
  deriving DecidableEq

/-- The usual logging: no file. -/
def Logging.standard : Logging := ⟨false, "./logs", false⟩

structure Settings where
  /-- The name of a log level. -/
  logLevel : String
  limits : Driver.Limits
  logging : Logging
  deriving DecidableEq

/-- The usual settings. -/
def Settings.standard : Settings := ⟨"info", .standard, .standard⟩

/-- Why there are no settings. -/
inductive SettingsError where
  /-- The file cannot be read or written. -/
  | file (cause : Files.Error)
  /-- The file is no TOML document or does not fit. -/
  | malformed
  /-- A number is too large for a file. -/
  | unsavable
  /-- Something has to be set. -/
  | missing (what : String)
  /-- A value makes no sense. -/
  | invalid (key reason : String)
  | notFound (path : String)
  deriving DecidableEq

def SettingsError.message : SettingsError → String
  | file cause => "Failed to read config file: " ++ cause.message
  | malformed => "Failed to parse TOML config: invalid document"
  | unsavable => "Failed to serialize config to TOML: out-of-range value for u64 type"
  | missing what => "Missing required configuration value: " ++ what
  | invalid key reason => "Invalid configuration value for " ++ key ++ ": " ++ reason
  | notFound path => "Configuration file not found at " ++ path

/-! ## Validation -/

/-- The log levels that settings may name. -/
def Settings.levelNames : List String := ["trace", "debug", "info", "warn", "error"]

/-- Whether a text has nothing but blanks. -/
def isBlankText (s : String) : Bool := (Text.trim s.toList).isEmpty

/-- The first fault of settings. -/
def Settings.fault? (s : Settings) : Option SettingsError :=
  if s.logLevel ∉ Settings.levelNames then
    some (.invalid "log_level" ("must be one of " ++ String.intercalate ", " levelNames))
  else if s.limits.initialSize = 0 then
    some (.invalid "exchange.initial_get_size" "must be greater than 0")
  else if s.limits.maxSize < s.limits.initialSize then
    some (.invalid "exchange.initial_get_size"
      ("must not exceed exchange.max_get_size (" ++ toString s.limits.maxSize.toNat ++ ")"))
  else if s.limits.maxAttempts = 0 then
    some (.invalid "exchange.max_get_attempts" "must be at least 1")
  else if s.logging.toFile ∧ isBlankText s.logging.directory then
    some (.missing "logging.log_dir must be set when logging.log_to_file=true")
  else none

/-- Whether the settings make sense. -/
def Settings.validate (s : Settings) : Except SettingsError Unit :=
  match s.fault? with
  | some e => .error e
  | none => .ok ()

/-! ## Logging by settings -/

/-- How a log is set up. -/
structure LogOptions where
  level : LogLevel
  toStandardOutput : Bool
  toFile : Bool
  directory : String
  fileName : String
  json : Bool
  /-- Whether places in the program are named. -/
  places : Bool
  /-- Whether spans of time are marked. -/
  spans : Bool
  deriving DecidableEq

/-- The log that settings ask for. -/
def LogOptions.ofSettings (s : Settings) : LogOptions where
  level := (LogLevel.ofName? s.logLevel).getD .info
  toStandardOutput := true
  toFile := s.logging.toFile
  directory := s.logging.directory
  fileName := "tunconf"
  json := s.logging.json
  places := true
  spans := false

end TunnelConfig
