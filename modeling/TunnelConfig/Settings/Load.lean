import TunnelConfig.Files.Account
import TunnelConfig.Files.Path
import TunnelConfig.Settings.Overlay
import TunnelConfig.Settings.Toml

/-!
# Loading and saving settings

Settings from a file have to make sense by themselves, and once more with those of the environment.
Only where no file is expected by name may it be missing; then the usual settings are the start.
-/

namespace TunnelConfig.Settings

open Files (Job)
open Files.Path (join)

/-- The settings in a document, with those of an environment. -/
def ofDocument (env : Environment) (text : String) : Except SettingsError Settings := do
  match ofToml? text with
  | none => throw .malformed
  | some s =>
    s.validate
    let s := s.inEnvironment env
    s.validate
    return s

/-- Loads the settings from a file. -/
def load (env : Environment) (path : String) : Job (Except SettingsError Settings) := do
  if ← Files.exists? path then
    match ← Files.readText path with
    | .ok text => return ofDocument env text
    | .error e => return .error (.file e)
  else
    return .error (.notFound path)

/-- The usual settings, with those of an environment. -/
def standardIn (env : Environment) : Except SettingsError Settings := do
  let s := Settings.standard.inEnvironment env
  s.validate
  return s

/-- The home directory of the user, which the environment may set in place of the account. -/
def home? (env : Environment) : Job (Option String) :=
  match (env "HOME").filter (! ·.isEmpty) with
  | some home => return some home
  | none => Files.Account.home?

/-- The directory for settings of all programs, if there is one. -/
def directory? (env : Environment) : Job (Option String) :=
  match (env "XDG_CONFIG_HOME").filter (·.startsWith "/") with
  | some directory => return some directory
  | none => return (← home? env).map (join · ".config")

/-- Where the settings are unless another path is given. -/
def defaultPath (env : Environment) : Job String := do
  match ← directory? env with
  | some directory => return join (join directory "tunconf") "config.toml"
  | none => return "config.toml"

/-- Loads the settings from their usual place, if there are any. -/
def loadOrStandard (env : Environment) : Job (Except SettingsError Settings) := do
  match ← load env (← defaultPath env) with
  | .error (.notFound _) => return standardIn env
  | result => return result

/-- Saves the settings to a file. -/
def save (s : Settings) (path : String) : Job (Except SettingsError Unit) := do
  match s.toToml? with
  | none => return .error .unsavable
  | some text => return (← Files.writeText path text).mapError .file

end TunnelConfig.Settings
