import TunnelConfig.Date
import TunnelConfig.Files.Path
import TunnelConfig.Settings.Basic

/-!
# Log files

A log that goes to a file has one for each day, in a directory of its own. The file is opened when
the log starts, whether anything is logged or not, and what it holds stays. The directory is made,
with all that lead to it, where the file cannot be opened without it.
-/

namespace TunnelConfig

open Files (Job)

/-- Why a log has no file. -/
inductive LogFileError where
  | noDirectory (cause : Files.Error)
  | noFile (cause : Files.Error)
  deriving DecidableEq

def LogFileError.message : LogFileError → String
  | noDirectory cause => "failed to create log directory: " ++ cause.message
  | noFile cause => "failed to create initial log file: " ++ cause.message

namespace LogOptions

/-- The path of the log's file on a day. -/
def filePath (o : LogOptions) (today : Date) : String :=
  Files.Path.join o.directory (o.fileName ++ "." ++ today.text)

def openFile (o : LogOptions) (today : Date) : Job (Except LogFileError Unit) := do
  match ← Files.create (o.filePath today) with
  | .ok () => return .ok ()
  | .error _ =>
    match ← Files.makeDirectories o.directory with
    | .error e => return .error (.noDirectory e)
    | .ok () => return (← Files.create (o.filePath today)).mapError .noFile

def start (o : LogOptions) (today : Date) : Job (Except LogFileError Unit) :=
  if o.toFile then o.openFile today else return .ok ()

end LogOptions

end TunnelConfig
