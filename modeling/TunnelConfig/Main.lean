import Std.Time.DateTime.Timestamp
import TunnelConfig.Tool.Run

/-!
# The command line

Runs the tool with the files, the environment and the clock of the system.
-/

namespace TunnelConfig

/-- The reason that the system gives. -/
def systemReason : IO.Error → Files.Error
  | .noFileOrDirectory .. => .noSuchFile
  | .permissionDenied .. => .permissionDenied
  | .inappropriateType _ 21 _ => .isADirectory
  | .inappropriateType .. => .notADirectory
  | .alreadyExists .. => .fileExists
  | .resourceExhausted _ 36 _ => .nameTooLong
  | e => .other (toString e)

/-- What comes of a file operation of the system. -/
def outcomeOf {α : Type} (operation : IO α) : BaseIO (Except Files.Error α) := do
  return (← operation.toBaseIO).mapError systemReason

/-- Does a job with the files of the system. -/
def Files.Job.perform {α : Type} : Files.Job α → BaseIO α
  | .done result => return result
  | .look path next => do
    let found ← outcomeOf (IO.FS.realPath path)
    (next found.toBool).perform
  | .read path next => do
    let bytes ← outcomeOf (IO.FS.readBinFile path)
    (next (bytes.map ByteArray.toList)).perform
  | .write path bytes next => do
    let written ← outcomeOf (IO.FS.writeBinFile path ⟨bytes.toArray⟩)
    (next written).perform
  | .create path next => do
    let created ← outcomeOf do discard (IO.FS.Handle.mk path .append)
    (next created).perform
  | .makeDirectories path next => do
    let made ← outcomeOf (IO.FS.createDirAll path)
    (next made).perform

/-- The names of the variables that matter. -/
def variableNames : List String :=
  ["HOME", "XDG_CONFIG_HOME", LogFilter.variableName]
    ++ ("JSON_LOGS" :: Settings.variableNames).map (variableStart ++ ·)

/-- The environment of the process. -/
def readEnvironment : BaseIO Environment := do
  let found ← variableNames.mapM fun name => return (name, ← IO.getEnv name)
  return fun name => (found.find? (·.1 == name)).bind Prod.snd

/-- Puts the entries of a log into its file, if it has one. -/
def Log.save (env : Environment) (now : Nat) (log : Log) : IO Unit := do
  if log.options.toFile then
    let file ← IO.FS.Handle.mk (log.options.filePath (.ofTime now)) .append
    file.putStr (log.text .plain env)

end TunnelConfig

def main (arguments : List String) : IO UInt32 := do
  let environment ← TunnelConfig.readEnvironment
  let time ← Std.Time.Timestamp.now
  let now := time.toNanosecondsSinceUnixEpoch.val.toNat
  let outcome ← (TunnelConfig.Tool.run environment now arguments).perform
  IO.print (outcome.standardOutput .plain environment)
  outcome.log.forM (TunnelConfig.Log.save environment now)
  IO.eprint outcome.errors
  return outcome.code
