import TunnelConfig.Bytes.Word

/-!
# Jobs with files

A job asks for one file operation after another and goes on with what comes of each. What serves
the operations, a real file system or a value in memory, is not part of the job.
-/

namespace TunnelConfig.Files

/-- Why a file operation fails. -/
inductive Error where
  | noSuchFile
  | permissionDenied
  | notADirectory
  | isADirectory
  | fileExists
  | nameTooLong
  /-- A path has a byte that is zero. -/
  | zeroByte
  /-- The bytes of the file are no text. -/
  | notText
  /-- Another reason of the system. -/
  | other (text : String)
  deriving DecidableEq

def Error.message : Error → String
  | noSuchFile => "No such file or directory (os error 2)"
  | permissionDenied => "Permission denied (os error 13)"
  | notADirectory => "Not a directory (os error 20)"
  | isADirectory => "Is a directory (os error 21)"
  | fileExists => "File exists (os error 17)"
  | nameTooLong => "File name too long (os error 36)"
  | zeroByte => "file name contained an unexpected NUL byte"
  | notText => "stream did not contain valid UTF-8"
  | other text => text

/-- A job that ends with an `α`. -/
inductive Job (α : Type) where
  | done (result : α)
  /-- Asks whether there is anything under a path. -/
  | look (path : String) (next : Bool → Job α)
  /-- Asks for the bytes of a file. -/
  | read (path : String) (next : Except Error Bytes → Job α)
  /-- Asks to write a file, in place of what it holds. -/
  | write (path : String) (bytes : Bytes) (next : Except Error Unit → Job α)
  /-- Asks for an empty file, unless there is a file, which stays as it is. -/
  | create (path : String) (next : Except Error Unit → Job α)
  /-- Asks for a directory, and for all that lead to it, unless they are there. -/
  | makeDirectories (path : String) (next : Except Error Unit → Job α)

namespace Job

variable {α β : Type}

def bind (t : Job α) (f : α → Job β) : Job β :=
  match t with
  | done a => f a
  | look path next => look path fun found => (next found).bind f
  | read path next => read path fun result => (next result).bind f
  | write path bytes next => write path bytes fun result => (next result).bind f
  | create path next => create path fun result => (next result).bind f
  | makeDirectories path next => makeDirectories path fun result => (next result).bind f

instance : Monad Job where
  pure := done
  bind := bind

end Job

/-- The text that the bytes of a file are. -/
def textOf (bytes : Bytes) : Except Error String :=
  match String.fromUTF8? ⟨bytes.toArray⟩ with
  | some s => .ok s
  | none => .error .notText

/-- Whether there is anything under a path. -/
def exists? (path : String) : Job Bool := .look path .done

def readBytes (path : String) : Job (Except Error Bytes) := .read path .done

def readText (path : String) : Job (Except Error String) := .read path fun result =>
  .done (result.bind textOf)

def writeBytes (path : String) (bytes : Bytes) : Job (Except Error Unit) :=
  .write path bytes .done

/-- Makes an empty file, unless there is a file. -/
def create (path : String) : Job (Except Error Unit) := .create path .done

/-- Makes a directory and all that lead to it, unless they are there. -/
def makeDirectories (path : String) : Job (Except Error Unit) := .makeDirectories path .done

def writeText (path text : String) : Job (Except Error Unit) :=
  writeBytes path text.toUTF8.toList

end TunnelConfig.Files
