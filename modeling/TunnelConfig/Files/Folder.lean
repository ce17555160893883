import TunnelConfig.Files.Job
import TunnelConfig.Files.Path

/-!
# Folders in memory

A tree of files as a value. A path starts at the root if a slash stands in front and otherwise at
the current directory. Every name but the last has to lead to a directory, and the last, too, if a
slash follows it. A name has at most 255 bytes and a path at most 4095.
-/

namespace TunnelConfig.Files

/-- A tree of files. -/
structure Folder where
  /-- The files by the names that lead to them from the root. -/
  files : List (List String × Bytes)
  /-- The directories that need not hold a file. -/
  directories : List (List String)
  /-- The current directory. -/
  current : List String
  deriving DecidableEq

/-- What is under a path. -/
inductive Kind where
  | file (bytes : Bytes)
  | directory
  deriving DecidableEq

namespace Folder

/-- What is where the names lead to from the root. -/
def kind? (f : Folder) (names : List String) : Option Kind :=
  match f.files.find? (·.1 == names) with
  | some (_, bytes) => some (.file bytes)
  | none =>
    if names.isEmpty || f.directories.any names.isPrefixOf
        || f.files.any (fun file => names.isPrefixOf file.1) then
      some .directory
    else none

/-- Follows names from a place. -/
def follow (f : Folder) (place : List String) : List String → Except Error (List String)
  | [] => .ok place
  | name :: rest =>
    match f.kind? place with
    | none => .error .noSuchFile
    | some (.file _) => .error .notADirectory
    | some .directory =>
      if 255 < name.utf8ByteSize then .error .nameTooLong
      else if name = "." then follow f place rest
      else if name = ".." then follow f place.dropLast rest
      else follow f (place ++ [name]) rest

/-- Where a path starts. -/
def origin (f : Folder) (path : String) : List String :=
  if path.startsWith "/" then [] else f.current

/-- A path has at least one byte and at most 4095, none of which is zero. -/
def checkPath (path : String) : Except Error Unit :=
  if path.contains '\x00' then .error .zeroByte
  else if path.isEmpty then .error .noSuchFile
  else if 4095 < path.utf8ByteSize then .error .nameTooLong
  else .ok ()

def kind (f : Folder) (path : String) : Except Error Kind := do
  checkPath path
  let place ← f.follow (f.origin path)
    (Path.names path ++ if path.endsWith "/" then ["."] else [])
  match f.kind? place with
  | some kind => return kind
  | none => throw .noSuchFile

def read (f : Folder) (path : String) : Except Error Bytes := do
  match ← f.kind path with
  | .file bytes => return bytes
  | .directory => throw .isADirectory

/-- Puts a file where the names lead to. -/
def putFile (f : Folder) (place : List String) (bytes : Bytes) : Folder :=
  { f with files := (place, bytes) :: f.files.filter (·.1 != place) }

/-- Where a file under a path is or would be. A path that can only lead to a directory is refused as
one before its last name is looked at. -/
def filePlace (f : Folder) (path : String) : Except Error (List String) := do
  checkPath path
  match (Path.names path).getLast? with
  | none => throw .isADirectory
  | some last =>
    let place ← f.follow (f.origin path) (Path.names path).dropLast
    match f.kind? place with
    | none => throw .noSuchFile
    | some (.file _) => throw .notADirectory
    | some .directory =>
      if path.endsWith "/" || last == "." || last == ".." then throw .isADirectory
      if 255 < last.utf8ByteSize then throw .nameTooLong
      let target := place ++ [last]
      if f.kind? target == some .directory then throw .isADirectory
      return target

def write (f : Folder) (path : String) (bytes : Bytes) : Except Error Folder := do
  return f.putFile (← f.filePlace path) bytes

/-- Makes an empty file, unless there is a file. -/
def create (f : Folder) (path : String) : Except Error Folder := do
  let place ← f.filePlace path
  return if (f.kind? place).isSome then f else f.putFile place []

/-- Follows names from a directory and makes the directories that are missing. Those made before a
failure stay. -/
def makeAlong (f : Folder) (place : List String) : List String → Except Error Unit × Folder
  | [] => (.ok (), f)
  | name :: rest =>
    if 255 < name.utf8ByteSize then (.error .nameTooLong, f)
    else if name = "." then makeAlong f place rest
    else if name = ".." then makeAlong f place.dropLast rest
    else
      let place := place ++ [name]
      match f.kind? place with
      | some .directory => makeAlong f place rest
      | some (.file _) => (.error (if rest.isEmpty then .fileExists else .notADirectory), f)
      | none => makeAlong { f with directories := place :: f.directories } place rest

/-- Makes a directory and all that lead to it, unless they are there. -/
def makeDirectories (f : Folder) (path : String) : Except Error Unit × Folder :=
  match checkPath path with
  | .ok () => f.makeAlong (f.origin path) (Path.names path)
  | .error e => (.error e, f)

/-- Removes whatever is where the names lead to. -/
def remove (f : Folder) (place : List String) : Folder :=
  { f with
    files := f.files.filter fun file => !place.isPrefixOf file.1
    directories := f.directories.filter fun d => !place.isPrefixOf d }

end Folder

/-- What comes of a change that may fail, and the folder after it. -/
def Folder.changed (f : Folder) : Except Error Folder → Except Error Unit × Folder
  | .ok g => (.ok (), g)
  | .error e => (.error e, f)

def Job.run {α : Type} : Job α → Folder → α × Folder
  | .done a, f => (a, f)
  | .look path next, f => (next (f.kind path).toBool).run f
  | .read path next, f => (next (f.read path)).run f
  | .write path bytes next, f =>
    let (result, f) := f.changed (f.write path bytes)
    (next result).run f
  | .create path next, f =>
    let (result, f) := f.changed (f.create path)
    (next result).run f
  | .makeDirectories path next, f =>
    let (result, f) := f.makeDirectories path
    (next result).run f

end TunnelConfig.Files
