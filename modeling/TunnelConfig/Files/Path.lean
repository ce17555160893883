/-!
# Paths

A path is a row of names with slashes between them. Several slashes in a row are as good as one.
-/

namespace TunnelConfig.Files.Path

/-- The names of a path. -/
def names (path : String) : List String := (path.splitOn "/").filter (! ·.isEmpty)

/-- A name after a directory. -/
def join (directory name : String) : String :=
  if directory.endsWith "/" then directory ++ name else directory ++ "/" ++ name

end TunnelConfig.Files.Path
