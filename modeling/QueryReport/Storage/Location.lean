import QueryReport.Text.Split

/-!
# Paths of files

A path is a text with slashes between its parts.  One that begins with a slash counts from the top,
any other from wherever it is used.
-/

namespace QueryReport.Storage

/-- Whether a path counts from the top. -/
def isAbsolute (path : String) : Bool := path.startsWith "/"

/-- A path as seen from a directory.  An absolute path stays what it is. -/
def join (directory path : String) : String :=
  if isAbsolute path || directory.isEmpty then path
  else if directory.endsWith "/" then directory ++ path
  else directory ++ "/" ++ path

/-- The names on the way of a path. -/
def names (path : String) : List String :=
  ((Text.splitOn '/' path.toList).filter fun name => !name.isEmpty).map String.ofList

end QueryReport.Storage
