import QueryReport.Error
import QueryReport.Storage.Location

/-!
# A folder of files

Files by the names on the way to them.  A directory is there because a file is in it; the top is
always there.
-/

namespace QueryReport.Storage

/-- Files with their texts. -/
structure Folder where
  /-- The way to each file from the top, and its text. -/
  files : List (List String × String)
  /-- The way to the directory that relative paths count from. -/
  here : List String := []
deriving DecidableEq, Repr

namespace Folder

def text? (f : Folder) (way : List String) : Option String := f.files.lookup way

/-- Whether there is a directory at the end of a way. -/
def hasDirectory (f : Folder) (way : List String) : Bool :=
  way.isPrefixOf f.here
    || f.files.any fun (file, _) => way.isPrefixOf file && way.length < file.length

/-- The way after one more name. -/
def step (way : List String) (name : String) : List String :=
  if name = "." then way else if name = ".." then way.dropLast else way ++ [name]

/-- How many bytes a name may have. -/
def longestName : Nat := 255

/-- How many bytes a path may have. -/
def longestPath : Nat := 4095

/-- The way that names lead, starting from a directory.  Each has to be looked up in a directory. -/
def follow (f : Folder) (way : List String) : List String → Except AccessFault (List String)
  | [] => .ok way
  | name :: rest =>
    if f.hasDirectory way then
      if longestName < name.utf8ByteSize then .error .nameTooLong
      else f.follow (step way name) rest
    else if (f.text? way).isSome then .error .notDirectory
    else .error .missing

/-- The way from the top to what a path names. -/
def locate (f : Folder) (path : String) : Except AccessFault (List String) :=
  if path.toList.contains '\x00' then .error .badName
  else if path.isEmpty then .error .missing
  else if longestPath < path.utf8ByteSize then .error .nameTooLong
  else f.follow (if isAbsolute path then [] else f.here) (names path)

/-- The text of a file. -/
def read (f : Folder) (path : String) : Except AccessFault String := do
  let way ← f.locate path
  if f.hasDirectory way then .error .directory
  else match f.text? way with
    | some text => if path.endsWith "/" then .error .notDirectory else .ok text
    | none => .error .missing

/-- The folder with a text put into a file, which is made if it is not there. -/
def write (f : Folder) (path text : String) : Except AccessFault Folder := do
  let way ← f.locate path
  if f.hasDirectory way || path.endsWith "/" then .error .directory
  else .ok { f with files := (way, text) :: f.files.filter (·.1 ≠ way) }

end Folder

end QueryReport.Storage
