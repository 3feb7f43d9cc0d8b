import QueryReport.Storage.Folder

/-!
# Hosts

What a program asks of the system it runs on: the values of variables, and texts of files.  A
program over any host can be run on a real system, and also on a folder in memory.
-/

namespace QueryReport.Storage

/-- What a program can ask for. -/
structure Host (m : Type → Type) where
  env : String → m (Option String)
  read : String → m (Except AccessFault String)
  write : String → String → m (Except AccessFault Unit)

/-- The values of the variables with the given names. -/
def Host.values {m : Type → Type} [Monad m] (host : Host m) (names : List String) :
    m (String → Option String) := do
  let pairs ← names.mapM fun name => do return (name, ← host.env name)
  return fun name => (pairs.lookup name).join

/-- A folder as a host. -/
def Folder.host (env : String → Option String) : Host (StateM Folder) where
  env name := return env name
  read path := do return (← get).read path
  write path text := do
    match (← get).write path text with
    | .ok folder =>
      set folder
      return .ok ()
    | .error fault => return .error fault

end QueryReport.Storage
