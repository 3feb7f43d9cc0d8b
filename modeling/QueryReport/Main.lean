import QueryReport.Command.Run

/-!
# The program

Runs a command on the system: its variables and its files.
-/

namespace QueryReport.Main

open Storage

/-- Why the system refused a file. -/
def faultOf : IO.Error → AccessFault
  | .inappropriateType _ code _ => if code = 20 then .notDirectory else .directory
  | .permissionDenied _ _ _ => .denied
  | .invalidArgument _ code _ => if code = 36 then .nameTooLong else .badName
  | _ => .missing

/-- The text of a file. -/
def readText (path : String) : IO (Except AccessFault String) := do
  try
    let bytes ← IO.FS.readBinFile path
    match String.fromUTF8? bytes with
    | some text => return .ok text
    | none => return .error .badText
  catch e => return .error (faultOf e)

/-- Puts a text into a file. -/
def writeText (path text : String) : IO (Except AccessFault Unit) := do
  try
    IO.FS.writeFile path text
    return .ok ()
  catch e => return .error (faultOf e)

/-- The system as a host. -/
def host : Host IO where
  env name := IO.getEnv name
  read := readText
  write := writeText

end QueryReport.Main

/-- Does what the arguments ask for, and gives the exit code. -/
def main (arguments : List String) : IO UInt32 := do
  let outcome ← QueryReport.respond QueryReport.Main.host arguments
  outcome.output.forM fun line => IO.println line
  outcome.errors.forM fun line => IO.eprintln line
  return outcome.code.toUInt32
