import QueryReport.Command.Listing
import QueryReport.Command.Render
import QueryReport.Settings.Lookup
import QueryReport.Storage.ReportFile

/-!
# Running commands

What a command does on a host, and what it tells the person who gave it.
-/

namespace QueryReport

open Storage

/-- What comes of running a command: a line of output ends each text. -/
structure Outcome where
  code : Nat
  output : List String := []
  errors : List String := []
deriving DecidableEq, Repr

namespace Outcome

/-- A success that tells lines. -/
def told (output : List String) : Outcome := { code := 0, output }

/-- A failure with its context. -/
def failed (context message : String) : Outcome :=
  { code := 1, errors := [context ++ ": " ++ message] }

/-- The outcome when arguments ask for nothing. -/
def misused : Outcome := { code := 2 }

/-- The result of a computation as an outcome. -/
def ofExcept (context : String) (r : Except Error (List String)) : Outcome :=
  match r with
  | .ok output => told output
  | .error e => failed context e.message

end Outcome

namespace Command

variable {m : Type → Type} [Monad m]

/-- The report in a file, matched as the settings say, or what is wrong. -/
def loadReport (host : Host m) (env : String → Option String) (s : Settings) (file : String) :
    m (Except String Report) := do
  match s.reportPath env file with
  | .error e => return .error e.message
  | .ok path =>
    match ReportFile.checkPath path with
    | .error e => return .error e.message
    | .ok () =>
      let found ← host.read path
      let loaded : Except Error Report := do
        let saved ← (ReportFile.readAt path found).mapError .store
        Report.ofSaved saved
      match loaded with
      | .ok r => return .ok { r with columnMatch := s.columnMatch }
      | .error e => return .error s!"Error loading report '{path}': {e.message}"

/-- What a command tells about the report in a file. -/
def withReport (host : Host m) (env : String → Option String) (s : Settings) (file : String)
    (tell : Report → Except Error (List String)) : m Outcome := do
  match ← loadReport host env s file with
  | .ok r => return .ofExcept "Error" (tell r)
  | .error message => return .failed "Error" message

/-- Writes a report to a file. -/
def saveReport (host : Host m) (env : String → Option String) (s : Settings) (r : Report)
    (file : String) : m Outcome := do
  match s.reportPath env file with
  | .error e => return .failed "Invalid report path" e.message
  | .ok path =>
    match ReportFile.checkPath path with
    | .error e => return .failed "Invalid report path" e.message
    | .ok () =>
      match ← host.write path (ReportFile.write r.save) with
      | .error fault => return .failed "Error saving report" (StoreError.access path fault).message
      | .ok () => return .told [s!"Wrote {path} ({r.columns.length} columns)"]

/-- Makes a report file from a file with SQL. -/
def createReport (host : Host m) (env : String → Option String) (s : Settings)
    (source target : String) (caption : Option String) : m Outcome := do
  match ← host.read source with
  | .error fault => return .failed s!"Error reading file '{source}'" fault.message
  | .ok text =>
    let r : Report := { caption, columnMatch := s.columnMatch }
    match r.setSql (Text.trim text) with
    | .error e => return .failed "Invalid report SQL" e.message
    | .ok r => saveReport host env s r target

/-- Runs a command under settings. -/
def runWith (host : Host m) (env : String → Option String) (s : Settings) : Command → m Outcome
  | create source target caption => createReport host env s source target caption
  | columns file => withReport host env s file fun r => .ok r.listing
  | tables file => withReport host env s file Report.tables
  | render file options => withReport host env s file fun r => do
    let sql ← r.render s options
    pure [sql]

/-- Runs a command under the settings of the host. -/
def run (host : Host m) (command : Command) : m Outcome := do
  match ← Settings.lookup host with
  | .error e => return .failed "Error loading settings" e.message
  | .ok s =>
    let env ← host.values s.variableNames
    command.runWith host env s

end Command

/-- What comes of the arguments that the program is given. -/
def respond {m : Type → Type} [Monad m] (host : Host m) (arguments : List String) : m Outcome := do
  match Request.read arguments with
  | some (.run command) => command.run host
  | some (.help usage) => return .told usage.help
  | some .overview => return .told Usage.overview
  | some .version => return .told [Usage.version]
  | none => return .misused

end QueryReport
