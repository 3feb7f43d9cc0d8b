import QueryReport.Document.Decode
import QueryReport.Document.Toml.Reader
import QueryReport.Error
import QueryReport.Saved.Form
import QueryReport.Settings.Variables
import QueryReport.Sql.Dialect
import QueryReport.Storage.Location

/-!
# Settings

What a person may set for all reports: the dialect of output, the row limit for reports without
one, how columns are matched, and where report files are kept.

* `Settings.read` reads settings from the text of a settings file.
* `Settings.reportPath` says where a report file is.
-/

namespace QueryReport

open Document

/-- Settings for all reports. -/
structure Settings where
  dialect : Sql.Dialect := .postgres
  defaultLimit : Option Nat := none
  columnMatch : ColumnMatch := .name
  /-- The directory that relative paths of reports count from; it may hold variables. -/
  reportDirectory : Option String := none
deriving DecidableEq, Repr, Inhabited

/-- What can be wrong with settings. -/
inductive SettingsError where
  | notFound (path : String)
  | unreadable (fault : AccessFault)
  | notSettings (reason : String)
  | missingVariable (name : String)
  | zeroLimit
deriving DecidableEq, Repr

def SettingsError.message : SettingsError → String
  | .notFound path => "Config file not found: " ++ path
  | .unreadable fault => "Failed to read config file: " ++ fault.message
  | .notSettings reason => "Failed to parse config file: " ++ reason
  | .missingVariable name => "Missing environment variable: " ++ name
  | .zeroLimit => "Invalid configuration: report.default_limit must be greater than zero"

namespace Settings

/-! ## Reading -/

/-- A name may be the only key of a table with nothing in it. -/
def rules : Rules where
  keyed := some fun n =>
    (n.items?.map List.isEmpty).getD false || (n.members?.map List.isEmpty).getD false
  positional := .loose
  depth := 0

/-- The settings that a document states.  What it leaves out has its default. -/
def decode (n : Node) : Except DecodeFault Settings := do
  let r ← n.record rules ["render", "report", "persist"]
  let dialect ← r.optional "render" .postgres fun n => do
    let render ← n.record rules ["dialect"]
    render.optional "dialect" .postgres (decodeName rules Sql.Dialect.name Sql.Dialect.all)
  let (defaultLimit, columnMatch) ← r.optional "report" (none, .name) fun n => do
    let report ← n.record rules ["default_limit", "column_match"]
    let limit ← report.optional "default_limit" none fun n => some <$> decodeNat 64 n
    let columnMatch ← report.optional "column_match" .name
      (decodeName rules ColumnMatch.label ColumnMatch.all)
    pure (limit, columnMatch)
  let reportDirectory ← r.optional "persist" none fun n => do
    let persist ← n.record rules ["report_dir"]
    persist.optional "report_dir" none fun n => some <$> decodeText n
  pure { dialect, defaultLimit, columnMatch, reportDirectory }

/-- A limit of no rows makes no sense. -/
def check (s : Settings) : Except SettingsError Settings :=
  if s.defaultLimit = some 0 then .error .zeroLimit else .ok s

/-- The settings of a text. -/
def read (text : String) : Except SettingsError Settings :=
  match Toml.read? text with
  | none => .error (.notSettings "not a table")
  | some n =>
    match decode n with
    | .ok s => s.check
    | .error fault => .error (.notSettings fault.message)

/-- The settings of a file whose text or fault is given. -/
def readAt (path : String) : Except AccessFault String → Except SettingsError Settings
  | .ok text => read text
  | .error .missing | .error .notDirectory | .error .nameTooLong | .error .badName =>
    .error (.notFound path)
  | .error fault => .error (.unreadable fault)

/-! ## Paths -/

/-- The names of the variables that paths of report files depend on. -/
def variableNames (s : Settings) : List String :=
  match s.reportDirectory with
  | some directory => Variables.names directory
  | none => []

/-- The path of a report file.  A relative one is looked for in the directory of reports, if there
is one. -/
def reportPath (s : Settings) (env : String → Option String) (path : String) :
    Except SettingsError String :=
  match s.reportDirectory with
  | none => .ok path
  | some directory =>
    if Storage.isAbsolute path then .ok path
    else do
      let directory ← (Variables.expand env directory).mapError .missingVariable
      pure (Storage.join directory path)

end Settings

end QueryReport
