import QueryReport.Report.Change

/-!
# Saving and restoring reports

The saved form of a report, and the report that a saved form stands for.
-/

namespace QueryReport

open QueryReport.Filter

namespace Report

/-- The saved form. -/
def save (r : Report) : Saved.Report where
  caption := r.caption
  sql := r.sql.getD ""
  limit := r.limit
  offset := r.offset
  settings := .object r.settings
  columnMatch := r.columnMatch
  columns := Saved.sortColumns (r.columns.map fun c => (c.name, c.attributes))
  definitions := r.definitions

/-- The settings of a saved form, which have to be a map. -/
def savedSettings (saved : Saved.Report) : Except Error Document.Members :=
  match saved.settings with
  | .object settings => .ok settings
  | _ => .error .settingsNotAMap

/-- Sets the saved attributes of columns by their names. -/
def restoreColumns (r : Report) : List (String × Attributes) → Except Error Report
  | [] => .ok r
  | (name, attributes) :: rest =>
    match r.column? name with
    | none => .error (.columnNotInSql name)
    | some _ => (r.mapColumn name fun c => c.withAttributes attributes).restoreColumns rest

/-- Adds saved definitions. -/
def restoreDefinitions (r : Report) : List Definition → Except Error Report
  | [] => .ok r
  | saved :: rest => do
    let d ← saved.restore
    let r ← r.addDefinition d
    r.restoreDefinitions rest

/-- A report with nothing but the query of a saved form.  Its columns take over the attributes of
the columns before; blank SQL is no query. -/
def restoredQuery (previous : List Column) (saved : Saved.Report) : Except Error Report :=
  if Text.isBlankText saved.sql then .ok { columnMatch := saved.columnMatch }
  else ({ columnMatch := saved.columnMatch, columns := previous } : Report).setSql saved.sql

/-- The report with the query, columns and definitions of a saved form. -/
def restored (previous : List Column) (saved : Saved.Report) : Except Error Report := do
  let next ← restoredQuery previous saved
  let next ← next.restoreColumns saved.columns
  next.restoreDefinitions saved.definitions

end Report

namespace Change

/-- Puts the report that a saved form stands for in place of the report. -/
def load (saved : Saved.Report) : Change Unit := do
  let settings ← Report.savedSettings saved
  let r ← get
  let next ← Report.restored r.columns saved
  set { next with
    settings
    caption := saved.caption
    limit := saved.limit
    offset := saved.offset }

end Change

namespace Report

/-- The report that a saved form stands for in place of a report. -/
def load (r : Report) (saved : Saved.Report) : Except Error Report := (Change.load saved).result r

/-- The report that a saved form stands for by itself. -/
def ofSaved (saved : Saved.Report) : Except Error Report := ({} : Report).load saved

end Report

end QueryReport
