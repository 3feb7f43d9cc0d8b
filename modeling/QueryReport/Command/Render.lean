import QueryReport.Command.Arguments
import QueryReport.Report.Change
import QueryReport.Settings.Basic

/-!
# Rendering a report

The SQL of a report with the paging, order and filters that a command asks for.

* `Report.readParam` reads a filter of the form `column:operator:values`.
* `Report.render` gives the SQL.
-/

namespace QueryReport.Report

open QueryReport.Filter

/-- A filter of the form `column:operator` or `column:operator:value,value`.  A definition of the
column says how the values are compared. -/
def readParam (r : Report) (spec : String) : Except Error Parameter := do
  match (Text.splitOn ':' spec.toList).map String.ofList with
  | column :: operator :: rest =>
    let values := (commaParts (":".intercalate rest)).map Value.text
    let condition ← Condition.make operator values .string
    match r.definition? column with
    | some d => Parameter.ofDefinition d condition
    | none => pure { column, condition }
  | _ => throw (.malformedParameter spec)

/-- The report with the paging that options ask for.  The default limit counts only if neither the
options nor the report have one. -/
def paged (r : Report) (s : Settings) (o : RenderOptions) : Report :=
  { r with
    limit := (o.limit.or r.limit).or s.defaultLimit
    offset := o.offset.or r.offset }

/-- The SQL of the report, or of its row count, as options ask for it. -/
def render (r : Report) (s : Settings) (o : RenderOptions) : Except Error String := do
  let r := r.paged s o
  let r ← match o.order with
    | some text => r.setOrder (some text)
    | none => pure r
  let params ← o.params.mapM r.readParam
  let r ← if o.replaceFilter then r.replaceFilter params else r.applyParams params
  if o.count then r.countSql else r.delimitedSql (o.dialect.getD s.dialect)

end QueryReport.Report
