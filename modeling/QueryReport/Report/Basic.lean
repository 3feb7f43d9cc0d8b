import QueryReport.Column.Basic
import QueryReport.Filter.Parameter
import QueryReport.Sql.Count
import QueryReport.Sql.Dialect
import QueryReport.Sql.Tables

/-!
# Reports

A report is a `SELECT` with columns, filters, an order and paging.  It keeps the query as it was
given, the *baseline*, and a *working* copy with the filters that were applied last.  The runnable
query is the working copy, or the baseline if there is none, in the order that the report holds.

This module holds the data of a report and what can be read from it or worked out from it; the
operations that change a report in place are in `QueryReport.Report.Change`.
-/

namespace QueryReport

open Sql QueryReport.Filter

/-- A report.  Text, baseline, working copy and columns belong together: that they agree is kept by
the operations. -/
structure Report where
  caption : Option String := none
  limit : Option Nat := none
  offset : Option Nat := none
  settings : Document.Members := .nil
  columnMatch : ColumnMatch := .name
  /-- The SQL text of the baseline. -/
  sql : Option String := none
  baseline : Option Query := none
  working : Option Query := none
  /-- The columns in the order of the target list. -/
  columns : List Column := []
  order : Option (List OrderKey) := none
  definitions : List Definition := []
deriving DecidableEq

namespace Report

/-! ## What a report holds -/

def column? (r : Report) (name : String) : Option Column :=
  r.columns.find? fun c => c.name == name

/-- The columns in order of their numbers. -/
def orderedColumns (r : Report) : List Column :=
  r.columns.mergeSort fun a b => a.attributes.sequenceNo ≤ b.attributes.sequenceNo

def definition? (r : Report) (column : String) : Option Definition :=
  r.definitions.find? fun d => d.column == column

/-- The baseline, which has to be there. -/
def required (r : Report) : Except Error Query :=
  match r.baseline with
  | some q => .ok q
  | none => .error .sqlNotSet

/-- The names the query reads from. -/
def tables (r : Report) : Except Error (List String) := do
  let q ← r.required
  pure q.tableNames

/-! ## Adopting a query -/

/-- A fault in SQL text as an error of the report. -/
def liftFault {α : Type} : Except Fault α → Except Error α
  | .ok a => .ok a
  | .error f => .error (.sql f)

/-- The column among `previous` whose attributes a new column takes over.  When structure counts, a
column of the same structure comes before one that only has the name, and among the former one
with the name comes first. -/
def inherited (mode : ColumnMatch) (previous : List Column) (c : Column) : Option Column :=
  let byName := previous.find? fun p => p.name == c.name
  match mode, c.fingerprint with
  | .fingerprint, some fp =>
    let alike := previous.filter fun p => p.fingerprint == some fp
    -- Structure counts before the name, and the name decides among columns of one structure.
    ((alike.find? fun p => p.name == c.name).or alike.head?).or byName
  | _, _ => byName

/-- The columns of targets that are numbered from `number` on; `found` are those before them. -/
def buildColumns (mode : ColumnMatch) (previous : List Column) :
    Nat → List Column → List SelectItem → Except Error (List Column)
  | _, _, [] => .ok []
  | number, found, item :: items => do
    let c ← Column.make number item
    -- Only targets before this one are compared, so the later of two equal names is at fault.
    if found.any fun f => f.name == c.name then .error (.duplicateName c.name)
    else
      let c := c.inherit (inherited mode previous c)
      let rest ← buildColumns mode previous (number + 1) (found ++ [c]) items
      pure (c :: rest)

/-- The columns of a query that take over the attributes of the report's columns. -/
def columnsOf (r : Report) (q : Query) : Except Error (List Column) :=
  buildColumns r.columnMatch r.columns 1 [] q.targets

/-- The one `SELECT` that a text consists of. -/
def selectOf (text : String) : Except Error Query := do
  match ← liftFault (parse text) with
  | [.query q] => if q.select?.isSome then pure q else throw .notASelect
  | [_] => throw .notASelect
  | _ => throw .manyStatements

/-- The count that a clause states, if the clause is there. -/
def statedCount (clause : String) : MaybeExpr → Except Error (Option Nat)
  | .none => .ok none
  | .some e =>
    match e.count? with
    | some n => .ok (some n)
    | none => .error (.notACount clause e.text)

/-- The sort keys of a query, if it has any. -/
def statedOrder (q : Query) : Option (List OrderKey) :=
  if q.order = .nil then none else some q.order.toList

/-! ## Columns -/

/-- The columns with the given names. -/
def namedColumns (r : Report) (names : List String) : Except Error (List Column) :=
  names.mapM fun name =>
    match r.column? name with
    | some c => .ok c
    | none => .error (.unknownColumn name)

/-- A query without a column: its target, and the sort and grouping keys that refer to it. -/
def withoutColumn (q : Query) (c : Column) : Query :=
  let q := q.withoutTarget c.source
  match c.path with
  | some path => (q.withoutSortKey path).withoutGroupKey path
  | none => q

/-- Sort keys without those that refer to a column. -/
def orderWithout (keys : List OrderKey) (c : Column) : List OrderKey :=
  match c.path with
  | some path => keys.filter fun k => !k.expr.refersTo path
  | none => keys

/-- The array of several columns under a name, as a target. -/
def arrayTarget (name : String) (columns : List Column) : Except Error SelectItem :=
  let elements := ", ".intercalate (columns.map fun c => c.source.expr.text)
  liftFault (liftTarget ("ARRAY[" ++ elements ++ "] AS " ++ name))

/-- A query with a target in front in place of several columns. -/
def withArray (q : Query) (target : SelectItem) (columns : List Column) : Query :=
  (columns.foldl (fun q c => q.withoutTarget c.source) q).withLeadingTarget target

/-! ## Filters -/

/-- The filter of a query and predicates after it as one text.  A filter whose top is an `OR` is
put in parentheses. -/
def mergedFilter (existing : Option Expr) (predicates : String) : String :=
  match existing with
  | none => predicates
  -- `AND` binds more tightly than `OR` and would take the right side of it.
  | some (.binary left .or right) =>
    "(" ++ (Expr.binary left .or right).text ++ ") AND " ++ predicates
  | some e => e.text ++ " AND " ++ predicates

/-- A query with predicates added to its filter. -/
def filtered (q : Query) (params : List Parameter) : Except Error Query :=
  if params.isEmpty then .ok q
  else do
    let predicates := " AND ".intercalate (params.map Parameter.sql)
    let filter ← liftFault (liftFilter (mergedFilter q.filter? predicates))
    pure (q.withFilter filter)

/-- The query that parameters are added to.  Without parameters the filter applied last is kept. -/
def filterBase (r : Report) (params : List Parameter) : Except Error Query :=
  match r.working with
  | some working => if params.isEmpty then .ok working else r.required
  | none => r.required

/-! ## Order and output -/

/-- The sort keys that a text stands for; blank text is no order. -/
def readOrder (text : Option String) : Except Error (Option (List OrderKey)) :=
  match text.map Text.trim with
  | none | some "" => .ok none
  | some text => some <$> liftFault (liftOrder text)

/-- The query to run. -/
def runnable (r : Report) : Except Error Query := do
  let baseline ← r.required
  pure ((r.working.getD baseline).withOrder r.order)

/-- The query to run as SQL. -/
def runnableSql (r : Report) : Except Error String := do
  let q ← r.runnable
  pure q.text

/-- The query to run as SQL of a dialect. -/
def delimitedSql (r : Report) (d : Dialect) : Except Error String := do
  let q ← r.runnable
  d.delimit q.text (q.offset ≠ .none)

/-- The query that counts the rows of the query to run. -/
def countSql (r : Report) : Except Error String := do
  let q ← r.runnable
  let counted ← liftFault q.countRows
  pure counted.text

end Report

end QueryReport
