import Mathlib.Data.List.Perm.Basic
import QueryReport.Column.Basic
import QueryReport.Sql.Count

/-!
# `QueryReport.Proofs.Sql.Rows`: the rows of a query

What a query returns depends on a database, and on more SQL than the library knows of.
`Sql.Database` leaves to the database what the rows of a `FROM` list are, how an expression is
evaluated and how rows are grouped, compared and arranged.  How a `SELECT` goes from the rows it
reads to the rows it returns is the same in every database, and is defined here
(`Database.selected`): its rows are put into groups, the groups pass the `HAVING` or not, and the
targets are worked out once for each group.  A `SELECT` that does not group has a group for each
row, unless an aggregate or a `HAVING` makes one group of all rows.

`Database.Lawful` collects what SQL says about the parts that are left open, as far as counting rows
needs it.
-/

set_option autoImplicit false

namespace QueryReport.Sql

/-- A database in which queries are evaluated. -/
structure Database where
  /-- What a `SELECT` reads. -/
  Row : Type
  /-- What it returns in a column. -/
  Value : Type
  number : Nat → Value
  /-- The rows of a `FROM` list with lateral views that a filter leaves, below common tables. -/
  read : Bool → CommonTables → Sources → LateralViews → MaybeExpr → List Row
  /-- The groups of rows that agree in the keys of a `SELECT`, or in its targets. -/
  group : Select → List Row → List (List Row)
  /-- Whether a group passes a condition. -/
  passes : Expr → List Row → Bool
  /-- Whether an expression needs a whole group to be evaluated. -/
  aggregates : Expr → Bool
  /-- The rows that the targets are for one of the groups.  Windows look at the other groups. -/
  evaluate : Select → List (List Row) → List Row → List (List Value)
  /-- What becomes of the rows by `DISTINCT`, `QUALIFY`, `TOP`, `INTO` and local sorting.  Each row
  comes with its group, since these clauses look at more than the targets. -/
  narrow : Select → List (List Row × List Value) → List (List Row × List Value)
  /-- What becomes of the rows by order, paging, locks and a form of the whole result. -/
  arrange : Query → List (List Row × List Value) → List (List Row × List Value)
  /-- The rows of a query that is no `SELECT`. -/
  other : Query → List (List Value)

namespace Database

variable (D : Database)

/-- The groups of a `SELECT`. -/
def groups (s : Select) (rows : List D.Row) : List (List D.Row) :=
  if s.isGrouped then D.group s rows
  else if s.having ≠ .none ∨ s.targets.toList.any fun item => D.aggregates item.expr then [rows]
  else rows.map fun row => [row]

/-- The groups that the `HAVING` of a `SELECT` leaves. -/
def kept (s : Select) (groups : List (List D.Row)) : List (List D.Row) :=
  match s.having with
  | .none => groups
  | .some condition => groups.filter (D.passes condition)

/-- The rows that a `SELECT` makes of the rows it reads, each with its group. -/
def selected (s : Select) (rows : List D.Row) : List (List D.Row × List D.Value) :=
  let groups := D.kept s (D.groups s rows)
  D.narrow s (groups.flatMap fun group => (D.evaluate s groups group).map fun row => (group, row))

/-- The rows of a query. -/
def rows (q : Query) : List (List D.Value) :=
  match q.body with
  | .select s =>
    let rows := D.read q.recursive q.tables s.sources s.lateralViews s.filter
    (D.arrange q (D.selected s rows)).map Prod.snd
  | _ => D.other q

end Database

/-! ## Counting -/

/-- The target that counts rows. -/
def countTarget : SelectItem where
  expr := .call {
    name := [⟨"count", none⟩]
    braces := false
    args := .list none none (.cons .star .nil) .nil .none .unstated none
    withinGroup := .nil
    filter := .none
    nulls := none
    window := .none }
  label := none

/-- A `SELECT` that counts what it reads. -/
def Select.counting (s : Select) : Select := { s with targets := .ofList [countTarget] }

/-- The query that counts the rows of another as those of a table. -/
def countedFrom (q : Query) : Query where
  recursive := false
  tables := .nil
  body := .select {
    distinct := .unstated
    distinctOn := .nil
    top := .unstated
    topCount := .none
    targets := .ofList [countTarget]
    into := none
    sources := .cons (.derived false q (some ⟨⟨"counted_rows", none⟩, []⟩)) .nil .nil
    lateralViews := .nil
    filter := .none
    groupAll := false
    groupBy := .nil
    clusterBy := .nil
    distributeBy := .nil
    sortBy := .nil
    having := .none
    windows := .nil
    qualify := .none
    windowsFirst := false }
  order := .nil
  limit := .none
  offset := .none
  offsetWord := .unstated
  fetch := none
  locks := []
  form := none

/-- A `SELECT` that returns what its targets are. -/
structure Select.Bare (s : Select) : Prop where
  distinct : s.distinct = .unstated
  top : s.top = .unstated
  qualify : s.qualify = .none
  into : s.into = none

/-- A query that returns what its `SELECT` does. -/
structure Query.Bare (q : Query) : Prop where
  order : q.order = .nil
  limit : q.limit = .none
  offset : q.offset = .none
  fetch : q.fetch = none
  locks : q.locks = []
  form : q.form = none

/-- What SQL says of any database. -/
structure Database.Lawful (D : Database) : Prop where
  /-- The usual aggregates need a group, unless they range over a window. -/
  aggregates_call : ∀ (c : Call) (f : String), Column.functionName? (.call c) = some f →
    Text.lower f ∈ Column.aggregates → c.window = .none → D.aggregates (.call c) = true
  /-- Of a group the number of its rows is one row. -/
  evaluate_count : ∀ s groups group, s.targets.toList = [countTarget] →
    D.evaluate s groups group = [[D.number group.length]]
  /-- Without the clauses that drop rows or write them elsewhere they are all returned. -/
  narrow_bare : ∀ (s : Select) rows, s.Bare → (D.narrow s rows).Perm rows
  arrange_bare : ∀ (q : Query) rows, q.Bare → (D.arrange q rows).Perm rows
  /-- A query in a `FROM` list is read as a table of the rows it returns. -/
  read_derived : ∀ q label,
    (D.read false .nil (.cons (.derived false q label) .nil .nil) .nil .none).length
      = (D.rows q).length

end QueryReport.Sql
