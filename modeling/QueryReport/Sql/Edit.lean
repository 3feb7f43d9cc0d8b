import QueryReport.Sql.Shape
import QueryReport.Sql.Statement

/-!
# Editing queries

Clauses put into a query, taken out of it or replaced, and clauses lifted out of a text of their
own.  The clauses of a `SELECT` are edited only if the body of the query is one.
-/

namespace QueryReport.Sql

namespace Query

/-- The `SELECT` that is the body of a query. -/
def select? (q : Query) : Option Select :=
  match q.body with
  | .select s => some s
  | _ => none

/-- The query with its `SELECT` changed. -/
def mapSelect (f : Select → Select) (q : Query) : Query :=
  match q.body with
  | .select s => { q with body := .select (f s) }
  | _ => q

/-- The target list; empty if the body is no `SELECT`. -/
def targets (q : Query) : List SelectItem :=
  match q.select? with
  | some s => s.targets.toList
  | none => []

/-- The filter. -/
def filter? (q : Query) : Option Expr := q.select?.bind fun s => s.filter.toOption

/-! ## Clauses -/

/-- A count that is stated and not zero, as an expression. -/
def countClause : Option Nat → MaybeExpr
  | none => .none
  | some n => if n = 0 then .none else .some (.ofCount n)

/-- The query with a row limit; zero is no limit. -/
def withLimit (q : Query) (limit : Option Nat) : Query := { q with limit := countClause limit }

/-- The query with rows to skip; zero is none. -/
def withOffset (q : Query) (offset : Option Nat) : Query :=
  { q with offset := countClause offset, offsetWord := .unstated }

/-- The query with other sort keys; no keys are no order. -/
def withOrder (q : Query) (order : Option (List OrderKey)) : Query :=
  { q with order := .ofList (order.getD []) }

/-- The query with another filter. -/
def withFilter (q : Query) (filter : Option Expr) : Query :=
  q.mapSelect fun s => { s with filter := .ofOption filter }

/-! ## Targets and keys -/

/-- The query without the first target equal to the given one. -/
def withoutTarget (q : Query) (item : SelectItem) : Query :=
  q.mapSelect fun s => { s with targets := .ofList (s.targets.toList.erase item) }

/-- The query with a target in front. -/
def withLeadingTarget (q : Query) (item : SelectItem) : Query :=
  q.mapSelect fun s => { s with targets := .ofList (item :: s.targets.toList) }

/-- The query without the sort keys that refer to a column. -/
def withoutSortKey (q : Query) (path : String) : Query :=
  { q with order := .ofList (q.order.toList.filter fun k => !k.expr.refersTo path) }

/-- The query without the grouping keys that refer to a column. -/
def withoutGroupKey (q : Query) (path : String) : Query :=
  q.mapSelect fun s =>
    { s with groupBy := .ofList (s.groupBy.toList.filter fun e => !e.refersTo path) }

end Query

/-! ## Lifting -/

/-- The filter that a predicate's text stands for. -/
def liftFilter (predicate : String) : Except Fault (Option Expr) := do
  let fragment ← parseQuery ("SELECT 1 WHERE " ++ predicate)
  pure fragment.filter?

/-- The sort keys that a text stands for. -/
def liftOrder (keys : String) : Except Fault (List OrderKey) := do
  let fragment ← parseQuery ("SELECT 1 ORDER BY " ++ keys)
  pure fragment.order.toList

/-- The target that a text stands for, the first if it lists several. -/
def liftTarget (item : String) : Except Fault SelectItem := do
  let fragment ← parseQuery ("SELECT " ++ item)
  match fragment.targets with
  | first :: _ => pure first
  | [] => throw (.notAQuery item)

end QueryReport.Sql
