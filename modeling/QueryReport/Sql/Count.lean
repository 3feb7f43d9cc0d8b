import QueryReport.Sql.Edit

/-!
# Counting rows

The query that counts the rows of another, whatever its order and paging.
-/

namespace QueryReport.Sql

/-- Whether a `SELECT` groups its rows. -/
def Select.isGrouped (s : Select) : Bool := s.groupAll || !s.groupBy.toList.isEmpty

/-- Whether rows can be counted by replacing the targets: nothing groups, filters groups or drops
duplicates. -/
def Select.isPlain (s : Select) : Bool :=
  s.distinct = .unstated && s.having = .none && !s.isGrouped

/-- The query without its order and paging. -/
def Query.unpaged (q : Query) : Query :=
  { q with
    order := .nil
    limit := .none
    offset := .none
    offsetWord := .unstated
    fetch := none }

/-- The query that counts the rows of another.  A plain one gets another target list, any other is
counted from outside. -/
def Query.countRows (q : Query) : Except Fault Query := do
  let base := q.unpaged
  match base.select? with
  | some s =>
    if s.isPlain then
      let counter ← liftTarget "count(*)"
      pure (base.mapSelect fun s => { s with targets := .ofList [counter] })
    else parseQuery ("SELECT count(*) FROM (" ++ base.text ++ ") AS counted_rows")
  | none => parseQuery ("SELECT count(*) FROM (" ++ base.text ++ ") AS counted_rows")

end QueryReport.Sql
