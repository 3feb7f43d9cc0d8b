import QueryReport.Sql.Render
import QueryReport.Text.Seen

/-!
# The tables of a query

The names that a query reads from, in the order in which they are first met: common table
expressions before the body, tables before what is joined to them, at any depth of `FROM`.  The
names met so far are handed from part to part.
-/

namespace QueryReport.Sql

mutual

/-- The names met so far with those that a query reads from. -/
def Query.collectNames : Query → List String → List String
  | ⟨_, tables, body, _, _, _, _, _, _, _⟩, seen => body.collectNames (tables.collectNames seen)

def CommonTables.collectNames : CommonTables → List String → List String
  | .nil, seen => seen
  | .cons _ _ query _ rest, seen => rest.collectNames (query.collectNames seen)

def Body.collectNames : Body → List String → List String
  | .select s, seen => s.collectNames seen
  | .query q, seen => q.collectNames seen
  | .setOp left _ _ right, seen => right.collectNames (left.collectNames seen)
  | .values _ _, seen => seen
  | .table _ _, seen => seen
  | .insert _ _ _ _ _, seen => seen
  | .insertFiles _ _ _ _ _, seen => seen
  | .update _ _ _ _ _ _ _, seen => seen

def Select.collectNames : Select → List String → List String
  | ⟨_, _, _, _, _, _, sources, _, _, _, _, _, _, _, _, _, _, _⟩, seen => sources.collectNames seen

def Sources.collectNames : Sources → List String → List String
  | .nil, seen => seen
  | .cons table joins rest, seen =>
    rest.collectNames (joins.collectNames (table.collectNames seen))

def Joins.collectNames : Joins → List String → List String
  | .nil, seen => seen
  | .cons _ table _ _ rest, seen => rest.collectNames (table.collectNames seen)

def Table.collectNames : Table → List String → List String
  | .named name _ _ _, seen => Text.addUnseen seen (Path.text name)
  | .called name _ _ _ _, seen => Text.addUnseen seen (Path.text name)
  | .derived _ query _, seen => query.collectNames seen
  | .nested table joins _, seen => joins.collectNames (table.collectNames seen)
  | .lateralCall _ _ _, seen => seen
  | .tableOf _ _, seen => seen
  | .unnest _ _ _ _ _, seen => seen
  | .jsonTable _ _ _ _, seen => seen
  | .openJson _ _ _ _, seen => seen
  | .pivot _ _ _ _ _ _, seen => seen
  | .unpivot _ _ _ _ _, seen => seen

end

/-- The names a query reads from, each once. -/
def Query.tableNames (q : Query) : List String := q.collectNames []

end QueryReport.Sql
