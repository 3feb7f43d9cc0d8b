import QueryReport.Proofs.Text.Seen
import QueryReport.Sql.Edit
import QueryReport.Sql.Tables

/-!
# `QueryReport.Proofs.Sql.Tables`: the tables of a query are met on a walk

`SourceNode` are the parts of a query that are gone through for its tables, and `SourceNode.below`
says for each of them what is gone through next: the queries of a `WITH` before the body, the left
side of a set operation before the right one, each table before what is joined to it.

* `collect_eq`: collecting names is going through the parts in this order.
* `exists_tables_walk`: the tables of a query are the names that are met, each at its first place.
* `tableNames_mapSelect`: they depend on nothing in a `SELECT` but its `FROM`.
-/

set_option autoImplicit false

namespace QueryReport.Sql

open QueryReport.Text

/-! ## The parts of a query -/

def CommonTables.queries : CommonTables → List Query
  | .nil => []
  | .cons _ _ query _ rest => query :: rest.queries

def Joins.tables : Joins → List Table
  | .nil => []
  | .cons _ table _ _ rest => table :: rest.tables

/-- Each table of a `FROM` with what is joined to it behind it. -/
def Sources.tables : Sources → List Table
  | .nil => []
  | .cons table joins rest => table :: (joins.tables ++ rest.tables)

/-- A part of a query that is gone through for tables. -/
inductive SourceNode where
  | query (query : Query)
  | body (body : Body)
  | table (table : Table)

namespace SourceNode

/-- The parts that come right below a part, in order. -/
def below : SourceNode → List SourceNode
  | query q => q.tables.queries.map query ++ [body q.body]
  | body (.select s) => s.sources.tables.map table
  | body (.query q) => [query q]
  | body (.setOp left _ _ right) => [body left, body right]
  | body _ => []
  | table (.derived _ q _) => [query q]
  | table (.nested first joins _) => (first :: joins.tables).map table
  | table _ => []

/-- The name of a plain table. -/
def shown : SourceNode → Option String
  | table (.named name _ _ _) => some (Path.text name)
  | table (.called name _ _ _ _) => some (Path.text name)
  | _ => none

/-- The names met so far with those that are met in a part. -/
def collect : SourceNode → List String → List String
  | query q => q.collectNames
  | body b => b.collectNames
  | table t => t.collectNames

end SourceNode

/-! ## One step -/

variable {seen : List String}

theorem CommonTables.collectNames_eq (tables : CommonTables) (seen : List String) :
    tables.collectNames seen
      = (tables.queries.map SourceNode.query).foldl (fun seen n => n.collect seen) seen := by
  match tables with
  | .nil => rfl
  | .cons _ _ query _ rest => exact rest.collectNames_eq (query.collectNames seen)

theorem Joins.collectNames_eq (joins : Joins) (seen : List String) :
    joins.collectNames seen
      = (joins.tables.map SourceNode.table).foldl (fun seen n => n.collect seen) seen := by
  match joins with
  | .nil => rfl
  | .cons _ table _ _ rest => exact rest.collectNames_eq (table.collectNames seen)

theorem Sources.collectNames_eq (sources : Sources) (seen : List String) :
    sources.collectNames seen
      = (sources.tables.map SourceNode.table).foldl (fun seen n => n.collect seen) seen := by
  match sources with
  | .nil => rfl
  | .cons table joins rest =>
      show rest.collectNames (joins.collectNames (table.collectNames seen))
        = ((table :: (joins.tables ++ rest.tables)).map SourceNode.table).foldl _ seen
      rw [rest.collectNames_eq, joins.collectNames_eq, List.map_cons, List.map_append,
        List.foldl_cons, List.foldl_append]
      rfl

theorem Select.collectNames_eq (s : Select) (seen : List String) :
    s.collectNames seen = s.sources.collectNames seen := by
  cases s
  rfl

/-- The names of a part are its own name and those of what is below it. -/
theorem SourceNode.collect_eq (n : SourceNode) (seen : List String) :
    n.collect seen = n.below.foldl (fun seen m => m.collect seen)
      (n.shown.toList.foldl addUnseen seen) := by
  match n with
  | query ⟨_, tables, b, _, _, _, _, _, _, _⟩ =>
      show b.collectNames (tables.collectNames seen)
        = (tables.queries.map query ++ [body b]).foldl _ seen
      rw [List.foldl_append, ← tables.collectNames_eq]
      rfl
  | body (.select s) => exact (s.collectNames_eq seen).trans (s.sources.collectNames_eq seen)
  -- The others collect what is below them in that order by definition.
  | body (.query _) => rfl
  | body (.setOp _ _ _ _) => rfl
  | body (.values _ _) => rfl
  | body (.table _ _) => rfl
  | body (.insert _ _ _ _ _) => rfl
  | body (.insertFiles _ _ _ _ _) => rfl
  | body (.update _ _ _ _ _ _ _) => rfl
  | table (.named _ _ _ _) => rfl
  | table (.called _ _ _ _ _) => rfl
  | table (.derived _ _ _) => rfl
  | table (.nested first joins _) => exact joins.collectNames_eq (first.collectNames seen)
  | table (.lateralCall _ _ _) => rfl
  | table (.tableOf _ _) => rfl
  | table (.unnest _ _ _ _ _) => rfl
  | table (.jsonTable _ _ _ _) => rfl
  | table (.openJson _ _ _ _) => rfl
  | table (.pivot _ _ _ _ _ _) => rfl
  | table (.unpivot _ _ _ _ _) => rfl

/-! ## The way down ends -/

theorem CommonTables.sizeOf_lt {tables : CommonTables} {q : Query} (h : q ∈ tables.queries) :
    sizeOf q < sizeOf tables := by
  match tables with
  | .nil => cases h
  | .cons _ _ query _ rest =>
      rcases List.mem_cons.mp h with rfl | h
      · simp only [CommonTables.cons.sizeOf_spec]
        omega
      · have hrest := rest.sizeOf_lt h
        simp only [CommonTables.cons.sizeOf_spec]
        omega

theorem Joins.sizeOf_lt {joins : Joins} {t : Table} (h : t ∈ joins.tables) :
    sizeOf t < sizeOf joins := by
  match joins with
  | .nil => cases h
  | .cons _ table _ _ rest =>
      rcases List.mem_cons.mp h with rfl | h
      · simp only [Joins.cons.sizeOf_spec]
        omega
      · have hrest := rest.sizeOf_lt h
        simp only [Joins.cons.sizeOf_spec]
        omega

theorem Sources.sizeOf_lt {sources : Sources} {t : Table} (h : t ∈ sources.tables) :
    sizeOf t < sizeOf sources := by
  match sources with
  | .nil => cases h
  | .cons table joins rest =>
      simp only [Sources.cons.sizeOf_spec]
      rcases List.mem_cons.mp h with rfl | h
      · omega
      · rcases List.mem_append.mp h with h | h
        · have hjoins := Joins.sizeOf_lt h
          omega
        · have hrest := rest.sizeOf_lt h
          omega

theorem SourceNode.sizeOf_lt (n m : SourceNode) (h : m ∈ n.below) : sizeOf m < sizeOf n := by
  -- One case for each kind of part that has others below it: each is a subtree of its own.
  match n with
  | query ⟨recursive, tables, b, order, limit, offset, word, fetch, locks, form⟩ =>
      rcases List.mem_append.mp h with h | h
      · obtain ⟨q, hq, rfl⟩ := List.mem_map.mp h
        have hlt : sizeOf q < sizeOf tables := CommonTables.sizeOf_lt hq
        simp only [query.sizeOf_spec, Query.mk.sizeOf_spec]
        omega
      · rw [List.mem_singleton.mp h]
        simp only [query.sizeOf_spec, body.sizeOf_spec, Query.mk.sizeOf_spec]
        omega
  | body (.select s) =>
      obtain ⟨t, ht, rfl⟩ := List.mem_map.mp h
      have hlt := Sources.sizeOf_lt ht
      have hsources : sizeOf s.sources < sizeOf s := by
        cases s
        simp only [Select.mk.sizeOf_spec]
        omega
      simp only [table.sizeOf_spec, body.sizeOf_spec, Body.select.sizeOf_spec]
      omega
  | body (.query q) =>
      rw [List.mem_singleton.mp h]
      simp only [query.sizeOf_spec, body.sizeOf_spec, Body.query.sizeOf_spec]
      omega
  | body (.setOp left op quantifier right) =>
      rcases List.mem_cons.mp h with rfl | h
      · simp only [body.sizeOf_spec, Body.setOp.sizeOf_spec]
        omega
      · rw [List.mem_singleton.mp h]
        simp only [body.sizeOf_spec, Body.setOp.sizeOf_spec]
        omega
  | table (.derived lateral q label) =>
      rw [List.mem_singleton.mp h]
      simp only [query.sizeOf_spec, table.sizeOf_spec, Table.derived.sizeOf_spec]
      omega
  | table (.nested first joins label) =>
      obtain ⟨t, ht, rfl⟩ := List.mem_map.mp h
      simp only [table.sizeOf_spec, Table.nested.sizeOf_spec]
      rcases List.mem_cons.mp ht with rfl | ht
      · omega
      · have hlt := Joins.sizeOf_lt ht
        omega

/-- There is one order in which the names of tables are met in a query, and the tables of the query
are these names, each at its first place. -/
theorem exists_tables_walk (q : Query) :
    ∃ visits, (∀ other, Walk SourceNode.below SourceNode.shown [.query q] other ↔ other = visits)
      ∧ FirstSeen visits q.tableNames :=
  exists_walk_firstSeen sizeOf SourceNode.sizeOf_lt SourceNode.collect_eq [.query q]

/-! ## Edits -/

/-- A change to a `SELECT` does not change the tables of the query if it leaves the `FROM` alone. -/
theorem tableNames_mapSelect {f : Select → Select} (hf : ∀ s, (f s).sources = s.sources)
    (q : Query) : (q.mapSelect f).tableNames = q.tableNames := by
  obtain ⟨_, tables, body, _, _, _, _, _, _, _⟩ := q
  cases body with
  | select s =>
      show (f s).collectNames (tables.collectNames []) = s.collectNames (tables.collectNames [])
      rw [Select.collectNames_eq, Select.collectNames_eq, hf s]
  | _ => rfl

theorem tableNames_withoutTarget (q : Query) (item : SelectItem) :
    (q.withoutTarget item).tableNames = q.tableNames := by
  unfold Query.withoutTarget
  rw [tableNames_mapSelect]
  exact fun _ => rfl

theorem tableNames_withLeadingTarget (q : Query) (item : SelectItem) :
    (q.withLeadingTarget item).tableNames = q.tableNames := by
  unfold Query.withLeadingTarget
  rw [tableNames_mapSelect]
  exact fun _ => rfl

theorem tableNames_withoutSortKey (q : Query) (path : String) :
    (q.withoutSortKey path).tableNames = q.tableNames := by
  cases q
  rfl

theorem tableNames_withoutGroupKey (q : Query) (path : String) :
    (q.withoutGroupKey path).tableNames = q.tableNames := by
  unfold Query.withoutGroupKey
  rw [tableNames_mapSelect]
  exact fun _ => rfl

end QueryReport.Sql
