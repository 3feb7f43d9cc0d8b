import QueryReport.Proofs.Except
import QueryReport.Proofs.Sql.Lexing.Progress
import QueryReport.Proofs.Sql.Rows

/-!
# `QueryReport.Proofs.Sql.Counting`: counting the rows of a query

The rows of a query are counted in one of two ways (`Query.countRows`): the targets are replaced by
a counter where they stand, or the query is put into the `FROM` list of a query that counts.

* Replaced targets count the rows that the `SELECT` reads (`rows_counting`).  These are as many as
  the query returns if it returns a row for each, which is `Database.RowByRow`.
* A query around the query counts what that returns, whatever it is (`rows_countedFrom`).

`countRows_counts` puts the two together.  That a `SELECT` groups nothing and drops no duplicates is
not enough for it to go row by row: an aggregate makes one row of all rows as well, and the counter
then counts the rows that were summed up (`aggregate_miscounted`).
-/

set_option autoImplicit false

namespace QueryReport.Sql

variable {D : Database} {q : Query} {s : Select}

theorem body_of_select (hs : q.select? = some s) : q.body = .select s := by
  unfold Query.select? at hs
  cases hbody : q.body with
  | select s' =>
      rw [hbody, Option.some.injEq] at hs
      rw [hs]
  | _ =>
      rw [hbody] at hs
      cases hs

/-! ## The two forms -/

theorem liftTarget_count : liftTarget "count(*)" = .ok countTarget := by decide +kernel

/-- A query that is a `SELECT` and nothing else. -/
theorem text_of_select (s : Select) :
    Query.text ⟨false, .nil, .select s, .nil, .none, .none, .unstated, none, [], none⟩
      = s.text := by
  show "" ++ s.text ++ "" ++ "" ++ "" ++ "" ++ "" ++ "" = s.text
  simp only [String.append_empty, String.empty_append]

theorem text_countedFrom (q : Query) :
    (countedFrom q).text = "SELECT count(*) FROM (" ++ q.text ++ ") AS counted_rows" := by
  have htarget : commas (SelectItems.ofList [countTarget]).texts = "count(*)" := by decide +kernel
  have hfront : "SELECT count(*) FROM (" = "SELECT" ++ " " ++ "count(*)" ++ " FROM " ++ "(" := rfl
  have hback : ") AS counted_rows" = ")" ++ " AS counted_rows" := rfl
  refine (text_of_select _).trans ?_
  show "SELECT" ++ "" ++ "" ++ " " ++ commas (SelectItems.ofList [countTarget]).texts ++ ""
    ++ (" FROM " ++ ("" ++ "(" ++ q.text ++ ")" ++ " AS counted_rows" ++ ""))
    ++ "" ++ "" ++ "" ++ "" ++ "" ++ "" ++ "" ++ ("" ++ "") = _
  rw [htarget, hfront, hback]
  simp only [String.append_empty, String.empty_append, String.append_assoc]

theorem isPlain_iff : s.isPlain = true ↔ s.distinct = .unstated ∧ s.having = .none
    ∧ s.groupAll = false ∧ s.groupBy = .nil := by
  have hnil : s.groupBy.toList = [] ↔ s.groupBy = .nil := by
    cases s.groupBy <;> simp [Exprs.toList]
  simp [Select.isPlain, Select.isGrouped, hnil, and_assoc]

theorem isGrouped_of_isPlain (h : s.isPlain = true) : s.isGrouped = false := by
  obtain ⟨-, -, hall, hkeys⟩ := isPlain_iff.mp h
  rw [Select.isGrouped, hall, hkeys]
  rfl

theorem countRows_plain (hs : q.select? = some s) (hplain : s.isPlain = true) :
    q.countRows = .ok (q.unpaged.mapSelect Select.counting) := by
  have hbase : q.unpaged.select? = some s := hs
  unfold Query.countRows
  dsimp only
  rw [hbase]
  dsimp only
  rw [if_pos hplain, liftTarget_count]
  rfl

theorem countRows_wrapped (hs : q.select? = some s) (hplain : s.isPlain = false) :
    q.countRows = parseQuery (countedFrom q.unpaged).text := by
  have hbase : q.unpaged.select? = some s := hs
  unfold Query.countRows
  dsimp only
  rw [hbase, text_countedFrom]
  dsimp only
  rw [if_neg (Bool.eq_false_iff.mp hplain)]

/-! ## What they count -/

namespace Database

theorem rows_of_select (hs : q.select? = some s) : D.rows q
    = (D.arrange q (D.selected s
        (D.read q.recursive q.tables s.sources s.lateralViews s.filter))).map Prod.snd := by
  rw [rows, body_of_select hs]

/-- A counter that is not grouped by anything counts the rows that it reads. -/
theorem rows_counting (hD : D.Lawful) (hs : q.select? = some s) (hq : q.Bare) (hbare : s.Bare)
    (htargets : s.targets.toList = [countTarget]) (hgrouped : s.isGrouped = false)
    (hhaving : s.having = .none) : D.rows q
      = [[D.number (D.read q.recursive q.tables s.sources s.lateralViews s.filter).length]] := by
  have haggregates : D.aggregates countTarget.expr = true :=
    hD.aggregates_call _ "count" rfl (by decide) rfl
  rw [rows_of_select hs]
  generalize D.read q.recursive q.tables s.sources s.lateralViews s.filter = rows
  -- A call that aggregates makes one group of all rows, even of none.
  have hgroups : D.groups s rows = [rows] := by
    simp [groups, hgrouped, htargets, haggregates]
  have hselected : D.selected s rows = [(rows, [D.number rows.length])] := by
    have hnarrow := hD.narrow_bare s [(rows, [D.number rows.length])] hbare
    unfold selected kept
    rw [hhaving, hgroups]
    simpa [hD.evaluate_count s _ _ htargets] using hnarrow.eq_singleton
  have harrange := hD.arrange_bare q [(rows, [D.number rows.length])] hq
  rw [hselected, harrange.eq_singleton, List.map_singleton]

/-- A query whose `SELECT` returns one row for each row that it reads, if it groups nothing and
drops no duplicates. -/
structure RowByRow (D : Database) (q : Query) (s : Select) : Prop where
  aggregates : ∀ item ∈ s.targets.toList, D.aggregates item.expr = false
  /-- No target stands for several rows. -/
  single : ∀ groups row, (D.evaluate s groups [row]).length = 1
  top : s.top = .unstated
  qualify : s.qualify = .none
  into : s.into = none
  locks : q.locks = []
  form : q.form = none

theorem RowByRow.bare_select (h : D.RowByRow q s) (hplain : s.isPlain = true) : s.Bare :=
  ⟨(isPlain_iff.mp hplain).1, h.top, h.qualify, h.into⟩

theorem RowByRow.bare_unpaged (h : D.RowByRow q s) : q.unpaged.Bare :=
  ⟨rfl, rfl, rfl, rfl, h.locks, h.form⟩

theorem length_rows_unpaged (hD : D.Lawful) (hs : q.select? = some s) (hplain : s.isPlain = true)
    (h : D.RowByRow q s) : (D.rows q.unpaged).length
      = (D.read q.recursive q.tables s.sources s.lateralViews s.filter).length := by
  have hhaving := (isPlain_iff.mp hplain).2.1
  have hbase : q.unpaged.select? = some s := hs
  rw [rows_of_select hbase]
  show _ = (D.read q.unpaged.recursive q.unpaged.tables _ _ _).length
  generalize D.read q.unpaged.recursive q.unpaged.tables s.sources s.lateralViews s.filter = rows
  have hnone : (s.targets.toList.any fun item => D.aggregates item.expr) = false :=
    List.any_eq_false.mpr fun item hitem => Bool.eq_false_iff.mp (h.aggregates item hitem)
  have hgroups : D.groups s rows = rows.map fun row => [row] := by
    simp [groups, isGrouped_of_isPlain hplain, hhaving, hnone]
  -- Each row is a group of its own, and each of these groups gives one row.
  have hrows : ∀ groups : List (List D.Row), ((rows.map fun row => [row]).flatMap fun group =>
      (D.evaluate s groups group).map fun values => (group, values)).length = rows.length := by
    intro groups
    simp [List.length_flatMap, List.map_map, Function.comp_def, h.single]
  have hkept : D.kept s (D.groups s rows) = rows.map fun row => [row] := by
    rw [kept, hhaving, hgroups]
  rw [List.length_map, (hD.arrange_bare q.unpaged _ h.bare_unpaged).length_eq]
  unfold selected
  rw [hkept]
  exact (hD.narrow_bare s _ (h.bare_select hplain)).length_eq.trans (hrows _)

/-- Where a query goes row by row, its targets can be replaced by a counter. -/
theorem rows_replaced (hD : D.Lawful) (hs : q.select? = some s) (hplain : s.isPlain = true)
    (h : D.RowByRow q s) : D.rows (q.unpaged.mapSelect Select.counting)
      = [[D.number (D.rows q.unpaged).length]] := by
  have hhaving := (isPlain_iff.mp hplain).2.1
  have hbody : q.unpaged.mapSelect Select.counting
      = { q.unpaged with body := .select s.counting } := by
    rw [Query.mapSelect, Query.unpaged, body_of_select hs]
  let counter : Query := { q.unpaged with body := .select s.counting }
  have hselect : counter.select? = some s.counting := rfl
  have hquery : counter.Bare := { h.bare_unpaged with }
  have hbare : s.counting.Bare := { h.bare_select hplain with }
  have hgrouped : s.counting.isGrouped = false := isGrouped_of_isPlain hplain
  rw [hbody, length_rows_unpaged hD hs hplain h]
  have hcount :=
    rows_counting hD hselect hquery hbare (SelectItems.toList_ofList _) hgrouped hhaving
  exact hcount

/-- A query around a query counts its rows, whatever it is. -/
theorem rows_countedFrom (hD : D.Lawful) (q : Query) :
    D.rows (countedFrom q) = [[D.number (D.rows q).length]] := by
  rw [rows_counting hD rfl ⟨rfl, rfl, rfl, rfl, rfl, rfl⟩ ⟨rfl, rfl, rfl, rfl⟩
    (SelectItems.toList_ofList _) rfl rfl]
  show [[D.number (D.read false .nil _ .nil .none).length]] = _
  rw [hD.read_derived]

end Database

/-- The rows of a query are counted, without its order and paging, in any database.  The targets are
replaced exactly if the query has no `DISTINCT`, `HAVING` and `GROUP BY`, and then it has to go row
by row; any other query is put into a `FROM` list, and then it has to be read there as what it was
written from. -/
theorem countRows_counts (hD : D.Lawful) (hs : q.select? = some s)
    (hrows : s.isPlain = true → D.RowByRow q s)
    (hread : s.isPlain = false →
      parseQuery (countedFrom q.unpaged).text = .ok (countedFrom q.unpaged)) :
    ∃ counter, q.countRows = .ok counter
      ∧ D.rows counter = [[D.number (D.rows q.unpaged).length]]
      ∧ counter = if s.distinct = .unstated ∧ s.having = .none ∧ s.groupAll = false
            ∧ s.groupBy = .nil
          then q.unpaged.mapSelect Select.counting
          else countedFrom q.unpaged := by
  cases hplain : s.isPlain with
  | true =>
      refine ⟨_, countRows_plain hs hplain, Database.rows_replaced hD hs hplain (hrows hplain), ?_⟩
      rw [if_pos (isPlain_iff.mp hplain)]
  | false =>
      refine ⟨countedFrom q.unpaged, ?_, Database.rows_countedFrom hD q.unpaged, ?_⟩
      · rw [countRows_wrapped hs hplain, hread hplain]
      · rw [if_neg fun h => Bool.eq_false_iff.mp hplain (isPlain_iff.mpr h)]

/-! ## A database -/

namespace Sample

/-- Whether an expression is a usual aggregate that ranges over no window. -/
def isAggregate (e : Expr) : Bool :=
  match e with
  | .call c =>
    c.window = .none
      && (Column.functionName? e).any fun f => Column.aggregates.contains (Text.lower f)
  | _ => false

/-- A group as a row: how many rows it has, what they sum up to, or the row itself. -/
def evaluate (s : Select) (group : List (List Nat)) : List (List Nat) :=
  if s.targets.toList = [countTarget] then [[group.length]]
  else if s.targets.toList.any fun item => isAggregate item.expr then
    [[group.flatten.foldl (· + ·) 0]]
  else group.take 1

def narrow (s : Select) (rows : List (List (List Nat) × List Nat)) :
    List (List (List Nat) × List Nat) :=
  match s.distinct with
  | .unstated => rows
  | _ => (rows.map Prod.snd).eraseDups.map fun row => ([row], row)

def arrange (q : Query) (rows : List (List (List Nat) × List Nat)) :
    List (List (List Nat) × List Nat) :=
  match q.limit with
  | .none => rows
  | .some e => rows.take (e.count?.getD rows.length)

/-- What a `FROM` list gives is left to a function. -/
abbrev reading (read : Sources → List (List Nat)) : Database where
  Row := List Nat
  Value := Nat
  number := id
  read := fun _ _ sources _ _ => read sources
  group := fun _ rows => rows.eraseDups.map fun row => rows.filter (· == row)
  passes := fun _ _ => true
  aggregates := isAggregate
  evaluate := fun s _ group => evaluate s group
  narrow := narrow
  arrange := arrange
  other := fun _ => []

mutual

/-- The one column of a table, and what other queries return. -/
def tableRows : Table → List (List Nat)
  | .named _ _ _ _ => [[3], [5], [5]]
  | .derived _ query _ => queryRows query
  | _ => []

def sourceRows : Sources → List (List Nat)
  | .cons table .nil .nil => tableRows table
  | _ => []

def queryRows : Query → List (List Nat)
  | ⟨recursive, tables, body, order, limit, offset, offsetWord, fetch, locks, form⟩ =>
    (arrange ⟨recursive, tables, body, order, limit, offset, offsetWord, fetch, locks, form⟩
      (bodyRows body)).map Prod.snd

def bodyRows : Body → List (List (List Nat) × List Nat)
  | .select s => selectRows s
  | _ => []

def selectRows : Select → List (List (List Nat) × List Nat)
  | ⟨word, distinctOn, top, topCount, targets, into, sources, lateralViews, filter, groupAll,
      groupBy, clusterBy, distributeBy, sortBy, having, windows, qualify, windowsFirst⟩ =>
    (reading fun _ => []).selected
      ⟨word, distinctOn, top, topCount, targets, into, sources, lateralViews, filter, groupAll,
        groupBy, clusterBy, distributeBy, sortBy, having, windows, qualify, windowsFirst⟩
      (sourceRows sources)

end

/-- A database whose tables all have three rows, two of them alike. -/
abbrev database : Database := reading sourceRows

theorem arrange_nil (q : Query) : arrange q [] = [] := by
  unfold arrange
  cases q.limit with
  | none => rfl
  | some e => exact List.take_nil

theorem rows_database (q : Query) : database.rows q = queryRows q := by
  obtain ⟨_, _, body, _, _, _, _, _, _, _⟩ := q
  cases body with
  | select s => cases s; rfl
  | _ => exact (congrArg (List.map Prod.snd) (arrange_nil _)).symm

theorem lawful : database.Lawful where
  aggregates_call c f hname hf hwindow := by
    show isAggregate (.call c) = true
    simp [isAggregate, hwindow, hname, hf]
  evaluate_count s _ group htargets := if_pos htargets
  narrow_bare s rows h := by
    show (narrow s rows).Perm rows
    unfold narrow
    rw [h.distinct]
  arrange_bare q rows h := by
    show (arrange q rows).Perm rows
    unfold arrange
    rw [h.limit]
  read_derived q label := by
    rw [rows_database]
    rfl

/-- A target of a table, in a query with a limit. -/
def selection (word : DistinctWord) (target : SelectItem) : Select where
  distinct := word
  distinctOn := .nil
  top := .unstated
  topCount := .none
  targets := .ofList [target]
  into := none
  sources := .cons (.named [⟨"t", none⟩] false none .nil) .nil .nil
  lateralViews := .nil
  filter := .none
  groupAll := false
  groupBy := .nil
  clusterBy := .nil
  distributeBy := .nil
  sortBy := .nil
  having := .none
  windows := .nil
  qualify := .none
  windowsFirst := false

/-- The first two rows of a `SELECT`. -/
def limited (s : Select) : Query where
  recursive := false
  tables := .nil
  body := .select s
  order := .nil
  limit := .some (.ofCount 2)
  offset := .none
  offsetWord := .unstated
  fetch := none
  locks := []
  form := none

/-- A column as a target. -/
def column : SelectItem := ⟨.column ⟨"x", none⟩, none⟩

/-- The sum of a column as a target. -/
def sum : SelectItem where
  expr := .call {
    name := [⟨"sum", none⟩]
    braces := false
    args := .list none none (.cons column.expr .nil) .nil .none .unstated none
    withinGroup := .nil
    filter := .none
    nulls := none
    window := .none }
  label := some ⟨"s", none⟩

/-- Where the targets are replaced. -/
theorem rowByRow : database.RowByRow (limited (selection .unstated column))
    (selection .unstated column) where
  aggregates := by decide +kernel
  single _ _ := rfl
  top := rfl
  qualify := rfl
  into := rfl
  locks := rfl
  form := rfl

end Sample

open Sample in
/-- The targets of a query with a limit are replaced; one that drops duplicates is put into a `FROM`
list. -/
theorem count_sampled :
    (∃ q counter, parseQuery "SELECT x FROM t LIMIT 2" = .ok q
      ∧ q.countRows = .ok counter ∧ counter.text = "SELECT count(*) FROM t"
      ∧ database.rows q = [[3], [5]] ∧ database.rows q.unpaged = [[3], [5], [5]]
      ∧ database.rows counter = [[database.number (database.rows q.unpaged).length]])
    ∧ ∃ q counter, parseQuery "SELECT DISTINCT x FROM t LIMIT 2" = .ok q
      ∧ q.countRows = .ok counter
      ∧ counter.text = "SELECT count(*) FROM (SELECT DISTINCT x FROM t) AS counted_rows"
      ∧ database.rows q.unpaged = [[3], [5]]
      ∧ database.rows counter = [[database.number (database.rows q.unpaged).length]] := by
  constructor
  · let s := selection .unstated column
    obtain ⟨counter, hcounter, hrows, heq⟩ :=
      countRows_counts (q := limited s) (s := s) Sample.lawful rfl (fun _ => rowByRow)
        fun h => absurd h (by decide)
    refine ⟨limited s, counter, by decide +kernel, hcounter, ?_, by decide +kernel,
      by decide +kernel, hrows⟩
    rw [heq]
    decide +kernel
  · let s := selection .distinct column
    have hread : parseQuery (countedFrom (limited s).unpaged).text
        = .ok (countedFrom (limited s).unpaged) := by
      have htext : (countedFrom (limited s).unpaged).text
          = "SELECT count(*) FROM (SELECT DISTINCT x FROM t) AS counted_rows" := by decide +kernel
      rw [htext, parseQuery_literal rfl]
      decide +kernel
    obtain ⟨counter, hcounter, hrows, heq⟩ :=
      countRows_counts (q := limited s) (s := s) Sample.lawful rfl (fun h => absurd h (by decide))
        fun _ => hread
    refine ⟨limited s, counter, by decide +kernel, hcounter, ?_, by decide +kernel, hrows⟩
    rw [heq]
    decide +kernel

open Sample in
/-- A sum is one row, but its query is counted by the rows that are summed up. -/
theorem aggregate_miscounted : ∃ q s counter,
    parseQuery "SELECT sum(x) AS s FROM t LIMIT 2" = .ok q ∧ q.select? = some s
      ∧ (∃ item ∈ s.targets.toList, database.aggregates item.expr = true)
      ∧ q.countRows = .ok counter ∧ counter.text = "SELECT count(*) FROM t"
      ∧ database.rows q.unpaged = [[13]] ∧ database.rows counter = [[3]]
      ∧ database.rows counter ≠ [[database.number (database.rows q.unpaged).length]] := by
  let s := selection .unstated sum
  have hcounter : (limited s).countRows = .ok ((limited s).unpaged.mapSelect Select.counting) :=
    countRows_plain rfl (by decide)
  have hrows : database.rows (limited s).unpaged = [[13]] := by decide +kernel
  have hcounted : database.rows ((limited s).unpaged.mapSelect Select.counting) = [[3]] := by
    decide +kernel
  refine ⟨limited s, s, _, by decide +kernel, rfl, by decide +kernel, hcounter, by decide +kernel,
    hrows, hcounted, ?_⟩
  rw [hrows, hcounted]
  decide

end QueryReport.Sql
