import QueryReport.Proofs.Report.Literal
import QueryReport.Proofs.Report.Replay
import QueryReport.Proofs.Sql.Paging

/-!
# `QueryReport.Proofs.Report.Adoption`: which texts a report adopts

A text is adopted after checks that are made at different places: when it is parsed, when its
columns are built, and when its paging is read.  `Query.Adoptable` says of a query, without running
any of them, what they come to.

* `SelectItem.Named` is the name of a target as a relation; `Column.itemName_eq_ok` says that
  `itemName` computes it.
* `exists_buildColumns`: targets that are named differently have columns.  With
  `named_of_buildColumns` this is what building columns checks.
* `setSql_iff_adoptable`: a text is adopted exactly if it is one adoptable query, and what a report
  then holds is read off that query (`Report.Holds`).
-/

set_option autoImplicit false

namespace QueryReport

open Sql

/-! ## Names of targets -/

namespace Sql

/-- The name of a target: its label, or else the last part of the name of what it calls or refers
to.  Other targets without a label have no name. -/
inductive SelectItem.Named : SelectItem → String → Prop where
  | label (e : Expr) (label : Ident) : Named ⟨e, some label⟩ label.value
  | call (c : Call) : Named ⟨.call c, none⟩ ((c.name.getLast?.map Ident.value).getD "")
  | column (name : Ident) : Named ⟨.column name, none⟩ name.value
  | path (parts : Path) : Named ⟨.path parts, none⟩ ((parts.getLast?.map Ident.value).getD "")

/-- The query fits for a report whose columns have the given names. -/
structure Query.Adoptable (q : Query) (names : List String) : Prop where
  isSelect : ∃ s, q.body = .select s
  single : ∀ item ∈ q.targets, item.expr.isStar = false
  named : List.Forall₂ SelectItem.Named q.targets names
  nonempty : ∀ name ∈ names, name ≠ ""
  distinct : names.Nodup
  limit : ∃ n, q.limit.States n
  offset : ∃ n, q.offset.States n

theorem Query.isSome_select? {q : Query} : q.select?.isSome ↔ ∃ s, q.body = .select s := by
  unfold Query.select?
  cases hbody : q.body <;> simp

end Sql

theorem Column.itemName_eq_ok {number : Nat} {item : SelectItem} {name : String} :
    itemName number item = .ok name ↔ item.Named name := by
  obtain ⟨e, label⟩ := item
  constructor
  · intro h
    cases label with
    | some label =>
        cases h
        exact .label e label
    | none =>
        -- Of the kinds of expressions three have a name of their own.
        cases e with
        | call c =>
            cases h
            exact .call c
        | column name =>
            cases h
            exact .column name
        | path parts =>
            cases h
            exact .path parts
        | _ => cases h
  · intro h
    cases h <;> rfl

namespace Report

variable {r next : Report} {mode : ColumnMatch} {previous found columns : List Column}
  {number : Nat} {items : List SelectItem} {names : List String} {text : String} {q : Query}

/-! ## Building columns -/

/-- Columns are built from targets that have names of their own. -/
theorem exists_buildColumns (hnamed : List.Forall₂ SelectItem.Named items names)
    (hsingle : ∀ item ∈ items, item.expr.isStar = false) (hnonempty : ∀ name ∈ names, name ≠ "")
    (hdistinct : names.Nodup) (hnew : ∀ name ∈ names, name ∉ found.map Column.name) :
    ∃ columns, buildColumns mode previous number found items = .ok columns := by
  induction hnamed generalizing number found with
  | nil => exact ⟨[], rfl⟩
  | @cons item name items names hname _ ih =>
      rw [List.forall_mem_cons] at hsingle hnonempty hnew
      rw [List.nodup_cons] at hdistinct
      obtain ⟨c, hmake, rfl⟩ : ∃ c, Column.make number item = .ok c ∧ c.name = name :=
        ⟨_, Column.make_eq_ok.mpr
          ⟨hsingle.1, name, Column.itemName_eq_ok.mpr hname, hnonempty.1, rfl⟩, rfl⟩
      have hfound : ¬ (found.any fun f => f.name == c.name) = true := by
        simpa using hnew.1
      let built := c.inherit (inherited mode previous c)
      -- The names to come differ from this one too.
      have hnew : ∀ name ∈ names, name ∉ (found ++ [built]).map Column.name := by
        intro name hmem
        rw [List.map_append, List.mem_append, not_or]
        refine ⟨hnew.2 name hmem, ?_⟩
        rw [List.map_singleton, List.mem_singleton, Column.inherit_name]
        rintro rfl
        exact hdistinct.1 hmem
      obtain ⟨rest, hrest⟩ :=
        @ih (found ++ [built]) (number + 1) hsingle.2 hnonempty.2 hdistinct.2 hnew
      refine ⟨built :: rest, ?_⟩
      rw [buildColumns, hmake]
      show (if (found.any fun f => f.name == c.name) = true then _ else _) = _
      rw [if_neg hfound]
      show (buildColumns mode previous (number + 1) (found ++ [built]) items >>= _) = _
      rw [hrest]
      rfl

/-- Columns that are built have the names of their targets. -/
theorem named_of_buildColumns (h : buildColumns mode previous number found items = .ok columns) :
    List.Forall₂ SelectItem.Named items (columns.map Column.name) := by
  have hbuilt := buildColumns_built h
  rw [← buildColumns_sources h, List.forall₂_map_left_iff, List.forall₂_map_right_iff,
    List.forall₂_same]
  intro c hc
  obtain ⟨_, hname⟩ := (hbuilt c hc).named
  exact Column.itemName_eq_ok.mp hname

theorem single_of_buildColumns (h : buildColumns mode previous number found items = .ok columns) :
    ∀ item ∈ items, item.expr.isStar = false := by
  have hbuilt := buildColumns_built h
  rw [← buildColumns_sources h]
  intro item hitem
  obtain ⟨c, hc, rfl⟩ := List.mem_map.mp hitem
  exact (hbuilt c hc).single

theorem rebuilt_numbers (columns : List Column) :
    (rebuilt mode previous number columns).map (·.attributes.sequenceNo)
      = List.range' number columns.length := by
  induction columns generalizing number with
  | nil => rfl
  | cons c columns ih =>
      have hnumber : ((c.fresh number).inherit
          (inherited mode previous (c.fresh number))).attributes.sequenceNo = number := by
        cases inherited mode previous (c.fresh number) <;> rfl
      rw [rebuilt, List.map_cons, ih, hnumber, List.length_cons, List.range'_succ]

/-- Columns that are built are numbered in order. -/
theorem numbers_of_buildColumns (h : buildColumns mode previous number found items = .ok columns) :
    columns.map (·.attributes.sequenceNo) = List.range' number items.length := by
  have hlength : columns.length = items.length := by
    rw [← buildColumns_sources h, List.length_map]
  have hnumbers := @rebuilt_numbers mode previous number columns
  rw [← buildColumns_rebuilt h, hlength] at hnumbers
  exact hnumbers

/-! ## Adopting a text -/

/-- The columns of a query whose targets have names of their own, in any report. -/
theorem exists_columnsOf (h : q.Adoptable names) (r : Report) :
    ∃ columns, r.columnsOf q = .ok columns :=
  exists_buildColumns h.named h.single h.nonempty h.distinct fun _ _ hmem => nomatch hmem

/-- What a query is like that has been adopted. -/
theorem adoptable_of_setSql {limit offset : Option Nat} (hq : selectOf text = .ok q)
    (hcolumns : r.columnsOf q = .ok columns) (hlimit : statedCount "LIMIT" q.limit = .ok limit)
    (hoffset : statedCount "OFFSET" q.offset = .ok offset) :
    q.Adoptable (columns.map Column.name) where
  isSelect := Query.isSome_select?.mp (selectOf_eq_ok.mp hq).2
  single := single_of_buildColumns hcolumns
  named := named_of_buildColumns hcolumns
  nonempty := by
    intro name hname
    obtain ⟨c, hc, rfl⟩ := List.mem_map.mp hname
    exact (buildColumns_built hcolumns c hc).nonempty
  distinct := (buildColumns_names hcolumns).1
  limit := ⟨limit, statedCount_eq_ok.mp hlimit⟩
  offset := ⟨offset, statedCount_eq_ok.mp hoffset⟩

/-- The report holds the query of a text just as it was adopted: the columns are those of its
targets, and paging and order are its own. -/
structure Holds (r : Report) (text : String) (q : Query) : Prop where
  sql : r.sql = some text
  baseline : r.baseline = some q
  working : r.working = none
  sources : r.columns.map Column.source = q.targets
  numbers : r.columns.map (·.attributes.sequenceNo) = List.range' 1 q.targets.length
  limit : q.limit.States r.limit
  offset : q.offset.States r.offset
  order : r.order.getD [] = q.order.toList
  unordered : r.order = none ↔ q.order = .nil

theorem statedOrder_eq_none : statedOrder q = none ↔ q.order = .nil := by
  simp [statedOrder]

theorem statedOrder_getD (q : Query) : (statedOrder q).getD [] = q.order.toList := by
  unfold statedOrder
  by_cases hnone : q.order = .nil
  · rw [if_pos hnone, hnone]
    rfl
  · rw [if_neg hnone]
    rfl

/-- A report adopts a text exactly if it is one query, a plain `SELECT` of targets with names of
their own and with literal paging.  It then holds that query, and what is not read off it stays. -/
theorem setSql_iff_adoptable (r : Report) (text : String) :
    ((∃ next, r.setSql text = .ok next)
        ↔ ∃ q names, parse text = .ok [.query q] ∧ q.Adoptable names)
      ∧ ∀ next, r.setSql text = .ok next → ∃ q, parse text = .ok [.query q]
        ∧ q.Adoptable (next.columns.map Column.name) ∧ next.Holds text q
        ∧ next.caption = r.caption ∧ next.settings = r.settings
        ∧ next.columnMatch = r.columnMatch ∧ next.definitions = r.definitions := by
  have hadopted : ∀ next, r.setSql text = .ok next → ∃ q, parse text = .ok [.query q]
        ∧ q.Adoptable (next.columns.map Column.name) ∧ next.Holds text q
        ∧ next.caption = r.caption ∧ next.settings = r.settings
        ∧ next.columnMatch = r.columnMatch ∧ next.definitions = r.definitions := by
    intro next h
    obtain ⟨q, columns, limit, offset, hq, hcolumns, hlimit, hoffset, rfl⟩ := setSql_eq_ok.mp h
    have hadoptable := adoptable_of_setSql hq hcolumns hlimit hoffset
    refine ⟨q, (selectOf_eq_ok.mp hq).1, hadoptable, ?_, rfl, rfl, rfl, rfl⟩
    exact {
      sql := rfl
      baseline := rfl
      working := rfl
      sources := buildColumns_sources hcolumns
      numbers := numbers_of_buildColumns hcolumns
      limit := statedCount_eq_ok.mp hlimit
      offset := statedCount_eq_ok.mp hoffset
      order := statedOrder_getD q
      unordered := statedOrder_eq_none }
  -- What is adopted is adoptable; the converse runs the checks one after the other.
  refine ⟨⟨?_, ?_⟩, hadopted⟩
  · rintro ⟨next, h⟩
    obtain ⟨q, hparse, hadoptable, -⟩ := hadopted next h
    exact ⟨q, _, hparse, hadoptable⟩
  · rintro ⟨q, names, hparse, hadoptable⟩
    have hq : selectOf text = .ok q :=
      selectOf_eq_ok.mpr ⟨hparse, Query.isSome_select?.mpr hadoptable.isSelect⟩
    obtain ⟨columns, hcolumns⟩ := exists_columnsOf hadoptable r
    obtain ⟨limit, hlimit⟩ := hadoptable.limit
    obtain ⟨offset, hoffset⟩ := hadoptable.offset
    exact ⟨_, setSql_eq_ok.mpr ⟨q, columns, limit, offset, hq, hcolumns,
      statedCount_eq_ok.mpr hlimit, statedCount_eq_ok.mpr hoffset, rfl⟩⟩

/-- A text with an order and paging is adopted together with them. -/
theorem paged_text_adopted : ∃ q next,
    parse "SELECT id, count(*) AS n FROM t ORDER BY n LIMIT 10 OFFSET 5" = .ok [.query q]
      ∧ q.Adoptable ["id", "n"]
      ∧ ({} : Report).setSql "SELECT id, count(*) AS n FROM t ORDER BY n LIMIT 10 OFFSET 5"
        = .ok next
      ∧ next.columns.map (·.attributes.sequenceNo) = [1, 2]
      ∧ next.limit = some 10 ∧ next.offset = some 5 ∧ next.order.getD [] = q.order.toList := by
  let next : Report := ({} : Report).adopting
    "SELECT id, count(*) AS n FROM t ORDER BY n LIMIT 10 OFFSET 5" rfl
  obtain ⟨hsql, hnames, hnumbers, hlimit, hoffset⟩ : next.sql ≠ none
      ∧ next.columns.map Column.name = ["id", "n"]
      ∧ next.columns.map (·.attributes.sequenceNo) = [1, 2]
      ∧ next.limit = some 10 ∧ next.offset = some 5 := by decide +kernel
  have hadopted : ({} : Report).setSql _ = .ok next := setSql_adopting rfl rfl hsql
  obtain ⟨q, hparse, hadoptable, hholds, -⟩ := (setSql_iff_adoptable {} _).2 next hadopted
  rw [hnames] at hadoptable
  exact ⟨q, next, hparse, hadoptable, hadopted, hnumbers, hlimit, hoffset, hholds.order⟩

end Report

end QueryReport
