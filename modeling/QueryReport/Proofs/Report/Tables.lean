import QueryReport.Proofs.Report.Outcome
import QueryReport.Proofs.Sql.Tables

/-!
# `QueryReport.Proofs.Report.Tables`: the tables of a report

`tables_met_and_kept` is the result: the tables of a query are the names that are met on the walk
through it, each at its first place, and filtering, sorting, removing columns and making arrays of
them leave the tables of a report as they are.  None of these touches the `FROM` of the query that
the report was given (`tables_of_result`).
-/

set_option autoImplicit false

namespace QueryReport.Report

open Sql QueryReport.Filter QueryReport.Text

variable {r next : Report}

theorem tableNames_withoutColumn (q : Query) (c : Column) :
    (withoutColumn q c).tableNames = q.tableNames := by
  unfold withoutColumn
  cases c.path with
  | none => exact tableNames_withoutTarget q c.source
  | some path =>
      dsimp only
      rw [tableNames_withoutGroupKey, tableNames_withoutSortKey, tableNames_withoutTarget]

theorem tableNames_foldl {f : Query → Column → Query}
    (hf : ∀ q c, (f q c).tableNames = q.tableNames) (columns : List Column) (q : Query) :
    (columns.foldl f q).tableNames = q.tableNames := by
  induction columns generalizing q with
  | nil => rfl
  | cons c columns ih => exact (ih (f q c)).trans (hf q c)

theorem tableNames_withArray (q : Query) (target : SelectItem) (columns : List Column) :
    (withArray q target columns).tableNames = q.tableNames := by
  unfold withArray
  rw [tableNames_withLeadingTarget]
  exact tableNames_foldl (fun q c => tableNames_withoutTarget q c.source) columns q

theorem tables_eq (h : next.baseline.map Query.tableNames = r.baseline.map Query.tableNames) :
    next.tables = r.tables := by
  have htables (r : Report) : r.tables = ((r.baseline.map Query.tableNames).elim
      (.error .sqlNotSet) .ok : Except Error (List String)) := by
    unfold tables required
    cases r.baseline <;> rfl
  rw [htables, htables, h]

/-- The tables stay what they are if an operation that succeeds leads to a query with the same. -/
theorem tables_of_result (op : Operation)
    (h : ∀ next, op.change.result r = .ok next →
      next.baseline.map Query.tableNames = r.baseline.map Query.tableNames) :
    (op.change.outcome r).2.tables = r.tables := by
  rw [Operation.outcome_change]
  cases hresult : op.change.result r with
  | error e => rfl
  | ok next => exact tables_eq (h next hresult)

/-- The tables of a query are the names of its plain tables where they are first met, and what a
report tells about its tables is not changed by filters, sort keys, removed columns and arrays. -/
theorem tables_met_and_kept :
    (∀ q : Query, ∃ visits,
      (∀ other, Walk SourceNode.below SourceNode.shown [.query q] other ↔ other = visits)
        ∧ FirstSeen visits q.tableNames)
    ∧ ∀ r : Report,
      (∀ params, ((Change.applyParams params).outcome r).2.tables = r.tables)
      ∧ (∀ params, ((Change.replaceFilter params).outcome r).2.tables = r.tables)
      ∧ (∀ keys, ((Change.setOrder keys).outcome r).2.tables = r.tables)
      ∧ (∀ names, ((Change.removeColumns names).outcome r).2.tables = r.tables)
      ∧ ∀ name names, ((Change.convertToArray name names).outcome r).2.tables = r.tables := by
  refine ⟨exists_tables_walk, fun r => ⟨fun params => ?_, fun params => ?_, fun keys => ?_,
    fun names => ?_, fun name names => ?_⟩⟩
  · refine tables_of_result (.applyParams params) fun next h => ?_
    obtain ⟨_, _, _, _, rfl⟩ := applyParams_eq_ok.mp h
    rfl
  · refine tables_of_result (.replaceFilter params) fun next h => ?_
    obtain ⟨_, _, _, _, rfl⟩ := replaceFilter_eq_ok.mp h
    rfl
  · refine tables_of_result (.setOrder keys) fun next h => ?_
    obtain ⟨_, _, rfl⟩ := setOrder_eq_ok.mp h
    rfl
  · refine tables_of_result (.removeColumns names) fun next h => ?_
    obtain ⟨removed, q, _, hq, rfl⟩ := removeColumns_eq_ok.mp h
    rw [hq]
    exact congrArg some (tableNames_foldl tableNames_withoutColumn removed q)
  · refine tables_of_result (.convertToArray name names) fun next h => ?_
    obtain ⟨converted, target, q, _, _, _, hq, _, rfl⟩ := convertToArray_eq_ok.mp h
    rw [hq]
    exact congrArg some (tableNames_withArray q target converted)

end QueryReport.Report
