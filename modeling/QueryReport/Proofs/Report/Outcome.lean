import QueryReport.Proofs.Report.Agreement

/-!
# `QueryReport.Proofs.Report.Outcome`: when an operation succeeds, and with what

For each operation the conditions under which it succeeds and the report that it leaves, as an
equivalence: read from left to right it takes a call apart, read from right to left it runs one.

* `setSql_eq_ok`, `removeColumns_eq_ok`, `convertToArray_eq_ok`: operations on the query.
* `applyParams_eq_ok`, `replaceFilter_eq_ok`, `setOrder_eq_ok`: operations on what is seen of it.
  The paging is put apart from the filter there; by `filtered_paged` the two do not get in each
  other's way.
* `load_eq_ok`: replacing the report.
-/

set_option autoImplicit false

namespace QueryReport

open Sql QueryReport.Filter

namespace Report

variable {r next : Report} {text name : String} {names : List String} {params : List Parameter}

/-! ## The query -/

/-- A text is adopted if it is one `SELECT` whose targets make columns and whose paging is
literal. -/
theorem setSql_eq_ok : r.setSql text = .ok next ↔ ∃ q columns limit offset,
    selectOf text = .ok q ∧ r.columnsOf q = .ok columns
      ∧ statedCount "LIMIT" q.limit = .ok limit ∧ statedCount "OFFSET" q.offset = .ok offset
      ∧ next = { r with
          limit, offset, columns
          sql := some text
          baseline := some q
          working := none
          order := statedOrder q } := by
  unfold setSql
  rw [Change.result_of_outcome (Change.outcome_setSql text r)]
  constructor
  · intro h
    obtain ⟨q, hq, h⟩ := bind_eq_ok.mp h
    obtain ⟨columns, hcolumns, h⟩ := bind_eq_ok.mp h
    obtain ⟨limit, hlimit, h⟩ := bind_eq_ok.mp h
    obtain ⟨offset, hoffset, h⟩ := bind_eq_ok.mp h
    exact ⟨q, columns, limit, offset, hq, hcolumns, hlimit, hoffset, (pure_eq_ok.mp h).symm⟩
  · rintro ⟨q, columns, limit, offset, hq, hcolumns, hlimit, hoffset, rfl⟩
    rw [hq]
    show (r.columnsOf q >>= _) = _
    rw [hcolumns]
    show (statedCount "LIMIT" q.limit >>= _) = _
    rw [hlimit]
    show (statedCount "OFFSET" q.offset >>= _) = _
    rw [hoffset]
    rfl

theorem removeColumns_eq_ok : r.removeColumns names = .ok next ↔ ∃ removed q,
    r.namedColumns names = .ok removed ∧ r.baseline = some q
      ∧ next = { r with
          sql := some (removed.foldl withoutColumn q).text
          baseline := some (removed.foldl withoutColumn q)
          working := r.working.map fun q => removed.foldl withoutColumn q
          columns := r.columns.filter fun c => !names.contains c.name
          order := (r.order.map fun keys => removed.foldl orderWithout keys).filter
            (!·.isEmpty) } := by
  unfold removeColumns
  rw [Change.result_of_outcome (Change.outcome_removeColumns names r)]
  constructor
  · intro h
    obtain ⟨removed, hremoved, h⟩ := bind_eq_ok.mp h
    obtain ⟨q, hq, h⟩ := bind_eq_ok.mp h
    exact ⟨removed, q, hremoved, required_eq_ok.mp hq, (pure_eq_ok.mp h).symm⟩
  · rintro ⟨removed, q, hremoved, hq, rfl⟩
    rw [hremoved]
    show (r.required >>= _) = _
    rw [required_eq_ok.mpr hq]
    rfl

theorem convertToArray_eq_ok : r.convertToArray name names = .ok next ↔
    ∃ converted target q columns, r.namedColumns names = .ok converted
      ∧ arrayTarget name converted = .ok target ∧ r.baseline = some q
      ∧ r.columnsOf (withArray q target converted) = .ok columns
      ∧ next = { r with
          columns
          sql := some (withArray q target converted).text
          baseline := some (withArray q target converted)
          working := none } := by
  unfold convertToArray
  rw [Change.result_of_outcome (Change.outcome_convertToArray name names r)]
  constructor
  · intro h
    obtain ⟨converted, hconverted, h⟩ := bind_eq_ok.mp h
    obtain ⟨target, htarget, h⟩ := bind_eq_ok.mp h
    obtain ⟨q, hq, h⟩ := bind_eq_ok.mp h
    obtain ⟨columns, hcolumns, h⟩ := bind_eq_ok.mp h
    exact ⟨converted, target, q, columns, hconverted, htarget, required_eq_ok.mp hq, hcolumns,
      (pure_eq_ok.mp h).symm⟩
  · rintro ⟨converted, target, q, columns, hconverted, htarget, hq, hcolumns, rfl⟩
    rw [hconverted]
    show (arrayTarget name converted >>= _) = _
    rw [htarget]
    show (r.required >>= _) = _
    rw [required_eq_ok.mpr hq]
    show (r.columnsOf (withArray q target converted) >>= _) = _
    rw [hcolumns]
    rfl

/-! ## Filters, paging and order -/

theorem withFilter_paged (q : Query) (limit offset : Option Nat) (filter : Option Expr) :
    ((q.withLimit limit).withOffset offset).withFilter filter
      = ((q.withFilter filter).withLimit limit).withOffset offset := by
  obtain ⟨recursive, tables, body, order, _, _, _, fetch, locks, form⟩ := q
  cases body <;> rfl

/-- Filtering and paging a query do not get in each other's way. -/
theorem filtered_paged (q : Query) (limit offset : Option Nat) (params : List Parameter) :
    filtered ((q.withLimit limit).withOffset offset) params
      = (fun working : Query => (working.withLimit limit).withOffset offset)
          <$> filtered q params := by
  -- The filter that is merged with is looked up in the `SELECT`, which paging leaves alone.
  have hfilter : ((q.withLimit limit).withOffset offset).filter? = q.filter? := rfl
  unfold filtered
  rw [hfilter]
  by_cases hnone : params.isEmpty = true
  · rw [if_pos hnone, if_pos hnone]
    rfl
  · rw [if_neg hnone, if_neg hnone]
    dsimp only
    cases liftFault (liftFilter (mergedFilter q.filter?
      (" AND ".intercalate (params.map Parameter.sql)))) with
    | error e => rfl
    | ok filter => exact congrArg Except.ok (withFilter_paged q limit offset filter)

/-- What is left to do once it is known which query parameters are added to. -/
theorem work_eq_ok {q : Query} : (do
      let working ← filtered ((q.withLimit r.limit).withOffset r.offset) params
      pure { r with working := some working } : Except Error Report) = .ok next
    ↔ ∃ working, filtered q params = .ok working
      ∧ next = { r with working := some ((working.withLimit r.limit).withOffset r.offset) } := by
  rw [filtered_paged]
  constructor
  · intro h
    obtain ⟨paged, hpaged, h⟩ := bind_eq_ok.mp h
    obtain ⟨working, hworking, rfl⟩ := map_eq_ok.mp hpaged
    exact ⟨working, hworking, (pure_eq_ok.mp h).symm⟩
  · rintro ⟨working, hworking, rfl⟩
    rw [hworking]
    rfl

theorem applyParams_eq_ok : r.applyParams params = .ok next ↔ ∃ q working,
    r.filterBase params = .ok q ∧ filtered q params = .ok working
      ∧ next = { r with working := some ((working.withLimit r.limit).withOffset r.offset) } := by
  unfold applyParams
  rw [Change.result_of_outcome (Change.outcome_applyParams params r), bind_eq_ok]
  refine exists_congr fun q => ?_
  rw [work_eq_ok, exists_and_left]

theorem replaceFilter_eq_ok : r.replaceFilter params = .ok next ↔ ∃ q working,
    r.baseline = some q ∧ filtered (q.withFilter none) params = .ok working
      ∧ next = { r with working := some ((working.withLimit r.limit).withOffset r.offset) } := by
  unfold replaceFilter
  rw [Change.result_of_outcome (Change.outcome_replaceFilter params r), bind_eq_ok]
  refine exists_congr fun q => ?_
  rw [work_eq_ok, required_eq_ok, exists_and_left]

theorem setOrder_eq_ok {keys : Option String} : r.setOrder keys = .ok next ↔
    ∃ order, readOrder keys = .ok order ∧ next = { r with order } := by
  unfold setOrder
  rw [Change.result_of_outcome (Change.outcome_setOrder keys r), bind_eq_ok]
  refine exists_congr fun order => ?_
  rw [pure_eq_ok, eq_comm (a := next)]

/-! ## Saved forms -/

theorem load_eq_ok {saved : Saved.Report} : r.load saved = .ok next ↔ ∃ settings restored,
    savedSettings saved = .ok settings ∧ Report.restored r.columns saved = .ok restored
      ∧ next = { restored with
          settings
          caption := saved.caption
          limit := saved.limit
          offset := saved.offset } := by
  unfold load
  rw [Change.result_of_outcome (Change.outcome_load saved r), bind_eq_ok]
  refine exists_congr fun settings => ?_
  rw [bind_eq_ok, ← exists_and_left]
  refine exists_congr fun restored => ?_
  rw [pure_eq_ok, eq_comm (a := next)]

end Report

end QueryReport
