import QueryReport.Proofs.Report.Literal
import QueryReport.Proofs.Report.Replay
import QueryReport.Proofs.Sql.Reading.Selected

/-!
# `QueryReport.Proofs.Report.Surgery`: saving a query that was edited

Removing columns and putting an array in their place edit the query itself and write its text anew.
What was edited can be saved and adopted again as long as a column is left, if the text is read as
the query it was written from (`edited_text_accepted`).  A report may lose its last column, but no
text is read as a `SELECT` without targets, so its text is refused
(`text_without_columns_refused`).
-/

set_option autoImplicit false

namespace QueryReport

open Sql

namespace Report

variable {r next : Report} {q : Query} {name : String} {names : List String}

/-- An edit of the query leaves the baseline and its text. -/
theorem sql_of_edit
    (h : r.removeColumns names = .ok next ∨ r.convertToArray name names = .ok next) :
    ∃ q, next.baseline = some q ∧ next.sql = some q.text := by
  obtain h | h := h
  · obtain ⟨_, _, _, _, rfl⟩ := removeColumns_eq_ok.mp h
    exact ⟨_, rfl, rfl⟩
  · obtain ⟨_, _, _, _, _, _, _, _, rfl⟩ := convertToArray_eq_ok.mp h
    exact ⟨_, rfl, rfl⟩

theorem reachable_edit (hr : Reachable r)
    (h : r.removeColumns names = .ok next ∨ r.convertToArray name names = .ok next) :
    Reachable next := by
  obtain h | h := h
  · have hchange : (Operation.removeColumns names).change.result r = .ok next := h
    exact hr.result hchange
  · have hchange : (Operation.convertToArray name names).change.result r = .ok next := h
    exact hr.result hchange

/-- The array that takes the place of columns is a column. -/
theorem convertToArray_columns (hr : Reachable r) (h : r.convertToArray name names = .ok next) :
    next.columns ≠ [] := by
  obtain ⟨converted, target, q, columns, _, _, hq, hcolumns, rfl⟩ := convertToArray_eq_ok.mp h
  have hselect := lists_withArray (hr.consistent.baseline_lists q hq) target converted
  unfold withArray Query.withLeadingTarget at hselect
  rw [Query.select?_mapSelect, Option.isSome_map] at hselect
  -- The array is put in front, so there is a target whatever was taken out.
  have htargets := (Query.lists_withLeadingTarget (Query.lists_targets hselect) target).targets_eq
  rintro rfl
  exact List.cons_ne_nil _ _ (htargets.symm.trans (buildColumns_sources hcolumns).symm)

/-- A query that a text is read as has targets if it is a `SELECT` at all. -/
theorem targets_of_parse {text : String} (hparse : parse text = .ok [.query q])
    (hselect : q.select?.isSome) : q.targets ≠ [] := by
  have hbody : q.body.Selects := selects_of_parse hparse (.query q) List.mem_cons_self
  unfold Query.select? at hselect
  unfold Query.targets Query.select?
  split at hselect
  case h_1 s hs =>
      rw [hs] at hbody
      exact hbody
  case h_2 => cases hselect

/-- Only a text that is read as a `SELECT` with targets is adopted. -/
theorem columns_of_setSql {text : String} (h : r.setSql text = .ok next) : next.columns ≠ [] := by
  obtain ⟨q, columns, _, _, hq, hcolumns, _, _, rfl⟩ := setSql_eq_ok.mp h
  obtain ⟨hparse, hselect⟩ := selectOf_eq_ok.mp hq
  rintro rfl
  exact targets_of_parse hparse hselect (buildColumns_sources hcolumns).symm

/-- After columns were removed or put into an array, a new report adopts the text and has columns of
the same names in the same order exactly if the report has a column left.  The array is one. -/
theorem edited_text_accepted (hr : Reachable r)
    (h : r.removeColumns names = .ok next ∨ r.convertToArray name names = .ok next)
    (hread : ∀ q, next.baseline = some q → q.targets ≠ [] → parse q.text = .ok [.query q]) :
    ∃ text, next.sql = some text
      ∧ ((∃ adopted, ({} : Report).setSql text = .ok adopted
          ∧ adopted.columns.map Column.name = next.columns.map Column.name) ↔ next.columns ≠ [])
      ∧ (r.convertToArray name names = .ok next → next.columns ≠ []) := by
  have hnext := reachable_edit hr h
  obtain ⟨q, hq, hsql⟩ := sql_of_edit h
  have hlists := hnext.consistent.baseline_lists q hq
  refine ⟨q.text, hsql, ⟨?_, fun hsome => ?_⟩, convertToArray_columns hr⟩
  -- An adopted text has columns, and here their names are those of the report.
  · rintro ⟨adopted, hadopted, hnames⟩ hnone
    rw [hnone, List.map_nil, List.map_eq_nil_iff] at hnames
    exact columns_of_setSql hadopted hnames
  -- The report can come about, so any report adopts the text of its baseline.
  · have htargets : q.targets ≠ [] := by
      rw [hlists.targets_eq]
      exact fun hnil => hsome (List.map_eq_nil_iff.mp hnil)
    have hselect := selectOf_eq_ok.mpr ⟨hread q hq htargets, hlists.isSelect⟩
    obtain ⟨limit, offset, hreplay⟩ := setSql_replay hnext hq hselect {}
    exact ⟨_, hreplay, rebuilt_names next.columns⟩

/-- A query that was grouped and sorted by a column, without it. -/
theorem shortened_text_accepted : ∃ adopted,
    ({} : Report).setSql "SELECT name FROM t GROUP BY name" = .ok adopted
      ∧ adopted.columns.map Column.name = ["name"] := by
  let r : Report :=
    ({} : Report).adopting "SELECT id, name FROM t GROUP BY id, name ORDER BY id" rfl
  let next : Report := ((Change.removeColumns ["id"]).outcome r).2
  have hr : Reachable r := Reachable.empty.adopting rfl
  have hremoved : r.removeColumns ["id"] = .ok next ∨ r.convertToArray "" ["id"] = .ok next :=
    .inl (by decide +kernel)
  have hread : ∀ q ∈ next.baseline, parse q.text = .ok [.query q] := by decide +kernel
  have hsql : next.sql = some "SELECT name FROM t GROUP BY name" := by decide +kernel
  have hnames : next.columns.map Column.name = ["name"] := by decide +kernel
  obtain ⟨written, hwritten, haccepted, -⟩ :=
    edited_text_accepted hr hremoved fun q hq _ => hread q hq
  cases hsql.symm.trans hwritten
  rw [hnames] at haccepted
  refine haccepted.mpr fun hnone => ?_
  rw [hnone] at hnames
  cases hnames

/-- The last column is removed without objection, and what is left is no query. -/
theorem text_without_columns_refused : ∃ next adopted : Report,
    ({} : Report).setSql "SELECT id FROM t" = .ok adopted
      ∧ adopted.removeColumns ["id"] = .ok next ∧ next.sql = some "SELECT  FROM t"
      ∧ ∀ again, ({} : Report).setSql "SELECT  FROM t" ≠ .ok again := by
  have hrefused : (({} : Report).setSql "SELECT  FROM t").toOption = none := by decide +kernel
  let adopted : Report := ((Change.setSql "SELECT id FROM t").outcome {}).2
  let next : Report := ((Change.removeColumns ["id"]).outcome adopted).2
  refine ⟨next, adopted, by decide +kernel, by decide +kernel, by decide +kernel, ?_⟩
  intro again hagain
  rw [hagain] at hrefused
  cases hrefused

end Report

end QueryReport
