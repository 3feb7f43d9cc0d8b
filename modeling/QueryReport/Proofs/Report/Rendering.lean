import QueryReport.Proofs.Report.Adoption
import QueryReport.Proofs.Report.Literal

/-!
# `QueryReport.Proofs.Report.Rendering`: adopting the query that a report runs

The query that a report runs is made of parts that are held apart: the working copy, or else the
baseline, with the order of the report.  If its text is read as that query again, any report adopts
the text and then runs the same query (`rendered_text_adopted`), however the first report came
about.

* The targets are those of the report's columns; that is the invariant of
  `QueryReport.Proofs.Report.Agreement`.
* The paging is literal.  Of the baseline this is known from the text it was adopted from.  The
  working copy is paged by the report (`counted_paged`), so what has to be known is that the counts
  of the report fit into 64 bits each time it is filtered: `Attained` are the reports that come
  about in this way, and `Attained.working_counted` is the invariant.
-/

set_option autoImplicit false

namespace QueryReport

open Sql QueryReport.Filter

namespace Report

/-- The paging of the report consists of numbers of 64 bits. -/
structure Fits (r : Report) : Prop where
  limit : ∀ n ∈ r.limit, n < 2 ^ 64
  offset : ∀ n ∈ r.offset, n < 2 ^ 64

/-- The reports that steps lead to from the empty report, if paging is always assigned and restored
with numbers of 64 bits. -/
inductive Attained : Report → Prop
  | empty : Attained {}
  | step {r next : Report} : Attained r → Step r next → next.Fits → Attained next

/-- The paging of the working copy is literal. -/
def WorkingCounted (r : Report) : Prop := ∀ q, r.working = some q → Counted q

variable {r next : Report} {q : Query}

theorem Attained.reachable (h : Attained r) : Reachable r := by
  induction h with
  | empty => exact .empty
  | step _ hstep _ ih => exact ih.step hstep

theorem Attained.fits (h : Attained r) : r.Fits := by
  cases h with
  | empty => exact ⟨nofun, nofun⟩
  | step _ _ hfits => exact hfits

/-! ## Literal paging -/

theorem counted_of_states {limit offset : Option Nat} (hlimit : q.limit.States limit)
    (hoffset : q.offset.States offset) : Counted q :=
  ⟨⟨limit, statedCount_eq_ok.mpr hlimit⟩, offset, statedCount_eq_ok.mpr hoffset⟩

/-- A query that the report has paged. -/
theorem counted_paged (hr : r.Fits) (q : Query) :
    Counted ((q.withLimit r.limit).withOffset r.offset) :=
  counted_of_states (states_countClause hr.limit) (states_countClause hr.offset)

theorem workingCounted_of_none (h : r.working = none) : r.WorkingCounted := by
  intro q hq
  rw [h] at hq
  cases hq

theorem workingCounted_removeColumns {names : List String} (hr : r.WorkingCounted)
    (h : r.removeColumns names = .ok next) : next.WorkingCounted := by
  obtain ⟨removed, _, _, _, rfl⟩ := removeColumns_eq_ok.mp h
  intro q hq
  obtain ⟨working, hworking, rfl⟩ := Option.map_eq_some_iff.mp hq
  exact List.foldlRecOn removed withoutColumn (hr working hworking)
    fun _ hq c _ => counted_withoutColumn hq c

theorem workingCounted_applyParams {params : List Parameter} (hr : r.Fits)
    (h : r.applyParams params = .ok next) : next.WorkingCounted := by
  obtain ⟨_, working, _, _, rfl⟩ := applyParams_eq_ok.mp h
  rintro _ ⟨⟩
  exact counted_paged hr working

theorem workingCounted_replaceFilter {params : List Parameter} (hr : r.Fits)
    (h : r.replaceFilter params = .ok next) : next.WorkingCounted := by
  obtain ⟨_, working, _, _, rfl⟩ := replaceFilter_eq_ok.mp h
  rintro _ ⟨⟩
  exact counted_paged hr working

/-! ## Restored reports -/

theorem restoreColumns_working {saved : List (String × Attributes)}
    (h : r.restoreColumns saved = .ok next) : next.working = r.working := by
  induction saved generalizing r with
  | nil =>
      cases h
      rfl
  | cons entry saved ih =>
      unfold restoreColumns at h
      split at h
      · cases h
      · have hkept := ih h
        exact hkept

theorem restoreDefinitions_working {saved : List Definition}
    (h : r.restoreDefinitions saved = .ok next) : next.working = r.working := by
  induction saved generalizing r with
  | nil =>
      cases h
      rfl
  | cons definition saved ih =>
      obtain ⟨d, _, h⟩ := bind_eq_ok.mp h
      obtain ⟨added, hadded, h⟩ := bind_eq_ok.mp h
      obtain ⟨-, rfl⟩ := addDefinition_eq_ok hadded
      have hkept := ih h
      exact hkept

/-- Nothing is filtered in a report that has just been restored. -/
theorem load_working {saved : Saved.Report} (h : r.load saved = .ok next) :
    next.working = none := by
  obtain ⟨settings, restored, _, hrestored, rfl⟩ := load_eq_ok.mp h
  obtain ⟨queried, hqueried, hrestored⟩ := bind_eq_ok.mp hrestored
  obtain ⟨overlaid, hoverlaid, hrestored⟩ := bind_eq_ok.mp hrestored
  have hnone : queried.working = none := by
    unfold restoredQuery at hqueried
    split at hqueried
    · cases hqueried
      rfl
    · obtain ⟨_, _, _, _, _, _, _, _, rfl⟩ := setSql_eq_ok.mp hqueried
      rfl
  have hkept := restoreDefinitions_working hrestored
  rw [restoreColumns_working hoverlaid, hnone] at hkept
  exact hkept

/-! ## Every run -/

theorem workingCounted_result {op : Operation} (hr : r.WorkingCounted) (hfits : r.Fits)
    (h : op.change.result r = .ok next) : next.WorkingCounted := by
  cases op with
  -- An operation keeps the working query, drops it, or pages it with the counts of the report.
  | setSql text =>
      obtain ⟨_, _, _, _, _, _, _, _, rfl⟩ := setSql_eq_ok.mp h
      exact workingCounted_of_none rfl
  | removeColumns names => exact workingCounted_removeColumns hr h
  | convertToArray name names =>
      obtain ⟨_, _, _, _, _, _, _, _, rfl⟩ := convertToArray_eq_ok.mp h
      exact workingCounted_of_none rfl
  | addDefinition d =>
      obtain ⟨-, rfl⟩ := addDefinition_eq_ok h
      exact hr
  | applyParams params => exact workingCounted_applyParams hfits h
  | replaceFilter params => exact workingCounted_replaceFilter hfits h
  | setOrder text =>
      obtain ⟨_, _, rfl⟩ := setOrder_eq_ok.mp h
      exact hr
  | load saved => exact workingCounted_of_none (load_working h)

theorem Step.workingCounted (hr : r.WorkingCounted) (hfits : r.Fits) (h : Step r next) :
    next.WorkingCounted := by
  cases h with
  | call op =>
      rw [Operation.outcome_change]
      cases hresult : op.change.result r with
      | ok changed => exact workingCounted_result hr hfits hresult
      | error e => exact hr
  | _ => exact hr

theorem Attained.working_counted (h : Attained r) : r.WorkingCounted := by
  induction h with
  | empty => exact workingCounted_of_none rfl
  | step hr hstep _ ih => exact hstep.workingCounted ih hr.fits

/-! ## The query to run -/

theorem runnable_eq_ok : r.runnable = .ok q ↔ ∃ baseline, r.baseline = some baseline
    ∧ q = (r.working.getD baseline).withOrder r.order := by
  unfold runnable
  rw [bind_eq_ok]
  refine exists_congr fun baseline => ?_
  rw [required_eq_ok, pure_eq_ok, eq_comm (a := q)]

theorem runnableSql_of_runnable (h : r.runnable = .ok q) : r.runnableSql = .ok q.text := by
  unfold runnableSql
  rw [h]
  rfl

/-- A query in the order that it has anyway. -/
theorem withOrder_statedOrder (q : Query) : q.withOrder (statedOrder q) = q := by
  unfold Query.withOrder
  rw [statedOrder_getD, OrderKeys.ofList_toList]
  cases q
  rfl

/-- The query to run has the targets of the columns and a literal paging. -/
theorem runnable_attained (hr : Attained r) (hq : r.runnable = .ok q) :
    q.Lists (r.columns.map Column.source) ∧ Counted q := by
  obtain ⟨baseline, hbaseline, rfl⟩ := runnable_eq_ok.mp hq
  have hconsistent := hr.reachable.consistent
  cases hworking : r.working with
  | none =>
      have hcounted := hr.reachable.replayable.counted baseline hbaseline
      exact ⟨hconsistent.baseline_lists baseline hbaseline, hcounted.limit, hcounted.offset⟩
  | some working =>
      have hcounted := hr.working_counted working hworking
      exact ⟨hconsistent.working_lists working hworking, hcounted.limit, hcounted.offset⟩

/-- What a report runs can be adopted by any report, if it is read as what it was written from.  The
columns have the same names, paging and order are those of the query, and it is run again. -/
theorem rendered_text_adopted (hr : Attained r) (hsql : r.sql.isSome) (other : Report) :
    ∃ q, r.runnable = .ok q ∧ r.runnableSql = .ok q.text
      ∧ (parse q.text = .ok [.query q] → ∃ adopted, other.setSql q.text = .ok adopted
        ∧ adopted.columns.map Column.name = r.columns.map Column.name
        ∧ q.limit.States adopted.limit ∧ q.offset.States adopted.offset
        ∧ adopted.order.getD [] = q.order.toList ∧ (adopted.order = none ↔ q.order = .nil)
        ∧ adopted.runnable = .ok q ∧ adopted.runnableSql = .ok q.text) := by
  obtain ⟨baseline, hbaseline⟩ :=
    Option.isSome_iff_exists.mp (hr.reachable.consistent.text_iff_baseline.mp hsql)
  have hq : r.runnable = .ok ((r.working.getD baseline).withOrder r.order) :=
    runnable_eq_ok.mpr ⟨baseline, hbaseline, rfl⟩
  generalize (r.working.getD baseline).withOrder r.order = q at hq
  refine ⟨q, hq, runnableSql_of_runnable hq, fun hread => ?_⟩
  obtain ⟨hlists, ⟨limit, hlimit⟩, offset, hoffset⟩ := runnable_attained hr hq
  have hselect : selectOf q.text = .ok q := selectOf_eq_ok.mpr ⟨hread, hlists.isSelect⟩
  have hcolumns := columnsOf_lists hr.reachable hlists other
  -- The report that is adopted is known field by field.
  let adopted : Report := { other with
    limit, offset
    columns := rebuilt other.columnMatch other.columns 1 r.columns
    sql := some q.text
    baseline := some q
    working := none
    order := statedOrder q }
  have hadopted : other.setSql q.text = .ok adopted :=
    setSql_eq_ok.mpr ⟨q, _, limit, offset, hselect, hcolumns, hlimit, hoffset, rfl⟩
  have hrunnable : adopted.runnable = .ok q :=
    runnable_eq_ok.mpr ⟨q, rfl, (withOrder_statedOrder q).symm⟩
  exact ⟨adopted, hadopted, rebuilt_names r.columns, statedCount_eq_ok.mp hlimit,
    statedCount_eq_ok.mp hoffset, statedOrder_getD q, statedOrder_eq_none, hrunnable,
    runnableSql_of_runnable hrunnable⟩

/-- A query that was paged, filtered, sorted and cut down to a column is rendered once and for
all. -/
theorem edited_report_rendered : ∃ r adopted, Attained r
    ∧ r.runnableSql = .ok "SELECT id FROM t WHERE a = 'x' ORDER BY id DESC LIMIT 5"
    ∧ ({} : Report).setSql "SELECT id FROM t WHERE a = 'x' ORDER BY id DESC LIMIT 5" = .ok adopted
    ∧ adopted.columns.map Column.name = ["id"]
    ∧ adopted.runnableSql = .ok "SELECT id FROM t WHERE a = 'x' ORDER BY id DESC LIMIT 5" := by
  let after (r : Report) (op : Operation) : Report := (op.change.outcome r).2
  let adopted : Report := ({} : Report).adopting "SELECT id, name FROM t ORDER BY name" rfl
  let paged : Report := { adopted with limit := some 5 }
  let filtered := after paged (.applyParams [⟨"a", ⟨.eq, [.text "x"], .string⟩, false⟩])
  let sorted := after filtered (.setOrder (some "id DESC"))
  let r := after sorted (.removeColumns ["name"])
  -- The counts have to fit the machine after each step.
  have hfits : ∀ r : Report, r.limit = some 5 ∧ r.offset = none → r.Fits := by
    rintro r ⟨hlimit, hoffset⟩
    refine ⟨?_, ?_⟩
    · rw [hlimit]
      rintro _ ⟨⟩
      decide
    · rw [hoffset]
      exact nofun
  obtain ⟨hunpaged, hpaged, hfiltered, hsorted, hremoved⟩ :
      (adopted.limit = none ∧ adopted.offset = none)
        ∧ (paged.limit = some 5 ∧ paged.offset = none)
        ∧ (filtered.limit = some 5 ∧ filtered.offset = none)
        ∧ (sorted.limit = some 5 ∧ sorted.offset = none)
        ∧ r.limit = some 5 ∧ r.offset = none := by decide +kernel
  have hadopted : Attained adopted :=
    Attained.empty.step (.adopting rfl) ⟨by simp [hunpaged.1], by simp [hunpaged.2]⟩
  have hr : Attained r := (((hadopted.step (.limit (some 5)) (hfits _ hpaged)).step (.call _)
    (hfits _ hfiltered)).step (.call _) (hfits _ hsorted)).step (.call _) (hfits _ hremoved)
  obtain ⟨hsql, hnames, htext⟩ : r.sql.isSome ∧ r.columns.map Column.name = ["id"]
      ∧ r.runnableSql = .ok "SELECT id FROM t WHERE a = 'x' ORDER BY id DESC LIMIT 5" := by
    decide +kernel
  obtain ⟨q, hrunnable, hread⟩ : ∃ q, r.runnable = .ok q
      ∧ parse "SELECT id FROM t WHERE a = 'x' ORDER BY id DESC LIMIT 5" = .ok [.query q] := by
    -- The text is read by evaluation, and what is read is what the report runs.
    rw [parse_literal rfl]
    exact exists_ok (by decide +kernel)
  obtain ⟨q', hq', hrendered, hadopt⟩ := rendered_text_adopted hr hsql {}
  obtain rfl : q = q' := Except.ok.inj (hrunnable.symm.trans hq')
  rw [htext, Except.ok.injEq] at hrendered
  rw [← hrendered] at hadopt
  obtain ⟨adopted, hadopted, hsame, -, -, -, -, -, hagain⟩ := hadopt hread
  exact ⟨r, adopted, hr, htext, hadopted, hsame.trans hnames, hagain⟩

end Report

end QueryReport
