import QueryReport.Proofs.Report.Literal
import QueryReport.Proofs.Report.Rendering
import QueryReport.Proofs.Report.Viewing

/-!
# `QueryReport.Proofs.Report.RowWindow`: which rows a filtered report runs

Whenever parameters are applied, the limit and the offset of the report become the `LIMIT` and the
`OFFSET` of the query to run.  A query may limit its rows in other ways as well: with `FETCH` behind
its paging, and with `TOP` in front of its targets.  These are `Query.rowLimits`.  No operation
touches them, so they are in the query to run if they are in the baseline.

* `Report.KeepsRowLimits` is the invariant: the working copy has the row limits of the baseline.
  `Step.keepsRowLimits` is one step, `Reachable.keepsRowLimits` a whole run.
* `applied_row_window` is the result.
* `fetch_stays_behind_limit`: a `FETCH` stays, so that fewer rows come than the report says.
-/

set_option autoImplicit false

namespace QueryReport

open Sql QueryReport.Filter

namespace Sql.Query

/-! ## Row limits -/

/-- What limits the rows of a query besides `LIMIT` and `OFFSET`: its `FETCH`, and the `TOP` of its
`SELECT` with the count. -/
def rowLimits (q : Query) : Option Fetch × Option (Top × MaybeExpr) :=
  (q.fetch, q.select?.map fun s => (s.top, s.topCount))

/-- Nothing but `LIMIT` and `OFFSET` limits the rows of the query. -/
def OnlyPaged (q : Query) : Prop :=
  q.rowLimits.1 = none ∧ ∀ top ∈ q.rowLimits.2, top = (.unstated, .none)

instance (q : Query) : Decidable q.OnlyPaged :=
  inferInstanceAs (Decidable (q.rowLimits.1 = none
    ∧ ∀ top ∈ q.rowLimits.2, top = (Top.unstated, MaybeExpr.none)))

/-- A change of the `SELECT` that leaves its `TOP` leaves the row limits. -/
theorem rowLimits_mapSelect (q : Query) {f : Select → Select}
    (hf : ∀ s : Select, (f s).top = s.top ∧ (f s).topCount = s.topCount) :
    (q.mapSelect f).rowLimits = q.rowLimits := by
  have hfetch : (q.mapSelect f).fetch = q.fetch := by
    unfold mapSelect
    split <;> rfl
  unfold rowLimits
  rw [hfetch, select?_mapSelect, Option.map_map]
  have htop : ((fun s : Select => (s.top, s.topCount)) ∘ f) = fun s => (s.top, s.topCount) := by
    funext s
    exact Prod.ext (hf s).1 (hf s).2
  rw [htop]

theorem rowLimits_withFilter (q : Query) (filter : Option Expr) :
    (q.withFilter filter).rowLimits = q.rowLimits :=
  q.rowLimits_mapSelect fun _ => ⟨rfl, rfl⟩

end Sql.Query

namespace Report

variable {r next : Report} {q base working : Query} {params : List Parameter}

/-! ## The invariant -/

/-- The working copy limits its rows as the baseline does, apart from its paging. -/
def KeepsRowLimits (r : Report) : Prop :=
  ∀ q working, r.baseline = some q → r.working = some working → working.rowLimits = q.rowLimits

theorem keepsRowLimits_of_none (h : r.working = none) : r.KeepsRowLimits := by
  intro q working _ hworking
  rw [h] at hworking
  cases hworking

theorem rowLimits_withoutColumn (q : Query) (c : Column) :
    (withoutColumn q c).rowLimits = q.rowLimits := by
  have htarget : (q.withoutTarget c.source).rowLimits = q.rowLimits :=
    q.rowLimits_mapSelect fun _ => ⟨rfl, rfl⟩
  unfold withoutColumn
  cases c.path with
  | none => exact htarget
  | some path =>
      -- The order is no limit of this kind, and the grouping is another part of the `SELECT`.
      let sorted := (q.withoutTarget c.source).withoutSortKey path
      have hgroup : (sorted.withoutGroupKey path).rowLimits = sorted.rowLimits :=
        Query.rowLimits_mapSelect _ fun _ => ⟨rfl, rfl⟩
      exact hgroup.trans htarget

theorem rowLimits_removed (removed : List Column) (q : Query) :
    (removed.foldl withoutColumn q).rowLimits = q.rowLimits :=
  List.foldlRecOn (motive := fun q' : Query => q'.rowLimits = q.rowLimits) removed withoutColumn
    rfl fun q' hq' c _ => (rowLimits_withoutColumn q' c).trans hq'

theorem keepsRowLimits_removeColumns {names : List String} (hr : r.KeepsRowLimits)
    (h : r.removeColumns names = .ok next) : next.KeepsRowLimits := by
  obtain ⟨removed, baseline, _, hbaseline, rfl⟩ := removeColumns_eq_ok.mp h
  rintro _ _ ⟨⟩ hworking
  obtain ⟨working, hbefore, rfl⟩ := Option.map_eq_some_iff.mp hworking
  -- The columns are taken out of both queries in the same way.
  rw [rowLimits_removed, rowLimits_removed]
  exact hr baseline working hbaseline hbefore

theorem rowLimits_filtered (h : filtered q params = .ok working) :
    working.rowLimits = q.rowLimits := by
  unfold filtered at h
  split at h
  · cases h
    rfl
  · obtain ⟨filter, _, h⟩ := bind_eq_ok.mp h
    cases h
    exact q.rowLimits_withFilter filter

/-- Parameters are added to the baseline or to the working copy. -/
theorem rowLimits_filterBase (hr : r.KeepsRowLimits) (hq : r.baseline = some q)
    (hbase : r.filterBase params = .ok base) : base.rowLimits = q.rowLimits := by
  cases params with
  | nil =>
      rw [filterBase_nil hq, Except.ok.injEq] at hbase
      subst hbase
      cases hworking : r.working with
      | none => rfl
      | some working => exact hr q working hq hworking
  | cons p ps =>
      rw [filterBase_cons, required_eq_ok, hq, Option.some.injEq] at hbase
      rw [hbase]

/-- What applying parameters does: the report gets a working copy with its paging, whose rows are
limited as those of the baseline are. -/
theorem working_of_applied (hr : r.KeepsRowLimits) (hq : r.baseline = some q)
    (h : r.applyParams params = .ok next ∨ r.replaceFilter params = .ok next) :
    ∃ working : Query, next = { r with
        working := some ((working.withLimit r.limit).withOffset r.offset) }
      ∧ working.rowLimits = q.rowLimits := by
  obtain h | h := h
  · obtain ⟨base, working, hbase, hworking, rfl⟩ := applyParams_eq_ok.mp h
    exact ⟨working, rfl, (rowLimits_filtered hworking).trans (rowLimits_filterBase hr hq hbase)⟩
  · obtain ⟨base, working, hbase, hworking, rfl⟩ := replaceFilter_eq_ok.mp h
    rw [hq, Option.some.injEq] at hbase
    subst hbase
    exact ⟨working, rfl, (rowLimits_filtered hworking).trans (q.rowLimits_withFilter none)⟩

theorem keepsRowLimits_applied (hr : r.KeepsRowLimits)
    (h : r.applyParams params = .ok next ∨ r.replaceFilter params = .ok next) :
    next.KeepsRowLimits := by
  have hbaseline : next.baseline = r.baseline := by
    obtain h | h := h
    · obtain ⟨_, _, _, _, rfl⟩ := applyParams_eq_ok.mp h
      rfl
    · obtain ⟨_, _, _, _, rfl⟩ := replaceFilter_eq_ok.mp h
      rfl
  intro q working hq hworking
  obtain ⟨filtered, rfl, hlimits⟩ := working_of_applied hr (hbaseline.symm.trans hq) h
  cases hworking
  exact hlimits

/-! ## Every run -/

theorem keepsRowLimits_result {op : Operation} (hr : r.KeepsRowLimits)
    (h : op.change.result r = .ok next) : next.KeepsRowLimits := by
  -- An operation drops the working copy, leaves both queries alone, or changes both alike.
  cases op with
  | setSql text =>
      obtain ⟨_, _, _, _, _, _, _, _, rfl⟩ := setSql_eq_ok.mp h
      exact keepsRowLimits_of_none rfl
  | removeColumns names => exact keepsRowLimits_removeColumns hr h
  | convertToArray name names =>
      obtain ⟨_, _, _, _, _, _, _, _, rfl⟩ := convertToArray_eq_ok.mp h
      exact keepsRowLimits_of_none rfl
  | addDefinition d =>
      obtain ⟨-, rfl⟩ := addDefinition_eq_ok h
      exact hr
  | applyParams params => exact keepsRowLimits_applied hr (.inl h)
  | replaceFilter params => exact keepsRowLimits_applied hr (.inr h)
  | setOrder text =>
      obtain ⟨_, _, rfl⟩ := setOrder_eq_ok.mp h
      exact hr
  | load saved => exact keepsRowLimits_of_none (load_working h)

theorem Step.keepsRowLimits (hr : r.KeepsRowLimits) (h : Step r next) : next.KeepsRowLimits := by
  cases h with
  | call op =>
      rw [Operation.outcome_change]
      cases hresult : op.change.result r with
      | ok changed => exact keepsRowLimits_result hr hresult
      | error e => exact hr
  | _ => exact hr

theorem Reachable.keepsRowLimits (h : Reachable r) : r.KeepsRowLimits := by
  induction h with
  | empty => exact keepsRowLimits_of_none rfl
  | step _ hstep ih => exact hstep.keepsRowLimits ih

/-! ## The row window -/

/-- Parameters are applied only to a report with a query. -/
theorem exists_baseline_of_applied (hr : Reachable r)
    (h : r.applyParams params = .ok next ∨ r.replaceFilter params = .ok next) :
    ∃ q, r.baseline = some q := by
  obtain h | h := h
  · obtain ⟨base, _, hbase, _⟩ := applyParams_eq_ok.mp h
    obtain ⟨q, hq, -⟩ := filterBase_lists hr.consistent hbase
    exact ⟨q, hq⟩
  · obtain ⟨q, _, hq, _⟩ := replaceFilter_eq_ok.mp h
    exact ⟨q, hq⟩

/-- After parameters were applied, the query to run has a `LIMIT` and an `OFFSET` exactly if the
report states them and they are not zero, and with the counts of the report.  Every other limit on
its rows is that of the baseline, so there is none exactly if the baseline has none. -/
theorem applied_row_window (hr : Reachable r)
    (h : r.applyParams params = .ok next ∨ r.replaceFilter params = .ok next) :
    ∃ q baseline, next.runnable = .ok q ∧ next.runnableSql = .ok q.text
      ∧ r.baseline = some baseline ∧ next.limit = r.limit ∧ next.offset = r.offset
      ∧ (∀ n, q.limit = .some (.ofCount n) ↔ r.limit = some n ∧ 0 < n)
      ∧ (q.limit = .none ↔ ∀ n ∈ r.limit, n = 0)
      ∧ (∀ n, q.offset = .some (.ofCount n) ↔ r.offset = some n ∧ 0 < n)
      ∧ (q.offset = .none ↔ ∀ n ∈ r.offset, n = 0) ∧ q.offsetWord = .unstated
      ∧ q.rowLimits = baseline.rowLimits ∧ (q.OnlyPaged ↔ baseline.OnlyPaged) := by
  obtain ⟨baseline, hbaseline⟩ := exists_baseline_of_applied hr h
  obtain ⟨working, rfl, hlimits⟩ := working_of_applied hr.keepsRowLimits hbaseline h
  let paged := (working.withLimit r.limit).withOffset r.offset
  have hrunnable : ({ r with working := some paged } : Report).runnable
      = .ok (paged.withOrder r.order) :=
    runnable_eq_ok.mpr ⟨baseline, hbaseline, rfl⟩
  -- Neither paging nor the order is a limit of this kind.
  have hkept : (paged.withOrder r.order).rowLimits = baseline.rowLimits := hlimits
  refine ⟨_, baseline, hrunnable, runnableSql_of_runnable hrunnable, hbaseline, rfl, rfl,
    fun n => Query.countClause_eq_some, Query.countClause_eq_none,
    fun n => Query.countClause_eq_some, Query.countClause_eq_none, rfl, hkept, ?_⟩
  unfold Query.OnlyPaged
  rw [hkept]

/-- A limit that was assigned takes the place of the one in the text, and an offset of zero is
none. -/
theorem assigned_limit_in_window : ∃ (r next : Report) (q : Query), Reachable r
    ∧ r.limit = some 10 ∧ r.offset = some 0
    ∧ r.replaceFilter [⟨"a", ⟨.eq, [.text "x"], .string⟩, false⟩] = .ok next
    ∧ next.runnableSql = .ok "SELECT id FROM t WHERE a = 'x' LIMIT 10"
    ∧ next.runnable = .ok q ∧ q.limit = .some (.ofCount 10) ∧ q.offset = .none ∧ q.OnlyPaged := by
  let params : List Parameter := [⟨"a", ⟨.eq, [.text "x"], .string⟩, false⟩]
  let adopted : Report :=
    ({} : Report).adopting "SELECT id FROM t WHERE a = 1 LIMIT 3 OFFSET 7" rfl
  let r : Report := { adopted with limit := some 10, offset := some 0 }
  let next : Report := ((Change.replaceFilter params).outcome r).2
  have hadopted : Reachable adopted := Reachable.empty.adopting rfl
  have hr : Reachable r := (hadopted.step (.limit (some 10))).step (.offset (some 0))
  obtain ⟨hnext, hsql, hpaged⟩ : r.replaceFilter params = .ok next
      ∧ next.runnableSql = .ok "SELECT id FROM t WHERE a = 'x' LIMIT 10"
      ∧ ∀ baseline ∈ r.baseline, baseline.OnlyPaged := by decide +kernel
  obtain ⟨q, baseline, hq, -, hbaseline, -, -, hlimit, -, -, hoffset, -, -, honly⟩ :=
    applied_row_window hr (.inr hnext)
  refine ⟨r, next, q, hr, rfl, rfl, hnext, hsql, hq, (hlimit 10).mpr ⟨rfl, by decide⟩, ?_,
    honly.mpr (hpaged baseline hbaseline)⟩
  exact hoffset.mpr fun n hn => (Option.some.inj hn).symm

/-- The count of rows to fetch stays behind the limit of the report. -/
theorem fetch_stays_behind_limit : ∃ (adopted next : Report) (q : Query),
    ({} : Report).setSql "SELECT id FROM t FETCH FIRST 5 ROWS ONLY" = .ok adopted
      ∧ ({ adopted with limit := some 10 } : Report).applyParams [] = .ok next
      ∧ next.runnable = .ok q ∧ q.limit = .some (.ofCount 10) ∧ ¬ q.OnlyPaged
      ∧ next.runnableSql = .ok "SELECT id FROM t LIMIT 10 FETCH FIRST 5 ROWS ONLY" := by
  let adopted : Report :=
    ({} : Report).adopting "SELECT id FROM t FETCH FIRST 5 ROWS ONLY" rfl
  let next : Report := ((Change.applyParams []).outcome { adopted with limit := some 10 }).2
  obtain ⟨hadopted, hnext, hsql⟩ : adopted.sql ≠ none
      ∧ ({ adopted with limit := some 10 } : Report).applyParams [] = .ok next
      ∧ next.runnableSql = .ok "SELECT id FROM t LIMIT 10 FETCH FIRST 5 ROWS ONLY" := by
    decide +kernel
  obtain ⟨q, hq, hlimit, hfetch⟩ : ∃ q, next.runnable = .ok q ∧ q.limit = .some (.ofCount 10)
      ∧ ¬ q.OnlyPaged :=
    exists_ok (by decide +kernel)
  exact ⟨adopted, next, q, setSql_adopting rfl rfl hadopted, hnext, hq, hlimit, hfetch, hsql⟩

end Report

end QueryReport
