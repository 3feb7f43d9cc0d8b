import QueryReport.Proofs.Report.Literal
import QueryReport.Proofs.Report.Viewing
import QueryReport.Proofs.Sql.Counting

/-!
# `QueryReport.Proofs.Report.Counting`: the count does not depend on order and paging

The query that counts the rows of a report is made of the query to run without its order and paging,
`Report.counted`.  Two reports that agree on it are counted by the same text, or by none for the
same reason (`countSql_congr`).

Order and paging reach the query to run in different ways.  An order stays with the report until the
query is asked for.  A limit stays there until parameters are applied, and then it is in the working
copy, which may not have been there before.  `counted_view` says that each of these steps keeps
`counted`, and `count_unpaged` that any run of them does.
-/

set_option autoImplicit false

namespace QueryReport

open Sql QueryReport.Filter

namespace Report

variable {r next : Report} {q : Query} {s : Viewing}

/-- The query to run, without its order and paging. -/
def counted (r : Report) : Except Error Query := do
  let q ← r.required
  pure (r.working.getD q).unpaged

theorem countSql_eq (r : Report) : r.countSql = (do
    let q ← r.counted
    let counter ← liftFault q.countRows
    pure counter.text) := by
  unfold countSql counted runnable
  cases r.required with
  | error e => rfl
  | ok q =>
      -- `countRows` takes order and paging off first, so it makes no difference that they are off.
      rfl

/-- Reports that differ in order and paging only are counted alike. -/
theorem countSql_congr {other : Report} (h : r.counted = other.counted) :
    r.countSql = other.countSql := by
  rw [countSql_eq, countSql_eq, h]

theorem counted_of_baseline (hq : r.baseline = some q) :
    r.counted = .ok (r.working.getD q).unpaged := by
  rw [counted, required_eq_ok.mpr hq]
  rfl

/-- A working copy that is the query to run with other paging is counted like that query. -/
theorem counted_repaged (hbase : r.filterBase [] = .ok q) (limit offset : Option Nat) :
    counted { r with working := some ((q.withLimit limit).withOffset offset) } = r.counted := by
  cases hbaseline : r.baseline with
  | none =>
      -- Without a baseline there is nothing to count, whatever the working copy is.
      unfold counted required
      rw [hbaseline]
      rfl
  | some baseline =>
      rw [filterBase_nil hbaseline, Except.ok.injEq] at hbase
      rw [counted_of_baseline hbaseline, hbase]
      exact counted_of_baseline rfl

/-- A step that sets no filter is not seen in what is counted. -/
theorem counted_view (hs : s.refilter? = none) (r : Report) : (r.view s).counted = r.counted := by
  rw [view, outcome_viewing]
  cases hresult : s.change.result r with
  | error e => rfl
  | ok next =>
      -- A step that filters is excluded; the others change no more than order and paging.
      cases s with
      | applyParams params =>
          cases params with
          | nil =>
              obtain ⟨base, working, hbase, hworking, rfl⟩ := applyParams_eq_ok.mp hresult
              cases hworking
              exact counted_repaged hbase r.limit r.offset
          | cons p ps => cases hs
      | replaceFilter params => cases hs
      | setOrder text =>
          obtain ⟨order, -, rfl⟩ := setOrder_eq_ok.mp hresult
          rfl
      | setLimit limit =>
          cases hresult
          rfl
      | setOffset offset =>
          cases hresult
          rfl

theorem counted_viewed {steps : List Viewing} (hsteps : ∀ s ∈ steps, s.refilter? = none)
    (r : Report) : (r.viewed steps).counted = r.counted := by
  induction steps generalizing r with
  | nil => rfl
  | cons s steps ih =>
      rw [List.forall_mem_cons] at hsteps
      exact (ih hsteps.2 (r.view s)).trans (counted_view hsteps.1 r)

/-- Paging can be renewed at any time. -/
theorem exists_repaged (hq : r.baseline = some q) : ∃ next, r.applyParams [] = .ok next :=
  ⟨_, applyParams_eq_ok.mpr ⟨_, _, filterBase_nil hq, rfl, rfl⟩⟩

/-- Rows are counted the same, or fail to be, with any limit and offset that the query is refreshed
with, in any order, and after any run of such changes. -/
theorem count_unpaged (hr : Reachable r) (hsql : r.sql.isSome) :
    (∀ limit offset, ∃ next, ({ r with limit, offset } : Report).applyParams [] = .ok next
        ∧ next.countSql = r.countSql)
      ∧ (∀ text next, r.setOrder text = .ok next → next.countSql = r.countSql)
      ∧ ∀ steps : List Viewing, (∀ s ∈ steps, s.refilter? = none) →
        (r.viewed steps).countSql = r.countSql := by
  obtain ⟨q, hq⟩ := Option.isSome_iff_exists.mp (hr.consistent.text_iff_baseline.mp hsql)
  refine ⟨?_, ?_, ?_⟩
  · intro limit offset
    have hbaseline : ({ r with limit, offset } : Report).baseline = some q := hq
    obtain ⟨next, hnext⟩ := exists_repaged hbaseline
    refine ⟨next, hnext, countSql_congr ?_⟩
    obtain ⟨base, working, hbase, hworking, rfl⟩ := applyParams_eq_ok.mp hnext
    cases hworking
    exact counted_repaged (r := { r with limit, offset }) hbase limit offset
  · intro text next hnext
    obtain ⟨order, -, rfl⟩ := setOrder_eq_ok.mp hnext
    exact countSql_congr rfl
  · intro steps hsteps
    exact countSql_congr (counted_viewed hsteps r)

/-- A query that is counted from outside is counted by what its text between the parentheses is read
as. -/
theorem countSql_wrapped {s : Select} {text : String} (hq : r.runnable = .ok q)
    (hs : q.select? = some s) (hplain : s.isPlain = false)
    (htext : (countedFrom q.unpaged).text = text) :
    r.countSql = liftFault (Query.text <$> parseQuery text) := by
  unfold countSql
  rw [hq, ← htext]
  show (do let counter ← liftFault q.countRows; pure counter.text) = _
  rw [countRows_wrapped hs hplain]
  cases parseQuery (countedFrom q.unpaged).text <;> rfl

/-- A query that is counted from outside, filtered before its order and paging are changed. -/
theorem count_of_distinct : ∃ r, Reachable r ∧ r.sql.isSome
    ∧ r.countSql = .ok
      "SELECT count(*) FROM (SELECT DISTINCT city FROM t WHERE age = 3) AS counted_rows"
    ∧ (∃ next, ({ r with limit := some 10, offset := none } : Report).applyParams [] = .ok next
        ∧ next.countSql = r.countSql)
    ∧ (∃ next, r.setOrder (some "city DESC") = .ok next ∧ next.countSql = r.countSql)
    ∧ (r.viewed [.setOffset (some 4), .setOrder none, .applyParams []]).countSql
      = r.countSql := by
  let adopted : Report :=
    ({} : Report).adopting "SELECT DISTINCT city FROM t ORDER BY city LIMIT 3" rfl
  let params : List Parameter := [⟨"age", ⟨.eq, [.text "3"], .number⟩, false⟩]
  let r : Report := ((Change.applyParams params).outcome adopted).2
  let next : Report := ((Change.setOrder (some "city DESC")).outcome r).2
  have hr : Reachable r := (Reachable.empty.adopting rfl).step (.call (.applyParams params))
  obtain ⟨hsql, hnext⟩ : r.sql.isSome ∧ r.setOrder (some "city DESC") = .ok next := by
    decide +kernel
  obtain ⟨q, hq, s, hs, hplain, htext⟩ : ∃ q, r.runnable = .ok q ∧ ∃ s ∈ q.select?,
      s.isPlain = false ∧ (countedFrom q.unpaged).text
        = "SELECT count(*) FROM (SELECT DISTINCT city FROM t WHERE age = 3) AS counted_rows" :=
    exists_ok (by decide +kernel)
  -- The targets drop duplicates, so the query is counted from outside.
  have hcount : r.countSql = .ok
      "SELECT count(*) FROM (SELECT DISTINCT city FROM t WHERE age = 3) AS counted_rows" := by
    rw [countSql_wrapped hq hs hplain htext, parseQuery_literal rfl]
    decide +kernel
  obtain ⟨hpaged, hordered, hviewed⟩ := count_unpaged hr hsql
  have hsteps : ∀ s ∈ [Viewing.setOffset (some 4), .setOrder none, .applyParams []],
      s.refilter? = none := by
    simp [Viewing.refilter?]
  exact ⟨r, hr, hsql, hcount, hpaged _ _, ⟨next, hnext, hordered _ _ hnext⟩, hviewed _ hsteps⟩

end Report

end QueryReport
