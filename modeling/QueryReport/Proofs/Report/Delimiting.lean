import QueryReport.Proofs.Report.Rendering
import QueryReport.Proofs.Sql.Dialect.Top

/-!
# `QueryReport.Proofs.Report.Delimiting`: the row limit of a report in T-SQL

`delimitedSql` writes the query to run and then edits its text.  The query of a report is always a
`SELECT`, and `delimitedSql_tsql` says what the edit comes to by how the query begins and ends:

* rows cannot be skipped;
* a limit that the text ends with becomes a `TOP` behind `SELECT` or `SELECT DISTINCT`;
* of a query that begins with `WITH` the limit is lost, since the `SELECT` that it belongs to is not
  found;
* a query without a limit loses only its quotes, unless the name that it ends with is like a limit
  without them.

`limits_misplaced` runs what is left out here: a limit that the text does not end with stays where
it is, and such a name becomes a `TOP`.
-/

set_option autoImplicit false

namespace QueryReport

open Sql Sql.Dialect QueryReport.Text

namespace Report

variable {r : Report} {q : Query}

theorem runnable_isSelect (hr : Reachable r) (hq : r.runnable = .ok q) :
    ∃ s, q.body = .select s := by
  obtain ⟨baseline, hbaseline, rfl⟩ := runnable_eq_ok.mp hq
  -- Held order is all that the query to run has beyond the working copy or the baseline.
  have hlists : (r.working.getD baseline).Lists (r.columns.map Column.source) := by
    cases hworking : r.working with
    | none => exact hr.consistent.baseline_lists baseline hbaseline
    | some working => exact hr.consistent.working_lists working hworking
  exact Query.isSome_select?.mp hlists.isSelect

theorem delimitedSql_offset (hq : r.runnable = .ok q) (hoffset : q.offset ≠ .none) :
    r.delimitedSql .tsql = .error .offsetInTsql := by
  unfold delimitedSql
  rw [hq]
  show Dialect.delimit .tsql q.text (decide (q.offset ≠ .none)) = _
  rw [decide_eq_true hoffset]
  rfl

theorem delimitedSql_text (hq : r.runnable = .ok q) (hoffset : q.offset = .none) :
    r.delimitedSql .tsql = Dialect.delimit .tsql q.text false := by
  unfold delimitedSql
  rw [hq]
  show Dialect.delimit .tsql q.text (decide (q.offset ≠ .none)) = _
  rw [decide_eq_false (not_not_intro hoffset)]

/-- What becomes of the query of a report.  In the second case `more` is what is written after the
words that a query without `WITH` begins with. -/
theorem delimitedSql_tsql (hr : Reachable r) (hq : r.runnable = .ok q) :
    ∃ s, q.body = .select s
      ∧ (q.offset ≠ .none →
          r.delimitedSql .tsql = .error .offsetInTsql ∧ Error.offsetInTsql.kind = .sql)
      ∧ (∀ digits, q.EndsWithLimit digits → q.tables = .nil →
          ∃ more, q.unlimited.text = s.keyword ++ " " ++ more
            ∧ ∀ blanks rest, dropLastBlanks (stripQuotes false more.toList) = blanks ++ rest →
              Blanks blanks rest →
              (s.distinct = .unstated → ¬ BeginsWith "distinct".toList rest) →
              r.delimitedSql .tsql = .ok (s.keyword ++ " " ++ String.ofList blanks ++ "TOP "
                ++ digits ++ " " ++ String.ofList rest))
      ∧ (∀ digits, q.EndsWithLimit digits → q.tables ≠ .nil →
          r.delimitedSql .tsql
            = .ok (String.ofList (dropLastBlanks (stripQuotes false q.unlimited.text.toList))))
      ∧ (q.limit = .none → q.offset = .none → ¬ LimitLike q.closing →
          r.delimitedSql .tsql = .ok (String.ofList (stripQuotes false q.text.toList))) := by
  obtain ⟨s, hs⟩ := runnable_isSelect hr hq
  refine ⟨s, hs, ?_, ?_, ?_, ?_⟩
  · intro hoffset
    exact ⟨delimitedSql_offset hq hoffset, rfl⟩
  · intro digits hlimit htables
    rw [delimitedSql_text hq hlimit.offset]
    exact Query.delimit_limit hs htables hlimit
  · intro digits hlimit htables
    rw [delimitedSql_text hq hlimit.offset]
    exact Query.delimit_limit_lost htables hlimit
  · intro hlimit hoffset hclosing
    rw [delimitedSql_text hq hoffset]
    exact Query.delimit_unlimited hs hlimit hoffset hclosing

/-- A limit that moves, a name that is no limit, and rows that cannot be skipped. -/
theorem distinct_limit_moves :
    (∃ r, Reachable r
      ∧ r.runnableSql = .ok "SELECT DISTINCT \"City\" FROM t ORDER BY \"City\" LIMIT 5"
      ∧ r.delimitedSql .tsql = .ok "SELECT DISTINCT TOP 5 City FROM t ORDER BY City")
    ∧ (∃ r, Reachable r ∧ r.runnableSql = .ok "SELECT a AS \"limit\" FROM t WHERE b = 5"
      ∧ r.delimitedSql .tsql = .ok "SELECT a AS limit FROM t WHERE b = 5")
    ∧ ∃ r, Reachable r ∧ r.runnableSql = .ok "SELECT a FROM t LIMIT 3 OFFSET 2"
      ∧ r.delimitedSql .tsql = .error .offsetInTsql := by
  refine ⟨?_, ?_, ?_⟩
  · -- The limit goes behind the words that the query begins with.
    let text := "SELECT DISTINCT \"City\" FROM t ORDER BY \"City\" LIMIT 5"
    let r : Report := ((Change.setSql text).outcome {}).2
    have hr : Reachable r := Reachable.empty.step (.call (.setSql text))
    have htext : r.runnableSql = .ok text := by decide +kernel
    obtain ⟨q, hq, ⟨hlimit, hoffset, hfetch, hlocks, hform⟩, htables, hfirst, hunlimited⟩ :=
      exists_ok (x := r.runnable) (p := fun q =>
        (q.limit = .some (.literal (.number "5" false)) ∧ q.offset = .none ∧ q.fetch = none
          ∧ q.locks = [] ∧ q.form = none)
        ∧ q.tables = .nil
        ∧ (∀ s ∈ q.select?, s.distinct = .distinct ∧ s.keyword = "SELECT DISTINCT")
        ∧ q.unlimited.text = "SELECT DISTINCT" ++ " " ++ "\"City\" FROM t ORDER BY \"City\"")
        (by decide +kernel)
    have hends : q.EndsWithLimit "5" :=
      ⟨hlimit, by decide, List.all_eq_true.mp rfl, hoffset, hfetch, hlocks, hform⟩
    obtain ⟨s, hs, -, htop, -, -⟩ := delimitedSql_tsql hr hq
    obtain ⟨hdistinct, hkeyword⟩ := hfirst s (by rw [Query.select?, hs]; rfl)
    obtain ⟨more, hmore, htop⟩ := htop "5" hends htables
    rw [hunlimited, hkeyword, String.append_right_inj] at hmore
    subst hmore
    have hmoved := htop [] "City FROM t ORDER BY City".toList (by decide +kernel)
      ⟨List.forall_mem_nil _, 'C', _, rfl, rfl⟩ fun hunstated => by
        rw [hdistinct] at hunstated
        cases hunstated
    rw [hkeyword] at hmoved
    exact ⟨r, hr, htext, hmoved.trans (by decide +kernel)⟩
  · -- What the query ends with has no blank in it, so it is like no limit.
    let text := "SELECT a AS \"limit\" FROM t WHERE b = 5"
    let r : Report := ((Change.setSql text).outcome {}).2
    have hr : Reachable r := Reachable.empty.step (.call (.setSql text))
    have htext : r.runnableSql = .ok text := by decide +kernel
    obtain ⟨q, hq, hlimit, hoffset, hword, hstripped⟩ :=
      exists_ok (x := r.runnable) (p := fun q => q.limit = .none ∧ q.offset = .none
        ∧ (plain q.closing).any isBlank = false
        ∧ String.ofList (stripQuotes false q.text.toList)
          = "SELECT a AS limit FROM t WHERE b = 5")
        (by decide +kernel)
    obtain ⟨s, -, -, -, -, hkept⟩ := delimitedSql_tsql hr hq
    have hsame := hkept hlimit hoffset (not_limitLike_of_word hword)
    rw [hstripped] at hsame
    exact ⟨r, hr, htext, hsame⟩
  · -- Rows to skip have no form there.
    let text := "SELECT a FROM t LIMIT 3 OFFSET 2"
    let r : Report := ((Change.setSql text).outcome {}).2
    have hr : Reachable r := Reachable.empty.step (.call (.setSql text))
    have htext : r.runnableSql = .ok text := by decide +kernel
    obtain ⟨q, hq, hoffset⟩ :=
      exists_ok (x := r.runnable) (p := fun q => q.offset ≠ .none) (by decide +kernel)
    obtain ⟨s, -, hfails, -⟩ := delimitedSql_tsql hr hq
    exact ⟨r, hr, htext, (hfails hoffset).1⟩

/-- A limit is lost behind `WITH` and stays in front of a locking clause, and the name that a query
ends with is taken for one. -/
theorem limits_misplaced :
    (∃ r, Reachable r
      ∧ r.runnableSql = .ok "WITH x AS (SELECT a FROM t) SELECT a FROM x LIMIT 5"
      ∧ r.delimitedSql .tsql = .ok "WITH x AS (SELECT a FROM t) SELECT a FROM x")
    ∧ (∃ r, Reachable r ∧ r.runnableSql = .ok "SELECT a FROM t LIMIT 5 FOR UPDATE"
      ∧ r.delimitedSql .tsql = .ok "SELECT a FROM t LIMIT 5 FOR UPDATE")
    ∧ ∃ r, Reachable r
      ∧ (∃ q, r.runnable = .ok q ∧ q.limit = .none ∧ q.text = "SELECT a FROM \"x limit 5\"")
      ∧ r.delimitedSql .tsql = .ok "SELECT TOP 5 a FROM x" := by
  refine ⟨?_, ?_, ?_⟩
  · let text := "WITH x AS (SELECT a FROM t) SELECT a FROM x LIMIT 5"
    let r : Report := ((Change.setSql text).outcome {}).2
    exact ⟨r, Reachable.empty.step (.call (.setSql text)), by decide +kernel⟩
  · let text := "SELECT a FROM t LIMIT 5 FOR UPDATE"
    let r : Report := ((Change.setSql text).outcome {}).2
    exact ⟨r, Reachable.empty.step (.call (.setSql text)), by decide +kernel⟩
  · let text := "SELECT a FROM \"x limit 5\""
    let r : Report := ((Change.setSql text).outcome {}).2
    exact ⟨r, Reachable.empty.step (.call (.setSql text)), exists_ok (by decide +kernel),
      by decide +kernel⟩

end Report

end QueryReport
