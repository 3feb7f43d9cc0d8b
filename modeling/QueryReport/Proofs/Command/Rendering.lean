import QueryReport.Command.Render
import QueryReport.Proofs.Report.Delimiting
import QueryReport.Proofs.Sql.Dialect.Quotes

/-!
# `QueryReport.Proofs.Command.Rendering`: the dialect of what a command renders

A command first prepares the report: it is paged, ordered and filtered as the options ask for
(`Report.prepared`).  What it prints is made of the query that the prepared report runs
(`render_eq`), and here the dialect is taken into account or not.

* The query itself is written in the dialect of the options, or else of the settings, and for T-SQL
  no quotes are left around names (`rendered_dialect`).
* The query that counts its rows is written as it is, in no dialect.  `count_keeps_quotes` is a
  report whose count has quotes around a name although T-SQL is asked for.
-/

set_option autoImplicit false

namespace QueryReport.Report

open Sql QueryReport.Filter

variable {r : Report} {s : Settings} {o : RenderOptions} {text : String}

/-- The report with the paging, order and filters that options ask for. -/
def prepared (r : Report) (s : Settings) (o : RenderOptions) : Except Error Report := do
  let paged := r.paged s o
  let ordered ← match o.order with
    | some text => paged.setOrder (some text)
    | none => pure paged
  let params ← o.params.mapM ordered.readParam
  if o.replaceFilter then ordered.replaceFilter params else ordered.applyParams params

/-- What is rendered is made of the query that the prepared report runs. -/
theorem render_eq (r : Report) (s : Settings) (o : RenderOptions) : r.render s o = (do
    let next ← r.prepared s o
    if o.count then next.countSql else next.delimitedSql (o.dialect.getD s.dialect)) := by
  unfold render prepared
  cases o.order <;> cases o.replaceFilter <;> simp only [bind_assoc] <;> rfl

theorem countSql_eq_ok : r.countSql = .ok text ↔ ∃ q, r.runnable = .ok q
    ∧ ∃ counter, q.countRows = .ok counter ∧ text = counter.text := by
  unfold countSql
  simp only [bind_eq_ok, pure_eq_ok, liftFault_eq_ok, eq_comm (a := text)]

theorem delimitedSql_eq_ok {d : Dialect} : r.delimitedSql d = .ok text ↔ ∃ q, r.runnable = .ok q
    ∧ d.delimit q.text (q.offset ≠ .none) = .ok text :=
  bind_eq_ok

/-- A query is rendered in the dialect that is asked for, and then T-SQL has no quotes around names.
A count is rendered as it is. -/
theorem rendered_dialect (h : r.render s o = .ok text) :
    ∃ next q, r.prepared s o = .ok next ∧ next.runnable = .ok q
      ∧ (o.count = false →
          Dialect.delimit (o.dialect.getD s.dialect) q.text (q.offset ≠ .none) = .ok text
            ∧ (o.dialect.getD s.dialect = .tsql → Dialect.Undelimited text.toList))
      ∧ (o.count = true → ∃ counter, q.countRows = .ok counter ∧ text = counter.text) := by
  rw [render_eq, bind_eq_ok] at h
  obtain ⟨next, hnext, h⟩ := h
  split at h
  · next hcount =>
    obtain ⟨q, hq, hcounter⟩ := countSql_eq_ok.mp h
    refine ⟨next, q, hnext, hq, ?_, fun _ => hcounter⟩
    rw [hcount]
    exact nofun
  · next hcount =>
    obtain ⟨q, hq, hdelimited⟩ := delimitedSql_eq_ok.mp h
    refine ⟨next, q, hnext, hq, fun _ => ⟨hdelimited, fun htsql => ?_⟩, fun h => absurd h hcount⟩
    rw [htsql] at hdelimited
    exact Dialect.undelimited_delimit hdelimited

/-- A limit of the options, in the dialect of the settings. -/
theorem quoted_names_rendered : ∃ r, Reachable r
    ∧ r.runnableSql = .ok "SELECT \"id\" FROM \"users\" WHERE note = '\"'"
    ∧ r.render { dialect := .tsql } { limit := some 3 }
      = .ok "SELECT TOP 3 id FROM users WHERE note = '\"'"
    ∧ Dialect.Undelimited "SELECT TOP 3 id FROM users WHERE note = '\"'".toList := by
  let text := "SELECT \"id\" FROM \"users\" WHERE note = '\"'"
  let r : Report := ({} : Report).adopting text rfl
  obtain ⟨htext, hrender⟩ : r.runnableSql = .ok text
      ∧ r.render { dialect := .tsql } { limit := some 3 }
        = .ok "SELECT TOP 3 id FROM users WHERE note = '\"'" := by decide +kernel
  obtain ⟨_, _, -, -, hdialect, -⟩ := rendered_dialect hrender
  exact ⟨r, Reachable.empty.adopting rfl, htext, hrender, (hdialect rfl).2 rfl⟩

/-- The count of a report is asked for in T-SQL and keeps the quotes around a name, so no text in
T-SQL is what is rendered. -/
theorem count_keeps_quotes : ∃ r, Reachable r
    ∧ r.render {} { dialect := some .tsql, count := true }
      = .ok "SELECT count(*) FROM \"users\""
    ∧ ¬ Dialect.Undelimited "SELECT count(*) FROM \"users\"".toList
    ∧ ∀ text skips, Dialect.delimit .tsql text skips ≠ .ok "SELECT count(*) FROM \"users\"" := by
  have hquoted : ¬ Dialect.Undelimited "SELECT count(*) FROM \"users\"".toList := by
    rw [Dialect.undelimited_iff]
    decide
  exact ⟨({} : Report).adopting "SELECT \"id\" FROM \"users\"" rfl,
    Reachable.empty.adopting rfl, by decide +kernel, hquoted,
    fun _ _ h => hquoted (Dialect.undelimited_delimit h)⟩

end QueryReport.Report
