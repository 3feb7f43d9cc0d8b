import QueryReport.Proofs.Report.Agreement
import QueryReport.Proofs.Sql.Lexing.Progress

/-!
# `QueryReport.Proofs.Report.Literal`: reports that adopt a literal

A report that is evaluated has a text, and the text is a literal.  `Report.adopting` has its
characters beside it (see `parse_literal`) and is the report that adopting it leads to.

* `adopting_eq_outcome`: it is what the operation leaves behind.
* `Step.adopting`, `setSql_adopting`: it is one step away, and how to tell that the text was adopted.
-/

set_option autoImplicit false

namespace QueryReport

open Sql

namespace Report

variable {r : Report} {text : String} {cs : List Char}

/-- The query that is left to adopt of statements that were read. -/
def selected (read : Except Fault (List Statement)) : Except Error Query := do
  match ← liftFault read with
  | [.query q] => if q.select?.isSome then pure q else throw .notASelect
  | [_] => throw .notASelect
  | _ => throw .manyStatements

/-- The report with a text that was read as a query, or why the query was not. -/
def adoption (r : Report) (text : String) (read : Except Error Query) : Except Error Report := do
  let q ← read
  let columns ← r.columnsOf q
  let limit ← statedCount "LIMIT" q.limit
  let offset ← statedCount "OFFSET" q.offset
  pure { r with
    limit, offset, columns
    sql := some text
    baseline := some q
    working := none
    order := statedOrder q }

/-- The report after a literal was adopted, or as it was if it cannot be.  To unify it with another
report is not to read the literal. -/
@[irreducible]
def adopting (r : Report) (text : String) {cs : List Char} (_ : text = .ofList cs) : Report :=
  (r.adoption text (selected (parsed cs))).toOption.getD r

theorem selectOf_eq_selected (h : text = .ofList cs) : selectOf text = selected (parsed cs) := by
  rw [← parse_literal h]
  rfl

theorem outcome_eq_adoption (h : text = .ofList cs) :
    (Change.setSql text).outcome r
      = Change.commit r (r.adoption text (selected (parsed cs))) := by
  rw [Change.outcome_setSql, selectOf_eq_selected h]
  rfl

theorem adopting_eq_outcome (h : text = .ofList cs) :
    r.adopting text h = ((Change.setSql text).outcome r).2 := by
  rw [outcome_eq_adoption h]
  unfold adopting
  cases r.adoption text (selected (parsed cs)) <;> rfl

theorem Step.adopting (h : text = .ofList cs) : Step r (r.adopting text h) := by
  rw [adopting_eq_outcome h]
  exact .call (.setSql text)

theorem Reachable.adopting (hr : Reachable r) (h : text = .ofList cs) :
    Reachable (r.adopting text h) :=
  hr.step (.adopting h)

/-- A report that has another text afterwards has adopted it. -/
theorem setSql_adopting {next : Report} (h : text = .ofList cs) (hnext : r.adopting text h = next)
    (hchanged : next.sql ≠ r.sql) : r.setSql text = .ok next := by
  subst hnext
  rw [setSql, Change.result_of_outcome (outcome_eq_adoption h)]
  unfold adopting at hchanged ⊢
  cases hadopted : r.adoption text (selected (parsed cs)) with
  | ok next => rfl
  | error e =>
      rw [hadopted] at hchanged
      exact absurd rfl hchanged

end Report

end QueryReport
