import QueryReport.Column.Basic
import QueryReport.Proofs.Text.Seen

/-!
# `QueryReport.Proofs.Column.CaseValues`: the values of a `CASE` are met on a walk

`caseResults` are the results of a `CASE` from left to right, the `ELSE` last, and `shownText` is the
text of a result that is a text or a number.  A walk goes from results that are a `CASE` themselves
to their results, so conditions and operands are never met.

* `collectResult_eq`: collecting values is such a walk.
* `values_first_met`: the values of a column over a `CASE` are the texts that are met, each at its
  first place, and other columns have none.
-/

set_option autoImplicit false

namespace QueryReport.Column

open Sql QueryReport.Text

/-- The results of a `CASE` in order; anything else has none. -/
def caseResults : Expr → List Expr
  | .case _ branches otherwise =>
      branches.toList.map Branch.result ++ otherwise.toOption.toList
  | _ => []

/-- The text of a text or number. -/
def shownText : Expr → Option String
  | .literal (.string s) => some s
  | .literal (.number digits _) => some digits
  | _ => none

theorem collectBranches_eq : (branches : Branches) → (seen : List String) →
    collectBranches branches seen
      = (branches.toList.map Branch.result).foldl (fun seen e => collectResult e seen) seen
  | .nil, _ => rfl
  | .cons _ result rest, seen => collectBranches_eq rest (collectResult result seen)

theorem collectElse_eq (otherwise : MaybeExpr) (seen : List String) :
    collectElse otherwise seen
      = otherwise.toOption.toList.foldl (fun seen e => collectResult e seen) seen := by
  cases otherwise <;> rfl

/-- A result adds its own text, or what the results of an inner `CASE` add. -/
theorem collectResult_eq (e : Expr) (seen : List String) :
    collectResult e seen = (caseResults e).foldl (fun seen e => collectResult e seen)
      ((shownText e).toList.foldl addUnseen seen) := by
  cases e with
  | case operand branches otherwise =>
      show collectElse otherwise (collectBranches branches seen)
        = (branches.toList.map Branch.result ++ otherwise.toOption.toList).foldl _ seen
      rw [List.foldl_append, ← collectBranches_eq, ← collectElse_eq]
  | literal value => cases value <;> rfl
  | _ => rfl

theorem sizeOf_branch_lt {b : Branch} : (branches : Branches) → b ∈ branches.toList →
    sizeOf b.result < sizeOf branches
  | .nil, h => nomatch h
  | .cons condition result rest, h => by
      rcases List.mem_cons.mp h with rfl | h
      · simp only [Branches.cons.sizeOf_spec]
        omega
      · have hrest := sizeOf_branch_lt rest h
        simp only [Branches.cons.sizeOf_spec]
        omega

/-- A result is smaller than the `CASE` that it belongs to. -/
theorem sizeOf_caseResults_lt (e result : Expr) (h : result ∈ caseResults e) :
    sizeOf result < sizeOf e := by
  cases e with
  | case operand branches otherwise =>
      simp only [Expr.case.sizeOf_spec]
      rcases List.mem_append.mp h with h | h
      · obtain ⟨b, hb, rfl⟩ := List.mem_map.mp h
        have hlt := sizeOf_branch_lt _ hb
        omega
      · cases otherwise with
        | none => cases h
        | some last =>
            rw [List.mem_singleton.mp h]
            simp only [MaybeExpr.some.sizeOf_spec]
            omega
  | _ => cases h

/-- Collecting from a `CASE` is collecting from its results; nothing else is collected from. -/
theorem caseValues_eq (e : Expr) :
    caseValues e = (caseResults e).foldl (fun seen e => collectResult e seen) [] := by
  cases e with
  | case operand branches otherwise => exact collectResult_eq (.case operand branches otherwise) []
  | _ => rfl

/-- The values of a column are the texts and numbers that are met on the walk through the results
of its `CASE`, each at its first place; a column over another expression has no values. -/
theorem values_first_met (c : Column) :
    (∃ visits, (∀ other, Walk caseResults shownText (caseResults c.source.expr) other
        ↔ other = visits) ∧ FirstSeen visits c.values)
      ∧ (c.values = [] ∨
        ∃ operand branches otherwise, c.source.expr = .case operand branches otherwise) := by
  have hvalues : c.values
      = (caseResults c.source.expr).foldl (fun seen e => collectResult e seen) [] :=
    caseValues_eq c.source.expr
  rw [hvalues]
  constructor
  · exact exists_walk_firstSeen sizeOf sizeOf_caseResults_lt collectResult_eq _
  · cases c.source.expr with
    | case operand branches otherwise => exact .inr ⟨operand, branches, otherwise, rfl⟩
    | _ => exact .inl rfl

/-- `CASE WHEN a THEN 'x' WHEN b THEN CASE WHEN 'c' THEN 1 ELSE 'x' END ELSE NULL END` -/
example : caseValues (.case .none
    (.cons (.column ⟨"a", none⟩) (.literal (.string "x"))
      (.cons (.column ⟨"b", none⟩)
        (.case .none (.cons (.literal (.string "c")) (.literal (.number "1" false)) .nil)
          (.some (.literal (.string "x")))) .nil))
    (.some (.literal .null))) = ["x", "1"] := by decide +kernel

end QueryReport.Column
