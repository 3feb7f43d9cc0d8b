import QueryReport.Sql.Tree
import QueryReport.Text.Seen

/-!
# The values of a `CASE`

The texts and numbers that a `CASE` may come to, also through a `CASE` inside it.  The values met so
far are handed from result to result, also into a `CASE` and out of it.
-/

namespace QueryReport.Column

open Sql

mutual

/-- The values met so far with what a result of a `CASE` may come to: its text if it is one, or what
an inner `CASE` may come to. -/
def collectResult : Expr → List String → List String
  | .literal (.string s), seen => Text.addUnseen seen s
  | .literal (.number digits _), seen => Text.addUnseen seen digits
  | .case _ branches otherwise, seen => collectElse otherwise (collectBranches branches seen)
  | _, seen => seen

def collectBranches : Branches → List String → List String
  | .nil, seen => seen
  | .cons _ result rest, seen => collectBranches rest (collectResult result seen)

def collectElse : MaybeExpr → List String → List String
  | .none, seen => seen
  | .some e, seen => collectResult e seen

end

/-- The values of an expression that is a `CASE`, each where it is first met. -/
def caseValues : Expr → List String
  | .case operand branches otherwise => collectResult (.case operand branches otherwise) []
  | _ => []

end QueryReport.Column
