import QueryReport.Sql.Sequence

/-!
# `QueryReport.Proofs.Sql.References`: the columns that an expression refers to

`Expr.references` are the references to columns that an expression makes, in the order of the text
and as often as it makes them.  A query inside of the expression has tables of its own, so what that
refers to is left out.
-/

set_option autoImplicit false

namespace QueryReport.Sql

mutual

/-- The columns that an expression refers to, outside of the queries in it. -/
def Expr.references : Expr → List Path
  | .column name => [[name]]
  | .path parts => [parts]
  | .star | .everyColumn _ | .literal _ | .typedText _ _ | .introduced _ _ => []
  | .call c => c.references
  | .named _ _ value => value.references
  | .nested inner => inner.references
  | .tuple items => items.references
  | .array _ items => items.references
  | .subquery _ | .exist _ _ => []
  | .unary _ operand => operand.references
  | .binary left _ right => left.references ++ right.references
  | .quantified left _ _ right => left.references ++ right.references
  | .nullTest operand _ => operand.references
  | .truthTest operand _ _ => operand.references
  | .distinctTest left _ right => left.references ++ right.references
  | .inList operand _ items => operand.references ++ items.references
  | .inQuery operand _ _ => operand.references
  | .inUnnest operand _ items => operand.references ++ items.references
  | .between operand _ low high => operand.references ++ low.references ++ high.references
  | .pattern operand _ _ _ pattern _ => operand.references ++ pattern.references
  | .regexp operand _ _ pattern => operand.references ++ pattern.references
  | .cast _ operand _ _ => operand.references
  | .convert operand _ _ => operand.references
  | .case operand branches otherwise =>
    operand.references ++ branches.references ++ otherwise.references
  | .extract _ operand => operand.references
  | .round _ operand _ => operand.references
  | .position part whole => part.references ++ whole.references
  | .substring operand start length _ =>
    operand.references ++ start.references ++ length.references
  | .trim operand _ characters => characters.references ++ operand.references
  | .overlay operand replacement start length =>
    operand.references ++ replacement.references ++ start.references ++ length.references
  | .interval value _ => value.references
  | .collate operand _ => operand.references
  | .atTimeZone operand zone => operand.references ++ zone.references
  | .subscript operand index => operand.references ++ index.references
  | .slice operand lower upper stride =>
    operand.references ++ lower.references ++ upper.references ++ stride.references
  | .field operand _ => operand.references
  | .groupingSets rows | .cube rows | .rollup rows => rows.references

def MaybeExpr.references : MaybeExpr → List Path
  | .none => []
  | .some e => e.references

def Exprs.references : Exprs → List Path
  | .nil => []
  | .cons e es => e.references ++ es.references

def Branches.references : Branches → List Path
  | .nil => []
  | .cons condition result bs => condition.references ++ result.references ++ bs.references

def Call.references : Call → List Path
  | ⟨_, _, args, withinGroup, filter, _, window⟩ =>
    args.references ++ withinGroup.references ++ filter.references ++ window.references

def CallArgs.references : CallArgs → List Path
  | .absent | .subquery _ => []
  | .list _ _ args order limit overflow _ =>
    args.references ++ order.references ++ limit.references ++ overflow.references

def Overflow.references : Overflow → List Path
  | .unstated | .error => []
  | .truncate filler _ => filler.references

def Over.references : Over → List Path
  | .none | .named _ => []
  | .window _ partition order _ distances =>
    partition.references ++ order.references ++ distances.references

def OrderKeys.references : OrderKeys → List Path
  | .nil => []
  | .cons e _ _ ks => e.references ++ ks.references

end

/-- A list refers to what its entries refer to. -/
theorem Exprs.references_ofList (es : List Expr) :
    (Exprs.ofList es).references = es.flatMap Expr.references := by
  induction es with
  | nil => rfl
  | cons e es ih => rw [Exprs.ofList, Exprs.references, ih, List.flatMap_cons]

end QueryReport.Sql
