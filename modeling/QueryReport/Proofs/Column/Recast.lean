import QueryReport.Column.Fingerprint

/-!
# `QueryReport.Proofs.Column.Recast`: the spelling of casts

`CAST(e AS t)` and `e::t` are two spellings of one cast.  `Expr.recast` writes the casts of an
expression in the second one, as far as the fingerprint looks: expressions that it keeps as text
keep their casts.  `exprAtoms_recast` says that the fingerprint does not see a difference.
-/

set_option autoImplicit false

namespace QueryReport

namespace Sql

/-- The spelling that stands for both spellings of a cast. -/
def CastForm.recast : CastForm → CastForm
  | .cast => .colons
  | form => form

mutual

/-- The expression with its casts spelled with colons. -/
def Expr.recast : Expr → Expr
  | .call c => .call c.recast
  | .case operand branches otherwise => .case operand.recast branches.recast otherwise.recast
  | .cast form operand type format => .cast form.recast operand.recast type format
  | .binary left op right => .binary left.recast op right.recast
  | .unary op operand => .unary op operand.recast
  | .nullTest operand negated => .nullTest operand.recast negated
  | .inList operand negated items => .inList operand.recast negated items.recast
  | .between operand negated low high => .between operand.recast negated low.recast high.recast
  | .nested inner => .nested inner.recast
  | .array keyword items => .array keyword items.recast
  | e => e

def MaybeExpr.recast : MaybeExpr → MaybeExpr
  | .none => .none
  | .some e => .some e.recast

def Exprs.recast : Exprs → Exprs
  | .nil => .nil
  | .cons e es => .cons e.recast es.recast

def Branches.recast : Branches → Branches
  | .nil => .nil
  | .cons condition result rest => .cons condition.recast result.recast rest.recast

def Call.recast : Call → Call
  | ⟨name, braces, args, withinGroup, filter, nulls, window⟩ =>
    ⟨name, braces, args.recast, withinGroup, filter.recast, nulls, window⟩

def CallArgs.recast : CallArgs → CallArgs
  | .list duplicates leading args order limit overflow nulls =>
    .list duplicates leading args.recast order limit overflow nulls
  | args => args

end

end Sql

namespace Column

open Sql

/-- Whether an argument is a star or named does not depend on its casts. -/
theorem argAtoms_recast (e : Expr) (atoms : List String) :
    argAtoms e.recast atoms = argAtoms e atoms := by
  cases e <;> simp [Expr.recast, argAtoms]

mutual

theorem exprAtoms_recast (e : Expr) : exprAtoms e.recast = exprAtoms e := by
  -- Only the form of a cast is changed, and that is none of its atoms.
  cases e with
  | call c => simp only [Expr.recast, exprAtoms, callAtoms_recast c]
  | case operand branches otherwise =>
      simp only [Expr.recast, exprAtoms, maybeAtoms_recast operand, branchAtoms_recast branches,
        elseAtoms_recast otherwise]
  | cast form operand type format => simp only [Expr.recast, exprAtoms, exprAtoms_recast operand]
  | binary left op right =>
      simp only [Expr.recast, exprAtoms, exprAtoms_recast left, exprAtoms_recast right]
  | unary op operand => simp only [Expr.recast, exprAtoms, exprAtoms_recast operand]
  | nullTest operand negated => simp only [Expr.recast, exprAtoms, exprAtoms_recast operand]
  | inList operand negated items =>
      simp only [Expr.recast, exprAtoms, exprAtoms_recast operand, itemAtoms_recast items]
  | between operand negated low high =>
      simp only [Expr.recast, exprAtoms, exprAtoms_recast operand, exprAtoms_recast low,
        exprAtoms_recast high]
  | nested inner => simp only [Expr.recast, exprAtoms, exprAtoms_recast inner]
  | array keyword items => simp only [Expr.recast, exprAtoms, itemAtoms_recast items]
  | _ => rfl

theorem maybeAtoms_recast (e : MaybeExpr) : maybeAtoms e.recast = maybeAtoms e := by
  cases e with
  | none => rfl
  | some e => simp only [MaybeExpr.recast, maybeAtoms, exprAtoms_recast e]

theorem elseAtoms_recast (e : MaybeExpr) : elseAtoms e.recast = elseAtoms e := by
  cases e with
  | none => rfl
  | some e => simp only [MaybeExpr.recast, elseAtoms, exprAtoms_recast e]

theorem filterAtoms_recast (e : MaybeExpr) : filterAtoms e.recast = filterAtoms e := by
  cases e with
  | none => rfl
  | some e => simp only [MaybeExpr.recast, filterAtoms, exprAtoms_recast e]

theorem itemAtoms_recast (es : Exprs) : itemAtoms es.recast = itemAtoms es := by
  cases es with
  | nil => rfl
  | cons e es =>
      have htail := itemAtoms_recast es
      cases es with
      | nil => simp only [Exprs.recast, itemAtoms, exprAtoms_recast e]
      | cons second es =>
          simp only [Exprs.recast] at htail
          simp only [Exprs.recast, itemAtoms, exprAtoms_recast e, htail]

theorem argListAtoms_recast (es : Exprs) : argListAtoms es.recast = argListAtoms es := by
  cases es with
  | nil => rfl
  | cons e es =>
      have htail := argListAtoms_recast es
      cases es with
      | nil => simp only [Exprs.recast, argListAtoms, exprAtoms_recast e, argAtoms_recast]
      | cons second es =>
          simp only [Exprs.recast] at htail
          simp only [Exprs.recast, argListAtoms, exprAtoms_recast e, argAtoms_recast, htail]

theorem branchAtoms_recast (bs : Branches) : branchAtoms bs.recast = branchAtoms bs := by
  cases bs with
  | nil => rfl
  | cons condition result bs =>
      simp only [Branches.recast, branchAtoms, exprAtoms_recast condition,
        exprAtoms_recast result, branchAtoms_recast bs]

theorem callAtoms_recast (c : Call) : callAtoms c.recast = callAtoms c := by
  obtain ⟨name, braces, args, withinGroup, filter, nulls, window⟩ := c
  simp only [Call.recast, callAtoms, argsAtoms_recast args, filterAtoms_recast filter]

theorem argsAtoms_recast (args : CallArgs) : argsAtoms args.recast = argsAtoms args := by
  cases args with
  | list duplicates leading args order limit overflow nulls =>
      simp only [CallArgs.recast, argsAtoms, argListAtoms_recast args]
  | _ => rfl

end

end Column

end QueryReport
