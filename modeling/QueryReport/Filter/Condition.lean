import QueryReport.Error
import QueryReport.Filter.Operator
import QueryReport.Text.Quoting
import QueryReport.Value

/-!
# Conditions

An operator with its values and the type they are compared as.  `Condition.make` checks the number
of values, the order of bounds and that every value is of the type, so a condition that exists can
be written as SQL.
-/

namespace QueryReport.Filter

/-- What a column is compared with, and how. -/
structure Condition where
  operator : Operator
  values : List Value
  dataType : DataType
deriving DecidableEq, Repr

namespace Condition

/-- Checks that there are two bounds and that they are not known to be in the wrong order. -/
def checkBounds (c : Condition) : Except Error Unit :=
  match c.values with
  | low :: high :: _ =>
    if low.isBlank || high.isBlank then .error .noBounds
    -- Bounds that cannot be compared may stand in any order.
    else if low.compareAs? c.dataType high = some .gt then .error .boundsReversed
    else .ok ()
  | _ => .error .noBounds

/-- Checks that there are values enough for the operator. -/
def checkValues (c : Condition) : Except Error Unit :=
  match c.operator with
  | .between => c.checkBounds
  | .isIn | .inOrNull => if c.values.any Value.isNull then .error .nullInList else .ok ()
  | _ =>
    match c.values with
    | [] => .error .noValue
    | first :: _ => if first.isNull then .error .noValue else .ok ()

/-- Whether a value can be written as a value of the type.  Nulls and booleans always can. -/
def isOfType (type : DataType) : Value → Bool
  | .null | .bool _ => true
  | v =>
    match type with
    | .integer => v.toInt?.isSome
    | .number => v.toNumber?.isSome
    | _ => true

/-- Checks that every value is of the type, where that decides how it is written. -/
def checkTypes (c : Condition) : Except Error Unit :=
  if !c.dataType.isNumeric || c.operator.isPattern then .ok ()
  else
    match c.values.find? fun v => !isOfType c.dataType v with
    | some v => .error (.notOfType v.display c.dataType)
    | none => .ok ()

/-- Null tests use no values, so nothing is asked of them. -/
def check (c : Condition) : Except Error Unit :=
  if c.operator.isNullTest then .ok ()
  else do
    c.checkValues
    c.checkTypes

/-- The condition, if it passes its checks. -/
def checked (c : Condition) : Except Error Condition := do
  c.check
  pure c

/-- The condition of an operator's token, values and a type. -/
def make (token : String) (values : List Value) (dataType : DataType) : Except Error Condition :=
  match Operator.ofToken? token with
  | none => .error (.unknownOperator token)
  | some op => checked ⟨op, values, dataType⟩

/-- The same operator and values compared as another type. -/
def withDataType (c : Condition) (dataType : DataType) : Except Error Condition :=
  checked { c with dataType }

/-- The text of a value as a pattern: what may stand before or after it is left open. -/
def pattern (op : Operator) (text : String) : String :=
  match op with
  | .startsWith => text ++ "%"
  | .endsWith => "%" ++ text
  | .contains => "%" ++ text ++ "%"
  | _ => text

/-- A value that is neither null nor a boolean, as a literal of a type. -/
def typedLiteral (type : DataType) (v : Value) : String :=
  match type with
  | .integer =>
    match v.toInt? with
    | some n => toString n
    | none => Text.quote v.display
  | .number =>
    match v.toNumber? with
    | some x => Decimal.Layout.plain.text x
    | none => Text.quote v.display
  | _ => Text.quote v.display

/-- The SQL literal of one of the condition's values. -/
def literal (c : Condition) (v : Value) : String :=
  if c.operator.isNullTest then "NULL"
  else match v with
    | .bool true => "'t'"
    | .bool false => "'f'"
    | .null => "NULL"
    | v =>
      if c.operator.isPattern then Text.quote (pattern c.operator v.display)
      else typedLiteral c.dataType v

/-- The SQL literals of the values in order. -/
def literals (c : Condition) : List String := c.values.map c.literal

end Condition

end QueryReport.Filter
