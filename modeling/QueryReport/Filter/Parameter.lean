import QueryReport.Filter.Condition
import QueryReport.Filter.Definition

/-!
# Parameters

A condition on a column.  `Parameter.sql` is the predicate and `Parameter.phrase` what a person
reads.
-/

namespace QueryReport.Filter

/-- A condition on a possibly qualified column.  With `orRange` every value is compared on its
own, and one match is enough. -/
structure Parameter where
  column : String
  condition : Condition
  orRange : Bool := false
deriving DecidableEq, Repr

/-- The last part of a dotted name. -/
def lastPart (name : String) : String :=
  String.ofList (name.toList.reverse.takeWhile (· ≠ '.')).reverse

/-- Items as an English list: `a`, `a or b`, `a, b or c`. -/
def orList (items : List String) : String :=
  match items.getLast?, items.dropLast with
  | none, _ => ""
  | some only, [] => only
  | some last, init => ", ".intercalate init ++ " or " ++ last

namespace Parameter

/-- A parameter on a definition's column.  A type that the definition states replaces the
condition's, if that is just the string type. -/
def ofDefinition (d : Definition) (c : Condition) : Except Error Parameter :=
  if c.dataType = .string && d.dataType ≠ .string then do
    let c ← c.withDataType d.dataType
    pure { column := d.column, condition := c }
  else pure { column := d.column, condition := c }

/-- The column's name without what qualifies it. -/
def columnName (p : Parameter) : String := lastPart p.column

/-- One text of a list of texts; nothing if there are too few. -/
def nth (texts : List String) (n : Nat) : String := texts[n]?.getD ""

/-- The predicate as SQL. -/
def sql (p : Parameter) : String :=
  let column := p.column
  let literals := p.condition.literals
  let op := p.condition.operator
  match op with
  | .isNull => column ++ " IS NULL"
  | .notNull => column ++ " IS NOT NULL"
  | .between => column ++ " BETWEEN " ++ nth literals 0 ++ " AND " ++ nth literals 1
  | .isIn =>
    -- No row has a value out of an empty list.
    if literals.isEmpty then "(1 = 2)"
    else column ++ " IN (" ++ ", ".intercalate literals ++ ")"
  | .inOrNull =>
    -- Of an empty list only the null is left.
    if literals.isEmpty then column ++ " IS NULL"
    else "(" ++ column ++ " IN (" ++ ", ".intercalate literals ++ ") OR " ++ column ++ " IS NULL)"
  | .matchOrNull => "(" ++ column ++ " = " ++ nth literals 0 ++ " OR " ++ column ++ " IS NULL)"
  | _ =>
    if p.orRange then
      "(" ++ " OR ".intercalate (literals.map fun l => column ++ " " ++ op.sql ++ " " ++ l) ++ ")"
    else column ++ " " ++ op.sql ++ " " ++ nth literals 0

/-- The condition as a phrase. -/
def phrase (p : Parameter) : String :=
  let op := p.condition.operator
  let lead := p.columnName ++ " " ++ op.phrase
  let values := p.condition.values.map Value.display
  match op with
  | .isNull | .notNull => lead
  | .between => lead ++ " " ++ nth values 0 ++ " and " ++ nth values 1
  | .inOrNull =>
    if values.isEmpty then p.columnName ++ " is blank" else lead ++ " " ++ orList values
  | .isIn => if values.isEmpty then lead ++ " nothing" else lead ++ " " ++ orList values
  | _ => if p.orRange then lead ++ " " ++ orList values else lead ++ " " ++ nth values 0

end Parameter

end QueryReport.Filter
