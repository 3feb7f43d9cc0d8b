import QueryReport.Decimal.Read
import QueryReport.Sql.Render
import QueryReport.Sql.Sequence

/-!
# Kinds of expressions

What an expression is at its top: the kinds that the rest of the library tells apart, with the name
under which each is spoken of.
-/

namespace QueryReport.Sql

/-- The kinds of expressions that are told apart. -/
inductive ExprKind where
  | columnRef | call | constant | case | cast | binary | unary | nullTest | inList | between
  | nested | subquery | array | unsupported
deriving DecidableEq, Repr

def ExprKind.name : ExprKind → String
  | columnRef => "column reference"
  | call => "function call"
  | constant => "constant"
  | case => "CASE expression"
  | cast => "type cast"
  | binary => "binary expression"
  | unary => "unary expression"
  | nullTest => "null test"
  | inList => "IN list"
  | between => "BETWEEN"
  | nested => "nested expression"
  | subquery => "subquery"
  | array => "array"
  | unsupported => "unsupported expression"

def Expr.kind : Expr → ExprKind
  | .column _ | .path _ => .columnRef
  | .call _ => .call
  | .literal _ => .constant
  | .case _ _ _ => .case
  | .cast _ _ _ _ => .cast
  | .binary _ _ _ => .binary
  | .unary _ _ => .unary
  | .nullTest _ _ => .nullTest
  | .inList _ _ _ => .inList
  | .between _ _ _ _ => .between
  | .nested _ => .nested
  | .subquery _ => .subquery
  | .array _ _ => .array
  | _ => .unsupported

/-- The parts of a column reference. -/
def Expr.reference? : Expr → Option Path
  | .column name => some [name]
  | .path parts => some parts
  | _ => none

/-- The dotted name of a column reference, without quotes. -/
def Expr.referencePath? (e : Expr) : Option String := e.reference?.map Path.plain

/-- Whether an expression is a reference to the column with a dotted name. -/
def Expr.refersTo (e : Expr) (path : String) : Bool := e.referencePath? == some path

/-- Whether an expression stands for all columns. -/
def Expr.isStar : Expr → Bool
  | .star | .everyColumn _ => true
  | _ => false

/-- The natural number that an integer literal below `2 ^ 64` stands for. -/
def Expr.count? : Expr → Option Nat
  | .literal (.number text _) => Decimal.nat64? text.toList
  | _ => none

/-- The literal of a natural number. -/
def Expr.ofCount (n : Nat) : Expr := .literal (.number (toString n) false)

/-- A sort key as SQL. -/
def OrderKey.text (k : OrderKey) : String := sortText k.expr.text k.ascending k.nullsFirst

/-- A target entry as SQL. -/
def SelectItem.text (i : SelectItem) : String :=
  match i.label with
  | none => i.expr.text
  | some label => i.expr.text ++ " AS " ++ label.text

end QueryReport.Sql
