import QueryReport.Column.CaseValues
import QueryReport.Column.Fingerprint
import QueryReport.Error
import QueryReport.Saved.Form
import QueryReport.Text.Caption

/-!
# Columns

A target entry of a report's query with what a person has set about it.  The name and everything
else that can be read off the entry is derived anew whenever the query changes; the attributes are
carried along.
-/

namespace QueryReport

open Sql

/-- A column of a report. -/
structure Column where
  name : String
  /-- The dotted name, if the column is a plain reference. -/
  path : Option String
  /-- The last part of the function's name, if the column is a call. -/
  function : Option String
  fingerprint : Option String
  source : SelectItem
  attributes : Attributes
deriving DecidableEq

namespace Column

/-- The functions that make one row of many. -/
def aggregates : List String := ["sum", "avg", "min", "max", "count"]

/-- The last part of the name of the function that an expression calls. -/
def functionName? : Expr → Option String
  | .call c => c.name.getLast?.map Ident.value
  | _ => none

/-- The name of an entry: the one it is given, or that of its function or column. -/
def itemName (number : Nat) (item : SelectItem) : Except Error String :=
  match item.label with
  | some label => .ok label.value
  | none =>
    match item.expr with
    | .call c => .ok ((c.name.getLast?.map Ident.value).getD "")
    | .column name => .ok name.value
    | .path parts => .ok ((parts.getLast?.map Ident.value).getD "")
    | e => .error (.unnamedColumn number e.kind.name)

/-- The column of an entry with attributes of its own; the number and the caption among them are
replaced. -/
def make (number : Nat) (item : SelectItem) (options : Attributes := {}) : Except Error Column :=
  if item.expr.isStar then .error .starColumn
  else do
    let name ← itemName number item
    if name = "" then .error (.emptyName number)
    else
      pure {
        name
        path := item.expr.referencePath?
        function := functionName? item.expr
        fingerprint := fingerprint? item.expr
        source := item
        attributes := { options with sequenceNo := number, caption := Text.caption name } }

/-- Whether the column is a call that makes one row of many. -/
def isAggregate (c : Column) : Bool :=
  match c.function with
  | some f => aggregates.contains (Text.lower f)
  | none => false

/-- Whether an entry has the structure of the column. -/
def matchesItem (c : Column) (item : SelectItem) : Bool :=
  if item.expr.isStar then false
  else match c.fingerprint, fingerprint? item.expr with
    | some mine, some theirs => mine == theirs
    | _, _ => false

/-- The values that the column may have if it is a `CASE`. -/
def values (c : Column) : List String := caseValues c.source.expr

/-- The column with the attributes of another but for its number. -/
def inherit (c : Column) (previous : Option Column) : Column :=
  match previous with
  | none => c
  | some p => { c with attributes := { p.attributes with sequenceNo := c.attributes.sequenceNo } }

/-- The column with other attributes. -/
def withAttributes (c : Column) (attributes : Attributes) : Column := { c with attributes }

end Column

end QueryReport
