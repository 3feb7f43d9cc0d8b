import QueryReport.Document.Tree
import QueryReport.Filter.Definition

/-!
# The saved form of a report

What is kept of a report when it is written to a document: its texts and numbers, and the
attributes of its columns by name.  Everything that can be read off the SQL is left out.
-/

namespace QueryReport

/-- How the columns of a new query take over the attributes of the columns before it. -/
inductive ColumnMatch where
  | name | fingerprint
deriving DecidableEq, Repr, Inhabited

namespace ColumnMatch

def all : List ColumnMatch := [.name, .fingerprint]

def label : ColumnMatch → String
  | .name => "name"
  | .fingerprint => "fingerprint"

end ColumnMatch

/-- What a person may set about a column. -/
structure Attributes where
  sequenceNo : Nat := 0
  caption : String := ""
  dataType : DataType := .string
  width : Option Nat := none
  format : Option String := none
  hide : Bool := false
  pinned : Bool := false
  groupable : Bool := false
  groupBySeq : Option Nat := none
  groupSum : Bool := false
  groupAvg : Bool := false
  groupMin : Bool := false
  groupMax : Bool := false
deriving DecidableEq, Repr, Inhabited

namespace Saved

/-- A saved report.  The columns are in order of their names. -/
structure Report where
  caption : Option String
  sql : String
  limit : Option Nat
  offset : Option Nat
  settings : Document.Tree
  columnMatch : ColumnMatch
  columns : List (String × Attributes)
  definitions : List Filter.Definition
deriving DecidableEq, Repr

/-- A column put among columns that are in order of their names; one with the same name is
replaced. -/
def insertColumn (name : String) (a : Attributes) :
    List (String × Attributes) → List (String × Attributes)
  | [] => [(name, a)]
  | (n, b) :: rest =>
    if name < n then (name, a) :: (n, b) :: rest
    else if name = n then (name, a) :: rest
    else (n, b) :: insertColumn name a rest

/-- Columns in order of their names, of those with one name the last. -/
def sortColumns (columns : List (String × Attributes)) : List (String × Attributes) :=
  columns.foldl (fun found (name, a) => insertColumn name a found) []

end Saved

end QueryReport
