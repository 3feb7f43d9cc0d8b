import QueryReport.Text.Case

/-!
# Data types and controls

The declared type of a column or parameter, and the control that captures a parameter's value.
-/

namespace QueryReport

/-- The declared type of a column or parameter. -/
inductive DataType where
  | string | integer | number | boolean | date | datetime
deriving DecidableEq, Repr, Inhabited

namespace DataType

def all : List DataType := [string, integer, number, boolean, date, datetime]

def name : DataType → String
  | string => "string"
  | integer => "integer"
  | number => "number"
  | boolean => "boolean"
  | date => "date"
  | datetime => "datetime"

/-- The type of a name or one of its synonyms, in any case. -/
def ofName? (name : String) : Option DataType :=
  match Text.lower name with
  | "string" | "text" => some string
  | "integer" | "int" => some integer
  | "number" | "numeric" | "float" => some number
  | "boolean" | "bool" => some boolean
  | "date" => some date
  | "datetime" | "timestamp" => some datetime
  | _ => none

/-- Whether values of the type are written without quotes. -/
def isNumeric : DataType → Bool
  | integer | number => true
  | _ => false

end DataType

/-- The control that captures a parameter's value. -/
inductive Control where
  | text | list | date
deriving DecidableEq, Repr, Inhabited

namespace Control

def all : List Control := [text, list, date]

def name : Control → String
  | text => "text"
  | list => "list"
  | date => "date"

end Control

end QueryReport
