import QueryReport.Error
import QueryReport.Text.Split
import QueryReport.Text.Words
import QueryReport.Value

/-!
# Parameter definitions

How a parameter is captured: its caption, control, default and the options it may be chosen from,
apart from any value it is applied with.  The options come from a list source; a source that is a
query is run by whoever holds a database.
-/

namespace QueryReport.Filter

/-- Where a parameter's options come from: a query to be run, values, or values with labels. -/
inductive ListSource where
  | query (sql : String)
  | values (values : List Value)
  | mapping (pairs : List (String × Value))
deriving DecidableEq, Repr

/-- One choice that a list offers. -/
structure ListOption where
  label : String
  value : Value
deriving DecidableEq, Repr

/-- What came of a list source: rows of a result, values, labelled values, or one text with commas
between the values. -/
inductive Resolved where
  | rows (rows : List (List Value))
  | scalars (values : List Value)
  | pairs (pairs : List (String × Value))
  | delimited (text : String)
deriving DecidableEq, Repr

/-- A value that is its own label. -/
def ListOption.same (v : Value) : ListOption := ⟨v.display, v⟩

/-- The option of a row: the first cell is its label and the last its value. -/
def ListOption.ofRow? (row : List Value) : Option ListOption :=
  match row.head?, row.getLast? with
  | some first, some last => some ⟨first.display, last⟩
  | _, _ => none

/-- The parts of a text between commas without the blanks around them, empty ones left out. -/
def commaParts (text : String) : List String :=
  ((Text.splitOn ',' text.toList).map fun part => Text.trim (String.ofList part)).filter (· ≠ "")

/-- The options in order. -/
def Resolved.options : Resolved → List ListOption
  | rows rs => rs.filterMap ListOption.ofRow?
  | scalars vs => vs.map ListOption.same
  | pairs ps => ps.map fun (label, value) => ⟨label, value⟩
  | delimited text => (commaParts text).map fun s => ListOption.same (.text s)

namespace ListSource

/-- The words of statements that change data. -/
def changingWords : List (List Char) :=
  ["insert".toList, "update".toList, "delete".toList]

/-- Whether a query text could change data. -/
def changesData (sql : String) : Bool := Text.hasWholeWord changingWords false sql.toList

/-- Whether a query text puts its rows in order. -/
def ordersRows (sql : String) : Bool := Text.hasPair "order".toList "by".toList sql.toList

/-- Whether the source is a query that puts its rows in order. -/
def isOrdered : ListSource → Bool
  | query sql => ordersRows sql
  | _ => false

/-- What a source that spells out its options resolves to. -/
def literal? : ListSource → Option Resolved
  | query _ => none
  | values vs => some (.scalars vs)
  | mapping ps => some (.pairs ps)

end ListSource

/-- How a parameter of a column is captured. -/
structure Definition where
  column : String
  caption : String
  dataType : DataType
  control : Control
  priority : Int
  defaultValue : Value
  source : Option ListSource
  ordered : Bool
  options : List ListOption
deriving DecidableEq, Repr

namespace Definition

/-- The definition of a column with nothing said about it. -/
def new (column : String) : Definition where
  column
  caption := column
  dataType := .string
  control := .text
  priority := 1
  defaultValue := .null
  source := none
  ordered := false
  options := []

/-- Whether the options are spelled out in the definition. -/
def isInline (d : Definition) : Bool :=
  match d.source with
  | some (.values _) | some (.mapping _) => true
  | _ => false

/-- Whether the list is ordered that a source gives.  A query that could change data is refused. -/
def orderOf (column : String) : Option ListSource → Except Error Bool
  | some (.query sql) =>
    if ListSource.changesData sql then .error (.listChangesData column sql)
    else .ok (ListSource.ordersRows sql)
  | _ => .ok false

/-- The options that the list source spells out. -/
def literalOptions (d : Definition) : Except Error (List ListOption) :=
  match d.source with
  | none => .ok []
  | some source =>
    match source.literal? with
    | some resolved => .ok resolved.options
    | none => .error (.listNeedsResolver d.column)

/-- The options that a resolver finds for the list source. -/
def resolvedOptions (resolve : ListSource → Except Error Resolved) (d : Definition) :
    Except Error (List ListOption) :=
  match d.source with
  | none => .ok []
  | some source => do
    let resolved ← resolve source
    pure resolved.options

/-! ## Changing a definition in place -/

/-- Steps that change a definition in place, any of which may fail. -/
abbrev Edit := ExceptT Error (StateM Definition)

namespace Edit

/-- What came of an edit, and the definition it leaves behind whether it failed or not. -/
def outcome (e : Edit Unit) (d : Definition) : Except Error Unit × Definition := e d

/-- The definition that an edit leads to, if it does not fail. -/
def result (e : Edit Unit) (d : Definition) : Except Error Definition :=
  match e.outcome d with
  | (.ok _, changed) => .ok changed
  | (.error e, _) => .error e

/-- Gives the definition another list source.  Options built before are dropped. -/
def setSource (source : Option ListSource) : Edit Unit := do
  let d ← get
  let ordered ← orderOf d.column source
  -- From here on nothing can fail.
  modify ({ · with source })
  modify ({ · with ordered })
  modify ({ · with options := [] })

/-- Builds the options that the list source spells out. -/
def build : Edit Unit := do
  let d ← get
  let options ← d.literalOptions
  modify ({ · with options })

/-- Builds the options that a resolver finds for the list source. -/
def buildWith (resolve : ListSource → Except Error Resolved) : Edit Unit := do
  let d ← get
  let options ← d.resolvedOptions resolve
  modify ({ · with options })

end Edit

/-! ## The changed definition -/

def withSource (d : Definition) (source : Option ListSource) : Except Error Definition :=
  (Edit.setSource source).result d

def build (d : Definition) : Except Error Definition := Edit.build.result d

def buildWith (resolve : ListSource → Except Error Resolved) (d : Definition) :
    Except Error Definition :=
  (Edit.buildWith resolve).result d

/-- The definition as one line of text. -/
def display (d : Definition) : String :=
  s!"PARAM COL: {d.column}: CAPTION: {d.caption} TYPE: {d.dataType.name} UI: {d.control.name} "
  ++ s!"DEFAULT: {d.defaultValue.display}"

/-- The definition that a saved one stands for.  Its list source is checked again, and whether it
is ordered follows from the source. -/
def restore (saved : Definition) : Except Error Definition := do
  let d ← { saved with source := none }.withSource saved.source
  pure { d with options := saved.options }

end Definition

end QueryReport.Filter
