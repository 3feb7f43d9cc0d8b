import QueryReport.Report.Basic

/-!
# Changing a report in place

The operations that change a report, each as the steps it consists of.  A step that fails ends the
operation, and what was assigned before it stays assigned: that a failed operation leaves the report
as it was comes from the order of the steps and is a theorem, not a matter of types.

* `Change` is the type of operations; `Change.outcome` runs one.
* `Report.setSql`, `Report.removeColumns`, … give the changed report, or the reason for failure.
-/

namespace QueryReport

open Sql QueryReport.Filter

/-- Steps that change a report in place, any of which may fail. -/
abbrev Change := ExceptT Error (StateM Report)

namespace Change

/-- What came of an operation, and the report it leaves behind whether it failed or not. -/
def outcome {α : Type} (c : Change α) (r : Report) : Except Error α × Report := c r

/-- The report that an operation leads to, if it does not fail. -/
def result (c : Change Unit) (r : Report) : Except Error Report :=
  match c.outcome r with
  | (.ok _, changed) => .ok changed
  | (.error e, _) => .error e

/-! ## The query -/

/-- Adopts the query of a text.  It has to be one plain `SELECT`, all of whose targets have names
of their own.  Paging and order are those of the query. -/
def setSql (text : String) : Change Unit := do
  let r ← get
  let q ← Report.selectOf text
  let columns ← r.columnsOf q
  let limit ← Report.statedCount "LIMIT" q.limit
  let offset ← Report.statedCount "OFFSET" q.offset
  -- From here on nothing can fail.
  modify ({ · with order := Report.statedOrder q })
  modify ({ · with limit })
  modify ({ · with offset })
  modify ({ · with columns })
  modify ({ · with baseline := some q })
  modify ({ · with working := none })
  modify ({ · with sql := some text })

/-- Takes columns out of the query itself. -/
def removeColumns (names : List String) : Change Unit := do
  let r ← get
  let removed ← r.namedColumns names
  let baseline ← r.required
  -- From here on nothing can fail.
  removed.forM fun c => modify fun r => { r with order := r.order.map (Report.orderWithout · c) }
  modify fun r => { r with order := r.order.filter (!·.isEmpty) }
  let baseline := removed.foldl Report.withoutColumn baseline
  modify fun r => { r with columns := r.columns.filter fun c => !names.contains c.name }
  modify ({ · with sql := some baseline.text })
  modify ({ · with baseline := some baseline })
  modify ({ · with working := r.working.map fun q => removed.foldl Report.withoutColumn q })

/-- Puts one array column in place of several columns, in front of the others. -/
def convertToArray (name : String) (names : List String) : Change Unit := do
  let r ← get
  let converted ← r.namedColumns names
  let target ← Report.arrayTarget name converted
  let baseline ← r.required
  let baseline := Report.withArray baseline target converted
  let columns ← r.columnsOf baseline
  -- From here on nothing can fail.
  modify ({ · with columns })
  modify ({ · with sql := some baseline.text })
  modify ({ · with baseline := some baseline })
  modify ({ · with working := none })

/-! ## Definitions -/

/-- Adds a definition for a column that has none. -/
def addDefinition (d : Definition) : Change Unit := do
  let r ← get
  if (r.definition? d.column).isSome then throw (.duplicateDefinition d.column)
  modify fun r => { r with definitions := r.definitions ++ [d] }

/-! ## Filters and order -/

/-- Makes the working copy from a query, with the paging the report holds. -/
def work (q : Query) (params : List Parameter) : Change Unit := do
  let r ← get
  let working ← Report.filtered ((q.withLimit r.limit).withOffset r.offset) params
  modify ({ · with working := some working })

/-- Filters the query by parameters besides its own filter.  Without parameters only the paging of
the working copy is renewed. -/
def applyParams (params : List Parameter) : Change Unit := do
  let r ← get
  let q ← r.filterBase params
  work q params

/-- Filters the query by parameters instead of its own filter. -/
def replaceFilter (params : List Parameter) : Change Unit := do
  let r ← get
  let q ← r.required
  work (q.withFilter none) params

/-- Sorts by the keys of a text; blank text is no order. -/
def setOrder (text : Option String) : Change Unit := do
  let order ← Report.readOrder text
  modify ({ · with order })

end Change

namespace Report

/-! ## The changed report -/

def setSql (r : Report) (text : String) : Except Error Report := (Change.setSql text).result r

def removeColumns (r : Report) (names : List String) : Except Error Report :=
  (Change.removeColumns names).result r

def convertToArray (r : Report) (name : String) (names : List String) : Except Error Report :=
  (Change.convertToArray name names).result r

def addDefinition (r : Report) (d : Definition) : Except Error Report :=
  (Change.addDefinition d).result r

def applyParams (r : Report) (params : List Parameter) : Except Error Report :=
  (Change.applyParams params).result r

def replaceFilter (r : Report) (params : List Parameter) : Except Error Report :=
  (Change.replaceFilter params).result r

def setOrder (r : Report) (text : Option String) : Except Error Report :=
  (Change.setOrder text).result r

/-- Changes the column with a name. -/
def mapColumn (r : Report) (name : String) (f : Column → Column) : Report :=
  { r with columns := changeFirst r.columns }
where
  changeFirst : List Column → List Column
    | [] => []
    | c :: cs => if c.name = name then f c :: cs else c :: changeFirst cs

end Report

end QueryReport
