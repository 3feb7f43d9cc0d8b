import QueryReport.Report.Basic
import QueryReport.Text.Padding

/-!
# Listings

The columns and parameters of a report as text for a person.
-/

namespace QueryReport.Report

open Text

/-- A row of the listing of columns; what stands last is not filled up. -/
def listingRow (number name reference caption tail : String) : String :=
  padLeft 3 number ++ "  " ++ padRight 24 name ++ " " ++ padRight 24 reference ++ " "
    ++ padRight 24 caption ++ " " ++ tail

/-- What is special about a column. -/
def flags (c : Column) : List String :=
  (if c.attributes.hide then ["hidden"] else [])
    ++ (if c.attributes.pinned then ["pinned"] else [])
    ++ (if c.attributes.groupable then ["groupable"] else [])
    ++ (if c.isAggregate then ["aggregate"] else [])

/-- The row of a column. -/
def columnRow (c : Column) : String :=
  listingRow (toString c.attributes.sequenceNo) c.name (c.path.getD "-") c.attributes.caption
    (c.attributes.dataType.name ++ " " ++ ",".intercalate (flags c))

/-- The lines about a report: its caption, its columns in order, and its definitions. -/
def listing (r : Report) : List String :=
  (match r.caption with
    | some caption => [caption, ""]
    | none => [])
  ++ listingRow "#" "NAME" "REFERENCE" "CAPTION" (padRight 9 "TYPE" ++ " FLAGS")
    :: r.orderedColumns.map columnRow
  ++ (if r.definitions.isEmpty then []
      else "" :: "Parameters:" :: r.definitions.map fun d => "  " ++ d.display)

end QueryReport.Report
