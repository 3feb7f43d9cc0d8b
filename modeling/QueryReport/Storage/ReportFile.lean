import QueryReport.Document.Yaml.Printer
import QueryReport.Document.Yaml.Reader
import QueryReport.Report.Saving
import QueryReport.Saved.Decode
import QueryReport.Saved.Encode

/-!
# Report files

A saved report as the text of a file.  The SQL is kept without the blanks around it and with one
kind of line break, so that it is written as a block of lines.

* `ReportFile.write` gives the text of a saved report.
* `ReportFile.read` gives the saved report of a text.
-/

namespace QueryReport.ReportFile

/-- SQL with one kind of line break and no blanks around it. -/
def normalizeSql (sql : String) : String := String.ofList (unify (Text.trim sql).toList)
where
  /-- The text with a line feed for every line break. -/
  unify : List Char → List Char
    | [] => []
    | '\r' :: '\n' :: rest => '\n' :: unify rest
    | c :: rest => (if c = '\r' then '\n' else c) :: unify rest

/-- The saved report that is written for a saved report. -/
def normalize (saved : Saved.Report) : Saved.Report :=
  { saved with sql := normalizeSql saved.sql }

/-- The text of a saved report. -/
def write (saved : Saved.Report) : String :=
  Document.Yaml.print (Saved.encode (normalize saved))

/-- The saved report of a text. -/
def read (text : String) : Except StoreError Saved.Report :=
  match Document.Yaml.read? Saved.shape text with
  | none => .error (.document "not a document")
  | some n => (Saved.decode Saved.yamlRules n).mapError fun fault => .document fault.message

/-- A path that a report can be kept at. -/
def checkPath (path : String) : Except StoreError Unit :=
  if Text.isBlankText path then .error .blankPath else .ok ()

/-- The saved report in a file, whose text or fault is given. -/
def readAt (path : String) (found : Except AccessFault String) : Except StoreError Saved.Report := do
  let text ← found.mapError (.access path)
  read text

end QueryReport.ReportFile
