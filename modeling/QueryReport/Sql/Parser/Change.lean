import QueryReport.Sql.Parser.Select

/-!
# Reading `INSERT` and `UPDATE`

The two statements that change rows and may stand where a query stands.  Both are read after their
first word, and both may end with the targets they return.
-/

namespace QueryReport.Sql.Parser.Grammar

/-! ## Parts -/

/-- What is done when a row breaks a rule, if it is said. -/
def conflictRule : Parser (Option ConflictRule) := do
  if ← keywords ["OR", "REPLACE"] then pure (some .replace)
  else if ← keywords ["OR", "ROLLBACK"] then pure (some .rollback)
  else if ← keywords ["OR", "ABORT"] then pure (some .abort)
  else if ← keywords ["OR", "FAIL"] then pure (some .fail)
  else if ← keywords ["OR", "IGNORE"] then pure (some .ignore)
  else if ← keyword "REPLACE" then pure (some .replace)
  else pure none

/-- A value assigned to a column, or to several in parentheses. -/
def assignment (g : Grammar) : Parser Assignment := do
  let target ←
    if ← peekMark "(" then .row <$> parenthesized (separated path)
    else .column <$> path
  expectMark "="
  let value ← g.expression
  pure ⟨target, value⟩

/-- Assignments with commas between them. -/
def assignments (g : Grammar) : Parser Assignments := Assignments.ofList <$> separated g.assignment

/-- The targets after `RETURNING`, if it is next. -/
def returning (g : Grammar) : Parser SelectItems :=
  SelectItems.ofList <$> listAfter ["RETURNING"] g.selectItem

/-! ## `INSERT` -/

/-- The formats of files. -/
def fileFormats : List String :=
  ["TEXTFILE", "SEQUENCEFILE", "ORC", "PARQUET", "AVRO", "RCFILE", "JSONFILE"]

/-- The format of files after `STORED AS`, if it is next. -/
def storedAs : Parser (Option String) := do
  if ← keywords ["STORED", "AS"] then some <$> expectOneOf fileFormats else pure none

/-- The rows that count as being there already. -/
def conflictTarget : Parser ConflictTarget := do
  if ← keywords ["ON", "CONSTRAINT"] then .constraint <$> path
  else if ← peekMark "(" then .columns <$> nameList
  else pure .any

/-- What an `INSERT` does about rows that are there already. -/
def onExisting (g : Grammar) : Parser OnExisting := do
  if !(← keyword "ON") then pure .unstated
  else if ← keyword "CONFLICT" then
    let target ← conflictTarget
    expect "DO"
    if ← keyword "NOTHING" then pure (.skip target)
    else
      expectAll ["UPDATE", "SET"]
      let values ← g.assignments
      let filter ← g.expressionAfter "WHERE"
      pure (.update target values filter)
  else
    expectAll ["DUPLICATE", "KEY", "UPDATE"]
    .updateDuplicates <$> g.assignments

/-- Whether a `SELECT` in parentheses is next. -/
def selectInParentheses : Parser Bool := do
  match ← rest with
  | .symbol "(" :: t :: _ => pure (keyOf (some t) = "SELECT")
  | _ => pure false

/-- The columns and the partition that rows are put into, and the rows. -/
def insertedRows (g : Grammar) : Parser (List Ident × Exprs × MaybeQuery) := do
  if ← keywords ["DEFAULT", "VALUES"] then pure ([], .nil, .none)
  else if ← selectInParentheses then
    let rows ← g.query
    pure ([], .nil, .some rows)
  else
    let columns ← if ← peekMark "(" then nameList else pure []
    let partition ← if ← keyword "PARTITION" then parenthesized g.expressions else pure .nil
    let rows ← g.query
    pure (columns, partition, .some rows)

/-- An `INSERT` after its first word. -/
def insert (g : Grammar) : Parser Body := do
  let rule ← conflictRule
  let overwrite ← keyword "OVERWRITE"
  let into ← keyword "INTO"
  let onHost ← keyword "LOCAL"
  if ← keyword "DIRECTORY" then
    let directory ← literalText
    let format ← storedAs
    let rows ← g.query
    pure (.insertFiles overwrite onHost directory format rows)
  else
    let table ← keyword "TABLE"
    let name ← path
    let label ← after "AS" identifier
    let (columns, partition, rows) ← g.insertedRows
    let existing ← g.onExisting
    let returned ← g.returning
    pure (.insert ⟨rule, overwrite, into, table, name, label, columns⟩ partition rows existing returned)

/-! ## `UPDATE` -/

/-- An `UPDATE` after its first word. -/
def update (g : Grammar) : Parser Body := do
  let rule ← conflictRule
  let ⟨table, joins⟩ ← g.source
  expect "SET"
  let values ← g.assignments
  let source ← after "FROM" g.source
  let filter ← g.expressionAfter "WHERE"
  let returned ← g.returning
  pure (.update rule table joins values (.ofList source.toList) filter returned)

end QueryReport.Sql.Parser.Grammar
