import QueryReport.Sql.Parser.Statement.Column
import QueryReport.Sql.Parser.Statement.Privilege

/-!
# Reading `CREATE`

What can be created, and how it is described.  Procedures hold statements, so the reader of these
is a parameter.
-/

namespace QueryReport.Sql.Parser

namespace Grammar

/-! ## How tables are stored -/

/-- How one part of a row is told from the next. -/
def rowMark (words : List String) : Parser Bool := clause words (discard identifier)

/-- Takes the marks between the parts of a row.  A word that begins none of them is passed over and
ends them. -/
def rowMarks : Parser Bool := do
  if ← keyword "FIELDS" then
    if ← rowMark ["TERMINATED", "BY"] then
      discard <| rowMark ["ESCAPED", "BY"]
      pure true
    else pure false
  else if ← keyword "COLLECTION" then rowMark ["ITEMS", "TERMINATED", "BY"]
  else if ← keyword "MAP" then rowMark ["KEYS", "TERMINATED", "BY"]
  else if ← keyword "LINES" then rowMark ["TERMINATED", "BY"]
  else if ← keyword "NULL" then rowMark ["DEFINED", "AS"]
  else pure false

/-- How rows are written, after `ROW`. -/
def rowFormat : Parser Unit := do
  expect "FORMAT"
  if ← keyword "SERDE" then discard literalText
  else
    discard <| keyword "DELIMITED"
    many rowMarks

/-- How files are written, after `STORED`. -/
def fileFormat (g : Grammar) : Parser Unit := do
  expect "AS"
  if ← keyword "INPUTFORMAT" then
    discard g.expression
    expect "OUTPUTFORMAT"
    discard g.expression
  else discard <| expectOneOf fileFormats

/-- How and where a table is stored. -/
def storage (g : Grammar) : Parser Unit := many do
  if ← clause ["ROW"] rowFormat then pure true
  else if ← clause ["STORED"] g.fileFormat then pure true
  else if ← clause ["LOCATION"] (discard literalText) then pure true
  else g.someSettings ["WITH", "SERDEPROPERTIES"]

/-- The columns by which a table is divided. -/
def partitionColumns (g : Grammar) : Parser Unit := discard <| clause ["PARTITIONED", "BY"]
  (discard <| parenthesized (separated g.columnDefinition))

/-! ## Tables -/

/-- A word after an equals sign. -/
def equalWord : Parser Unit := do
  expectMark "="
  anyWord

/-- A number below `2 ^ 32` after an equals sign, which may be left out. -/
def firstNumber : Parser Unit := do
  discard <| mark "="
  if Nat.pow 2 32 ≤ (← natural) then fail

/-- The order in which a table is kept: expressions, between parentheses if there are several. -/
def keptOrder (g : Grammar) : Parser Unit := do
  if ← mark "(" then
    discard <| g.expressionsBefore ")"
    expectMark ")"
  else discard g.expression

/-- What becomes of rows when a transaction is committed. -/
def onCommit : Parser Unit := do
  if !(← keywords ["DELETE", "ROWS"]) then
    if !(← keywords ["PRESERVE", "ROWS"]) then expect "DROP"

/-- The clauses after the storage of a table, in the order in which they may stand. -/
def tableClauses (g : Grammar) : Parser Unit := do
  g.settings "WITH"
  g.settings "TBLPROPERTIES"
  discard <| clause ["ENGINE"] (do equalWord; optionalNames)
  discard <| clause ["AUTO_INCREMENT"] firstNumber
  discard <| clause ["ORDER", "BY"] g.keptOrder
  discard <| clause ["PARTITION", "BY"] (discard g.expression)
  discard <| clause ["DEFAULT", "CHARSET"] equalWord
  discard <| clause ["COLLATE"] equalWord
  discard <| clause ["ON", "COMMIT"] onCommit
  discard <| keyword "STRICT"
  discard <| clause ["COMMENT"] (do discard <| mark "="; quotedComment)
  discard <| clause ["AS"] (discard g.query)

/-- A `CREATE TABLE` after its words. -/
def createTable (g : Grammar) : Parser Unit := do
  ifNotExists
  discard path
  onCluster
  if (← oneOf ["LIKE", "ILIKE"]).isSome then pathOrSkip
  if ← keyword "CLONE" then pathOrSkip
  g.tableEntries
  discard <| keywords ["WITHOUT", "ROWID"]
  g.partitionColumns
  g.storage
  g.tableClauses

/-- A `CREATE EXTERNAL TABLE` after its first two words. -/
def createExternalTable (g : Grammar) : Parser Unit := do
  expect "TABLE"
  ifNotExists
  discard path
  g.tableEntries
  g.partitionColumns
  g.storage
  g.settings "TBLPROPERTIES"

/-- A `CREATE VIRTUAL TABLE` after its first two words. -/
def createVirtualTable : Parser Unit := do
  expect "TABLE"
  ifNotExists
  discard path
  expect "USING"
  discard identifier
  optionalNames

/-! ## Views and indexes -/

/-- A `CREATE VIEW` after its words. -/
def createView (g : Grammar) : Parser Unit := do
  discard path
  if ← mark "(" then
    if !(← mark ")") then
      names
      expectMark ")"
  g.settings "WITH"
  discard <| clause ["CLUSTER"] (do expect "BY"; optionalNames)
  expect "AS"
  discard g.query

/-- A `CREATE INDEX` after its words. -/
def createIndex (g : Grammar) : Parser Unit := do
  discard <| keyword "CONCURRENTLY"
  let named ← keywords ["IF", "NOT", "EXISTS"]
  let unnamed ← if named then pure false else keyword "ON"
  if !unnamed then
    discard path
    expect "ON"
  discard path
  discard <| clause ["USING"] (discard identifier)
  discard <| parenthesized g.orderKeys
  discard <| clause ["INCLUDE"] (discard nameList)
  nullsDistinct
  discard <| clause ["WITH"] g.enclosedList
  discard <| g.expressionAfter "WHERE"

/-! ## Functions, triggers and procedures -/

/-- The body of a function as a text. -/
def bodyText : Parser Unit := do
  match ← rest with
  | .literal (.dollar _ _) :: ts => set ts
  | _ => discard literalText

/-- What a function may say of itself, each once. -/
def functionClauses (g : Grammar) : List (Parser Bool) := [
  do
    if ← clause ["AS"] bodyText then pure true
    else clause ["RETURN"] (discard g.expression),
  clause ["LANGUAGE"] (discard identifier),
  do return (← oneOf ["IMMUTABLE", "STABLE", "VOLATILE"]).isSome,
  do
    if ← keywords ["CALLED", "ON", "NULL", "INPUT"] then pure true
    else if ← keywords ["RETURNS", "NULL", "ON", "NULL", "INPUT"] then pure true
    else keyword "STRICT",
  clause ["PARALLEL"] (discard <| expectOneOf ["UNSAFE", "RESTRICTED", "SAFE"])]

/-- A `CREATE FUNCTION` after its words. -/
def createFunction (g : Grammar) : Parser Unit := do
  discard path
  expectMark "("
  if !(← peekMark ")") then discard <| separated g.declaredArgument
  expectMark ")"
  discard <| clause ["RETURNS"] (discard typeName)
  eachOnce g.functionClauses

/-- What a trigger waits for. -/
def triggerEvent : Parser Unit := do
  if (← expectOneOf ["INSERT", "UPDATE", "DELETE", "TRUNCATE"]) = "UPDATE" then
    discard <| clause ["OF"] names

/-- Takes a name for the rows before or after a change.  The word for these is passed over even if
no name follows. -/
def triggerRows : Parser Bool := do
  if (← oneOf ["OLD", "NEW"]).isNone then pure false
  else clause ["TABLE"] (do discard <| keyword "AS"; discard path)

/-- A `CREATE TRIGGER` after its words. -/
def createTrigger (g : Grammar) : Parser Unit := do
  discard path
  if (← expectOneOf ["BEFORE", "AFTER", "INSTEAD"]) = "INSTEAD" then expect "OF"
  triggerEvent
  many (clause ["OR"] triggerEvent)
  expect "ON"
  discard path
  discard <| clause ["FROM"] pathOrSkip
  constraintTiming
  discard <| clause ["REFERENCING"] (many triggerRows)
  expect "FOR"
  discard <| keyword "EACH"
  discard <| expectOneOf ["ROW", "STATEMENT"]
  discard <| g.expressionAfter "WHEN"
  expect "EXECUTE"
  discard <| expectOneOf ["FUNCTION", "PROCEDURE"]
  g.functionName

/-- Names with their types up to a closing parenthesis; commas may stand before it and, after the
opening one, in place of names.  The number bounds them. -/
def parametersUpTo : Nat → Parser Unit
  | 0 => fail
  | count + 1 => do
    match ← peek with
    | some (.word _ _) => do
      discard identifier
      discard typeName
    | _ => pure ()
    let comma ← mark ","
    if !(← mark ")") then
      if comma then parametersUpTo count else fail

/-- A `CREATE PROCEDURE` after its words; `body` reads the statements in it. -/
def createProcedure (body : Parser Unit) : Parser Unit := do
  discard path
  if ← mark "(" then
    if !(← mark ")") then parametersUpTo ((← rest).length + 1)
  expectAll ["AS", "BEGIN"]
  body
  expect "END"

/-! ## Types, schemas and other objects -/

/-- The attributes of a type up to a closing parenthesis, before which a comma may stand; the number
bounds them. -/
def attributesUpTo : Nat → Parser Unit
  | 0 => fail
  | count + 1 => do
    discard identifier
    discard typeName
    discard <| after "COLLATE" path
    let comma ← mark ","
    if !(← mark ")") then
      if comma then attributesUpTo count else fail

/-- A `CREATE TYPE` after its words. -/
def createType : Parser Unit := do
  discard path
  expect "AS"
  if ← mark "(" then
    if !(← mark ")") then attributesUpTo ((← rest).length + 1)

/-- The start of a type that lists its values. -/
def labelTypeNext : Parser Unit := do
  expectAll ["CREATE", "TYPE"]
  discard path
  expectAll ["AS", "ENUM"]

/-- The values of a type that lists them. -/
def labelNames : Parser Unit := parenthesized do
  if !(← peekMark ")") then names

/-- A `CREATE SCHEMA` after its words. -/
def createSchema : Parser Unit := do
  ifNotExists
  if !(← keyword "AUTHORIZATION") then
    discard path
    discard <| clause ["AUTHORIZATION"] (discard identifier)
  else discard identifier

/-- A `CREATE DATABASE` after its words. -/
def createDatabase : Parser Unit := do
  ifNotExists
  discard path
  many do
    if (← oneOf ["LOCATION", "MANAGEDLOCATION"]).isSome then
      discard literalText
      pure true
    else pure false

/-- A `CREATE SEQUENCE` after its words. -/
def createSequence : Parser Unit := do
  ifNotExists
  discard path
  discard <| clause ["AS"] (discard typeName)
  sequenceOptions
  discard <| clause ["OWNED", "BY"] (do if !(← keyword "NONE") then discard path)

/-- A `CREATE EXTENSION` after its words. -/
def createExtension : Parser Unit := do
  ifNotExists
  discard identifier
  if ← keyword "WITH" then
    discard <| clause ["SCHEMA"] (discard identifier)
    discard <| clause ["VERSION"] (discard identifier)
    discard <| keyword "CASCADE"

/-- Where a secret is kept, or its name; a token that is no name is passed over. -/
def secretPlace : Parser Unit := do
  if !(← peekMark "(") then
    if ← keyword "IN" then secretStore
    else
      nameOrSkip
      if ← keyword "IN" then nameOrSkip
where
  secretStore : Parser Unit := do
    match ← next with
    | some (.word _ _) | some (.literal (.string _)) => pure ()
    | _ => if ← keyword "IN" then nameOrSkip

/-- A `CREATE SECRET` after its words. -/
def createSecret : Parser Unit := do
  ifNotExists
  secretPlace
  parenthesized do
    expect "TYPE"
    discard identifier
    if ← mark "," then
      discard <| separated (do discard identifier; discard identifier)

/-! ## All of them -/

/-- A `CREATE` after its first word; `body` reads the statements of a procedure.  What may replace
something that is there already is fewer kinds of objects. -/
def createObject (g : Grammar) (body : Parser Unit) : Parser Unit := do
  let replaces ← keywords ["OR", "REPLACE"]
  discard <| keywords ["OR", "ALTER"]
  for word in ["LOCAL", "GLOBAL", "TRANSIENT"] do discard <| keyword word
  discard <| oneOf ["TEMP", "TEMPORARY"]
  if ← keyword "TABLE" then g.createTable
  else if ← keywords ["MATERIALIZED", "VIEW"] then g.createView
  else if ← keyword "VIEW" then g.createView
  else if ← keyword "POLICY" then g.createPolicy
  else if ← keyword "EXTERNAL" then g.createExternalTable
  else if ← keyword "FUNCTION" then g.createFunction
  else if ← keyword "TRIGGER" then g.createTrigger
  else if ← keywords ["CONSTRAINT", "TRIGGER"] then g.createTrigger
  else if ← keyword "SECRET" then createSecret
  else if replaces then fail
  else if ← keyword "EXTENSION" then createExtension
  else if ← keyword "INDEX" then g.createIndex
  else if ← keywords ["UNIQUE", "INDEX"] then g.createIndex
  else if ← keyword "VIRTUAL" then createVirtualTable
  else if ← keyword "SCHEMA" then createSchema
  else if ← keyword "DATABASE" then createDatabase
  else if ← keyword "ROLE" then createRole
  else if ← keyword "SEQUENCE" then createSequence
  else if ← keyword "TYPE" then createType
  else if ← keyword "PROCEDURE" then createProcedure body
  else fail

/-- A `CREATE` with its first word.  A type that lists its values is looked for first. -/
def createStatement (g : Grammar) (body : Parser Unit) : Parser Unit := do
  match ← attempt labelTypeNext with
  | some _ => labelNames
  | none =>
    expect "CREATE"
    g.createObject body

end Grammar

end QueryReport.Sql.Parser
