import QueryReport.Sql.Parser.Statement.Column
import QueryReport.Sql.Parser.Statement.Privilege

/-!
# Reading `ALTER` and `DROP`

How objects that are there are changed or taken away.
-/

namespace QueryReport.Sql.Parser

namespace Grammar

/-! ## Operations on tables -/

/-- What is added to a table: a constraint, partitions or a column. -/
def addOperation (g : Grammar) : Parser Unit := do
  if !(← g.tableConstraint) then
    ifNotExists
    if ← clause ["PARTITION"] g.enclosedList then many (clause ["PARTITION"] g.enclosedList)
    else
      discard <| keyword "COLUMN"
      ifNotExists
      g.columnDefinition

/-- What is renamed in a table, or what the table is renamed to. -/
def renameOperation : Parser Unit := do
  if ← keyword "TO" then discard path
  else
    if !(← keyword "CONSTRAINT") then discard <| keyword "COLUMN"
    discard identifier
    expect "TO"
    discard identifier

/-- What is switched off in a table. -/
def disableOperation : Parser Unit := do
  if !(← keywords ["ROW", "LEVEL", "SECURITY"]) then
    discard <| expectOneOf ["RULE", "TRIGGER"]
    discard identifier

/-- What is switched on in a table. -/
def enableOperation : Parser Unit := do
  if !(← keywords ["ROW", "LEVEL", "SECURITY"]) then
    discard <| oneOf ["ALWAYS", "REPLICA"]
    discard <| expectOneOf ["RULE", "TRIGGER"]
    discard identifier

/-- What is taken away from a table. -/
def dropOperation (g : Grammar) : Parser Unit := do
  if ← keywords ["IF", "EXISTS", "PARTITION"] then g.enclosedList
  else if ← keyword "PARTITION" then g.enclosedList
  else if ← keyword "CONSTRAINT" then
    ifExists
    discard identifier
    discard <| keyword "CASCADE"
  else
    discard <| keywords ["PRIMARY", "KEY"]
    discard <| keyword "PROJECTION"
    if !(← keywords ["CLUSTERING", "KEY"]) then
      discard <| keyword "COLUMN"
      ifExists
      discard identifier
      discard <| keyword "CASCADE"

/-- How the numbers of a column are generated. -/
def identityClause : Parser Unit := do
  if !(← keyword "ALWAYS") then discard <| keywords ["BY", "DEFAULT"]
  expectAll ["AS", "IDENTITY"]
  optionalSequenceOptions

/-- What is changed about a column. -/
def columnOperation (g : Grammar) : Parser Unit := do
  discard <| keyword "COLUMN"
  discard identifier
  if ← keywords ["SET", "NOT", "NULL"] then pure ()
  else if ← keywords ["DROP", "NOT", "NULL"] then pure ()
  else if ← keywords ["SET", "DEFAULT"] then discard g.expression
  else if ← keywords ["DROP", "DEFAULT"] then pure ()
  else if ← keywords ["ADD", "GENERATED"] then identityClause
  else
    if !(← keywords ["SET", "DATA", "TYPE"]) then expect "TYPE"
    discard typeName
    discard <| g.expressionAfter "USING"

/-- A type with the options of a column. -/
def typeWithOptions (g : Grammar) : Parser Unit := do
  discard typeName
  many g.columnOption

/-- An operation of an `ALTER TABLE`.  Words about projections are passed over. -/
def tableOperation (g : Grammar) : Parser Unit := do
  if ← keyword "ADD" then g.addOperation
  else if ← keyword "RENAME" then renameOperation
  else if ← keyword "DISABLE" then disableOperation
  else if ← keyword "ENABLE" then enableOperation
  else
    discard <| keywords ["CLEAR", "PROJECTION"]
    discard <| keywords ["MATERIALIZE", "PROJECTION"]
    if ← keyword "DROP" then g.dropOperation
    else if ← keyword "PARTITION" then
      g.enclosedList
      expectAll ["RENAME", "TO", "PARTITION"]
      g.enclosedList
    else if ← keyword "CHANGE" then
      discard <| keyword "COLUMN"
      discard identifier
      discard identifier
      g.typeWithOptions
    else if ← keyword "MODIFY" then
      discard <| keyword "COLUMN"
      discard identifier
      g.typeWithOptions
    else if ← keyword "ALTER" then g.columnOperation
    else if ← keyword "SWAP" then
      expect "WITH"
      discard path
    else if ← keywords ["OWNER", "TO"] then discard identifier
    else if ← keywords ["CLUSTER", "BY"] then g.enclosedList
    else if ← keywords ["SUSPEND", "RECLUSTER"] then pure ()
    else if ← keywords ["RESUME", "RECLUSTER"] then pure ()
    else if !(← g.someSettings ["SET", "TBLPROPERTIES"]) then fail

/-- An `ALTER TABLE` after its words. -/
def alterTable (g : Grammar) : Parser Unit := do
  ifExists
  discard <| keyword "ONLY"
  discard path
  onCluster
  discard <| separated g.tableOperation
  if ← keyword "LOCATION" then discard identifier
  else discard <| clause ["SET", "LOCATION"] (discard identifier)

/-! ## Other objects -/

/-- An `ALTER VIEW` after its words. -/
def alterView (g : Grammar) : Parser Unit := do
  discard path
  optionalNames
  g.settings "WITH"
  expect "AS"
  discard g.query

/-- An `ALTER` after its first word. -/
def alterStatement (g : Grammar) : Parser Unit := do
  match ← expectOneOf ["VIEW", "TABLE", "INDEX", "ROLE", "POLICY"] with
  | "VIEW" => g.alterView
  | "TABLE" => g.alterTable
  | "INDEX" => do
    discard path
    expectAll ["RENAME", "TO"]
    discard path
  | "ROLE" => g.alterRole
  | _ => g.alterPolicy

/-! ## Dropping -/

/-- A `DROP` of a kind of objects that are named in a list, after its words. -/
def dropObjects (kind : String) : Parser Unit := do
  ifExists
  paths
  if kind ≠ "ROLE" then
    dropBehavior
    discard <| keyword "PURGE"

/-- A `DROP` after its first word. -/
def dropStatement (g : Grammar) : Parser Unit := do
  match ← expectOneOf ["TABLE", "VIEW", "INDEX", "ROLE", "SCHEMA", "DATABASE", "SEQUENCE", "STAGE",
      "TYPE", "FUNCTION", "PROCEDURE", "POLICY", "SECRET", "TRIGGER"] with
  | "FUNCTION" | "PROCEDURE" => do
    ifExists
    discard <| separated g.functionName
    dropBehavior
  | "POLICY" => do
    ifExists
    discard identifier
    expect "ON"
    discard path
    dropBehavior
  | "SECRET" => do
    ifExists
    discard identifier
    discard <| clause ["FROM"] nameOrSkip
  | "TRIGGER" => do
    ifExists
    discard path
    expect "ON"
    discard path
    dropBehavior
  | kind => dropObjects kind

end Grammar

end QueryReport.Sql.Parser
