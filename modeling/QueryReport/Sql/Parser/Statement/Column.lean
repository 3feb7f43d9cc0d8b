import QueryReport.Sql.Parser.Statement.Part

/-!
# Reading columns and constraints

What the definition of a table lists: columns with their types and options, and constraints on the
table as a whole.
-/

namespace QueryReport.Sql.Parser

/-! ## Constraints -/

/-- When a constraint is checked. -/
def constraintTiming : Parser Unit := eachOnce [
  do if ← keywords ["NOT", "DEFERRABLE"] then pure true else keyword "DEFERRABLE",
  clause ["INITIALLY"] (discard <| expectOneOf ["DEFERRED", "IMMEDIATE"]),
  do if ← keyword "ENFORCED" then pure true else keywords ["NOT", "ENFORCED"]]

/-- What happens to a row when the row that it refers to changes. -/
def referenceAction : Parser Unit := do
  if ← keyword "RESTRICT" then pure ()
  else if ← keyword "CASCADE" then pure ()
  else if ← keywords ["SET", "NULL"] then pure ()
  else if ← keywords ["NO", "ACTION"] then pure ()
  else expectAll ["SET", "DEFAULT"]

/-- What happens to rows when those that they refer to change, and when this is checked. -/
def referenceClauses : Parser Unit := do
  eachOnce [clause ["ON", "DELETE"] referenceAction, clause ["ON", "UPDATE"] referenceAction]
  constraintTiming

/-- Whether nulls differ from one another, if it is said. -/
def nullsDistinct : Parser Unit := do
  if ← keyword "NULLS" then
    discard <| keyword "NOT"
    expect "DISTINCT"

/-- The kind of an index, if it is said. -/
def indexKind : Parser Bool := clause ["USING"] (discard <| expectOneOf ["BTREE", "HASH"])

/-- The name, kind, columns and options of the index behind a constraint. -/
def keyColumns : Parser Unit := do
  discard <| attempt identifier
  discard indexKind
  discard nameList
  many do if ← indexKind then pure true else clause ["COMMENT"] (discard literalText)
  constraintTiming

namespace Grammar

/-- Takes a constraint on a table, if one is next. -/
def tableConstraint (g : Grammar) : Parser Bool := do
  let named ← clause ["CONSTRAINT"] (discard identifier)
  if ← keyword "UNIQUE" then
    if ["KEY", "INDEX"].contains (← peekKey) then fail
    nullsDistinct
    keyColumns
    pure true
  else if ← keyword "PRIMARY" then
    expect "KEY"
    keyColumns
    pure true
  else if ← keyword "FOREIGN" then
    expect "KEY"
    discard nameList
    expect "REFERENCES"
    discard path
    discard nameList
    referenceClauses
    pure true
  else if ← keyword "CHECK" then
    g.enclosed
    pure true
  else if named then fail
  else pure false

/-! ## Columns -/

/-- How the values of a column are generated, after the word that says so.  What is said otherwise
is passed over. -/
def generatedOption (g : Grammar) : Parser Bool := do
  if ← keywords ["ALWAYS", "AS", "IDENTITY"] then
    optionalSequenceOptions
    pure true
  else if ← keywords ["BY", "DEFAULT", "AS", "IDENTITY"] then
    optionalSequenceOptions
    pure true
  else if ← keywords ["ALWAYS", "AS"] then
    if ← peekMark "(" then
      g.enclosed
      expect "STORED"
      pure true
    else pure false
  else pure false

/-- A text between single quotes as a comment. -/
def quotedComment : Parser Unit := discard quotedText

/-- Takes an option of a column, if one is next.  Some words that are options elsewhere are passed
over and are none here. -/
def columnOption (g : Grammar) : Parser Bool := do
  if ← clause ["CHARACTER", "SET"] (discard path) then pure true
  else if ← keywords ["NOT", "NULL"] then pure true
  else if ← clause ["COMMENT"] quotedComment then pure true
  else if ← keyword "NULL" then pure true
  else if ← clause ["DEFAULT"] (discard g.expression) then pure true
  else if ← clause ["PRIMARY", "KEY"] constraintTiming then pure true
  else if ← clause ["UNIQUE"] constraintTiming then pure true
  else if ← clause ["REFERENCES"] (do discard path; optionalNames; referenceClauses) then pure true
  else if ← clause ["CHECK"] g.enclosed then pure true
  else
    for word in ["AUTO_INCREMENT", "AUTOINCREMENT", "ASC", "DESC"] do discard <| keyword word
    discard <| keywords ["ON", "UPDATE"]
    if ← keyword "GENERATED" then g.generatedOption
    else
      discard <| keyword "AS"
      discard <| keyword "IDENTITY"
      pure false

/-- The options of a column.  One that is given a name has to be there. -/
def columnOptions (g : Grammar) : Parser Unit := many do
  if ← keyword "CONSTRAINT" then
    discard identifier
    if ← g.columnOption then pure true else fail
  else g.columnOption

/-- The definition of a column. -/
def columnDefinition (g : Grammar) : Parser Unit := do
  discard identifier
  discard typeName
  discard <| after "COLLATE" path
  g.columnOptions

/-- An entry of the definition of a table. -/
def tableEntry (g : Grammar) : Parser Unit := do
  if !(← g.tableConstraint) then
    match ← peek with
    | some (.word _ _) => g.columnDefinition
    | _ => fail

/-- The columns and constraints of a table between parentheses, if an opening one is next; there may
be none. -/
def tableEntries (g : Grammar) : Parser Unit := do
  if ← mark "(" then
    if !(← mark ")") then
      discard <| separated g.tableEntry
      expectMark ")"

end Grammar

end QueryReport.Sql.Parser
