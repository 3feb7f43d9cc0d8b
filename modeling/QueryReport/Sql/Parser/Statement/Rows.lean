import QueryReport.Sql.Parser.Statement.Part

/-!
# Reading statements about the rows of tables

How rows are deleted, merged, copied in and out, and how tables are emptied, examined and kept at
hand.
-/

namespace QueryReport.Sql.Parser

/-! ## Copying -/

/-- Whether a switch is on; nothing means that it is. -/
def switchValue : Parser Unit := discard <| oneOf ["TRUE", "FALSE"]

/-- An option of a `COPY` in a list. -/
def copyOption : Parser Unit := do
  match ← expectOneOf ["FORMAT", "FREEZE", "DELIMITER", "NULL", "HEADER", "QUOTE", "ESCAPE",
      "FORCE_QUOTE", "FORCE_NOT_NULL", "FORCE_NULL", "ENCODING"] with
  | "FORMAT" => discard identifier
  | "FREEZE" | "HEADER" => switchValue
  | "DELIMITER" | "QUOTE" | "ESCAPE" => oneByte
  | "NULL" | "ENCODING" => discard literalText
  | _ => discard nameList

/-- What a parser reads, with `AS` before it if it is written. -/
def optionallyAs (p : Parser Unit) : Parser Unit := do
  discard <| keyword "AS"
  p

/-- An option for files with commas, without a list. -/
def csvOption : Parser Unit := do
  match ← expectOneOf ["HEADER", "QUOTE", "ESCAPE", "FORCE"] with
  | "HEADER" => pure ()
  | "FORCE" => do
    if !(← keywords ["NOT", "NULL"]) then expect "QUOTE"
    names
  | _ => optionallyAs oneByte

/-- Whether a parser reads something, in which case it is taken. -/
def taken (p : Parser Unit) : Parser Bool := Option.isSome <$> attempt p

/-- An option of a `COPY` without a list. -/
def plainCopyOption : Parser Unit := do
  match ← expectOneOf ["BINARY", "DELIMITER", "NULL", "CSV"] with
  | "BINARY" => pure ()
  | "DELIMITER" => optionallyAs oneByte
  | "NULL" => optionallyAs (discard literalText)
  | _ => many (taken csvOption)

/-- Takes rows that are written out after a `COPY`, up to a backslash and a point. -/
def inlineRows : Nat → Parser Unit
  | 0 => pure ()
  | count + 1 => do
    match ← next with
    | none => pure ()
    | some (.symbol "\\") =>
      if !(← mark ".") then
        discard next
        inlineRows count
    | some _ => inlineRows count

namespace Grammar

/-- A `COPY` after its first word.  A query can be copied out only. -/
def copyStatement (g : Grammar) : Parser Unit := do
  if ← peekMark "(" then
    discard <| parenthesized g.query
    expect "TO"
  else
    discard path
    optionalNames
    discard <| expectOneOf ["FROM", "TO"]
  let inline ← keyword "STDIN"
  if !inline then
    if !(← keyword "STDOUT") then
      discard <| keyword "PROGRAM"
      discard literalText
  discard <| keyword "WITH"
  if ← peekMark "(" then discard <| parenthesized (separated copyOption)
  many (taken plainCopyOption)
  if inline then
    expectMark ";"
    inlineRows (← rest).length

/-- An `UNLOAD` after its first word. -/
def unloadStatement (g : Grammar) : Parser Unit := do
  discard <| parenthesized g.query
  expect "TO"
  discard identifier
  g.settings "WITH"

/-! ## Deleting and merging -/

/-- A `DELETE` after its first word. -/
def deleteStatement (g : Grammar) : Parser Unit := do
  if !(← keyword "FROM") then
    paths
    expect "FROM"
  discard <| separated g.source
  discard <| listAfter ["USING"] g.source
  discard <| g.expressionAfter "WHERE"
  discard g.returning
  discard g.orderBy
  if ← keyword "LIMIT" then discard g.limitClause

/-- What a `MERGE` does with rows of one kind; `absent` says that they are missing. -/
def mergeAction (g : Grammar) (absent : Bool) : Parser Unit := do
  if absent then
    expect "INSERT"
    optionalNames
    expect "VALUES"
    discard g.valueRows
  else if !(← keyword "DELETE") then
    expectAll ["UPDATE", "SET"]
    discard g.assignments

/-- Which rows without a match a `MERGE` speaks of: those that are missing, unless it is those of the
table itself. -/
def speaksOfMissing : Parser Bool := do
  if ← keywords ["BY", "SOURCE"] then pure false
  else
    discard <| keywords ["BY", "TARGET"]
    pure true

/-- A clause of a `MERGE`. -/
def mergeClause (g : Grammar) : Parser Unit := do
  expect "WHEN"
  let negated ← keyword "NOT"
  expect "MATCHED"
  let absent ← if negated then speaksOfMissing else pure false
  discard <| g.expressionAfter "AND"
  expect "THEN"
  g.mergeAction absent

/-- A `MERGE` after its first word. -/
def mergeStatement (g : Grammar) : Parser Unit := do
  discard <| keyword "INTO"
  discard g.table
  expect "USING"
  discard g.table
  expect "ON"
  discard g.expression
  many do
    match ← peek with
    | none | some (.symbol ";") => pure false
    | some _ =>
      g.mergeClause
      pure true

/-! ## Whole tables -/

/-- A `TRUNCATE` after its first word. -/
def truncateStatement (g : Grammar) : Parser Unit := do
  discard <| keyword "TABLE"
  discard <| keyword "ONLY"
  paths
  discard <| clause ["PARTITION"] g.enclosedList
  if !(← keywords ["RESTART", "IDENTITY"]) then discard <| keywords ["CONTINUE", "IDENTITY"]
  dropBehavior
  onCluster

/-- An `ANALYZE` after its first word. -/
def analyzeStatement (g : Grammar) : Parser Unit := do
  expect "TABLE"
  discard path
  many do
    if ← clause ["PARTITION"] g.enclosedList then pure true
    else if ← keyword "NOSCAN" then pure true
    else if ← clause ["FOR"] (do expect "COLUMNS"; discard <| attempt names) then pure true
    else if ← clause ["CACHE"] (expect "METADATA") then pure true
    else clause ["COMPUTE"] (expect "STATISTICS")

/-- A `CACHE` after its first word.  A table that is not all there is has a query. -/
def cacheStatement (g : Grammar) : Parser Unit := do
  if !(← keyword "TABLE") then
    discard path
    expect "TABLE"
  discard path
  if (← peek).isSome then
    g.settings "OPTIONS"
    match ← peek with
    | none => pure ()
    | some (.word _ _) => do
      discard <| keyword "AS"
      discard g.query
    | some _ => fail

end Grammar

/-- An `UNCACHE` after its first word. -/
def uncacheStatement : Parser Unit := do
  expect "TABLE"
  ifExists
  discard path

/-- An `MSCK` after its first word. -/
def repairStatement : Parser Unit := do
  discard <| keyword "REPAIR"
  expect "TABLE"
  discard path
  discard <| attempt do
    discard <| oneOf ["ADD", "DROP", "SYNC"]
    expect "PARTITIONS"

end QueryReport.Sql.Parser
