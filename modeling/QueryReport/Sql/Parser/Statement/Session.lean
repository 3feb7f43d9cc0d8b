import QueryReport.Sql.Parser.Statement.Transaction

/-!
# Reading statements about a session

What a session is set to, what it shows, the cursors and prepared statements it holds, and the
messages it listens to.
-/

namespace QueryReport.Sql.Parser

/-! ## Settings -/

/-- The role that a session takes on. -/
def roleSetting : Parser Unit := do
  expect "ROLE"
  if !(← keyword "NONE") then discard identifier

namespace Grammar

/-- A value of a setting: an expression, or a query without parentheses. -/
def settingValue (g : Grammar) : Parser Unit := do
  if ← queryNext then discard g.query else discard g.expression

/-- The values of a setting with the given name, or what stands for them; `plain` says that the
setting is for no part of the session. -/
def settingValues (g : Grammar) (plain : Bool) (name : String) : Parser Unit := do
  if ← mark "=" then discard <| separated g.settingValue
  else if ← keyword "TO" then discard <| separated g.settingValue
  else if name.toUpper = "TIMEZONE" then discard g.expression
  else if name = "CHARACTERISTICS" then
    expectAll ["AS", "TRANSACTION"]
    transactionModes
  else if name = "TRANSACTION" && plain then
    if ← keyword "SNAPSHOT" then discard constant else transactionModes
  else fail

/-- A `SET` after its first word. -/
def setStatement (g : Grammar) : Parser Unit := do
  let part ← oneOf ["SESSION", "LOCAL", "HIVEVAR"]
  let role ←
    if part = some "HIVEVAR" then do
      expectMark ":"
      pure none
    else attempt roleSetting
  if role.isNone then
    let name ← if ← keywords ["TIME", "ZONE"] then pure "TIMEZONE" else Path.text <$> path
    g.settingValues part.isNone name

/-! ## Lists of objects -/

/-- Which of the objects are shown. -/
def shownOnly (g : Grammar) : Parser Unit := do
  if ← keyword "LIKE" then discard literalText
  else if ← keyword "ILIKE" then discard literalText
  else if ← keyword "WHERE" then discard g.expression
  else discard <| attempt literalText

/-- What the shown objects belong to. -/
def shownIn : Parser Unit := do
  if (← oneOf ["FROM", "IN"]).isSome then
    match ← oneOf ["ACCOUNT", "DATABASE", "SCHEMA", "TABLE", "VIEW"] with
    | some kind =>
      let start ← rest
      let ended := keyOf start.head? = "LIMIT"
        || (start.take 2).map (fun t => keyOf (some t)) = ["STARTS", "WITH"]
      if !(ended && (kind = "DATABASE" || kind = "SCHEMA")) then discard <| attempt path
    | none =>
      discard path
      if (← oneOf ["FROM", "IN"]).isSome then discard identifier

/-- The clauses after the kind of objects that are shown. -/
def shownClauses (g : Grammar) : Parser Unit := do
  shownIn
  g.shownOnly
  if ← keywords ["STARTS", "WITH"] then discard constant
  if ← keyword "LIMIT" then discard g.limitClause
  if ← keyword "FROM" then discard constant

/-- Takes the clauses with `HISTORY` before them, if the word may stand there. -/
def shownHistory (g : Grammar) (allowed : Bool) : Parser Unit := do
  if allowed then discard <| keyword "HISTORY"
  g.shownClauses

/-- A `SHOW` after its first word.  What is no list of objects goes on to the next equals sign. -/
def showStatement (g : Grammar) : Parser Unit := do
  discard <| keyword "TERSE"
  let extended ← keyword "EXTENDED"
  let full ← keyword "FULL"
  discard <| keyword "SESSION"
  discard <| keyword "GLOBAL"
  let outside ← keyword "EXTERNAL"
  if (← oneOf ["COLUMNS", "FIELDS"]).isSome then g.shownClauses
  else if ← keyword "TABLES" then g.shownHistory (!outside)
  else if ← keywords ["MATERIALIZED", "VIEWS"] then g.shownClauses
  else if ← keyword "VIEWS" then g.shownClauses
  else if ← keyword "FUNCTIONS" then g.shownOnly
  else if extended || full then fail
  else if ← keyword "CREATE" then
    discard <| expectOneOf ["TABLE", "TRIGGER", "FUNCTION", "PROCEDURE", "EVENT", "VIEW"]
    discard path
  else if ← keyword "COLLATION" then g.shownOnly
  else
    discard <| keyword "VARIABLES"
    discard <| keyword "STATUS"
    if (← oneOf ["DATABASES", "SCHEMAS"]).isSome then g.shownHistory true
    else set ((← rest).dropWhile (· ≠ .symbol "="))

/-! ## Cursors -/

/-- A `DECLARE` after its first word. -/
def declareStatement (g : Grammar) : Parser Unit := do
  discard identifier
  discard <| keyword "BINARY"
  discard <| oneOf ["INSENSITIVE", "ASENSITIVE"]
  if !(← keyword "SCROLL") then discard <| keywords ["NO", "SCROLL"]
  expect "CURSOR"
  if (← oneOf ["WITH", "WITHOUT"]).isSome then expect "HOLD"
  expect "FOR"
  discard g.query

/-- Which rows a cursor fetches. -/
def fetchDirection : Parser Unit := do
  match ← oneOf ["NEXT", "PRIOR", "FIRST", "LAST", "ABSOLUTE", "RELATIVE", "FORWARD", "BACKWARD",
      "ALL"] with
  | none | some "ABSOLUTE" | some "RELATIVE" => discard numberText
  | some "FORWARD" | some "BACKWARD" => do
    if !(← keyword "ALL") then discard numberText
  | some _ => pure ()

/-- A `FETCH` after its first word. -/
def fetchStatement : Parser Unit := do
  fetchDirection
  discard <| expectOneOf ["FROM", "IN"]
  discard identifier
  discard <| after "INTO" path

/-! ## Prepared statements and calls -/

/-- An `EXECUTE` after its first word: the arguments may stand in parentheses. -/
def executeStatement (g : Grammar) : Parser Unit := do
  discard path
  if ← mark "(" then
    discard <| g.expressionsBefore ")"
    expectMark ")"
  else
    match ← peek with
    | none | some (.symbol ";") => pure ()
    | some t => if keyOf (some t) ≠ "USING" then discard g.expressions
  discard <| listAfter ["USING"] g.expression

/-- A `CALL` after its first word. -/
def callStatement (g : Grammar) : Parser Unit := do
  let name ← path
  if ← peekMark "(" then discard <| g.callOf name false

/-! ## Other statements -/

/-- An `ASSERT` after its first word. -/
def assertStatement (g : Grammar) : Parser Unit := do
  discard g.expression
  discard <| g.expressionAfter "AS"

/-- An `ATTACH` after its first word. -/
def attachStatement (g : Grammar) : Parser Unit := do
  discard <| keyword "DATABASE"
  discard g.expression
  expect "AS"
  discard identifier

end Grammar

/-- A `KILL` after its first word. -/
def killStatement : Parser Unit := do
  discard <| oneOf ["CONNECTION", "QUERY"]
  discard natural

/-- A `DEALLOCATE` after its first word. -/
def deallocateStatement : Parser Unit := do
  discard <| keyword "PREPARE"
  discard identifier

/-- A `CLOSE` after its first word. -/
def closeStatement : Parser Unit := do
  if !(← keyword "ALL") then discard identifier

/-- An `UNLISTEN` after its first word. -/
def unlistenStatement : Parser Unit := do
  if !(← mark "*") then discard identifier

/-- A `NOTIFY` after its first word. -/
def notifyStatement : Parser Unit := do
  discard identifier
  if ← mark "," then discard literalText

/-- The value of a `PRAGMA`. -/
def pragmaValue : Parser Unit := do
  match ← constant with
  | .string _ | .doubleQuoted _ | .number _ _ | .placeholder _ => pure ()
  | _ => fail

/-- A `PRAGMA` after its first word. -/
def pragmaStatement : Parser Unit := do
  discard path
  if ← peekMark "(" then parenthesized pragmaValue
  else if ← mark "=" then pragmaValue

/-- A `DISCARD` after its first word. -/
def discardStatement : Parser Unit :=
  discard <| expectOneOf ["ALL", "PLANS", "SEQUENCES", "TEMP", "TEMPORARY"]

end QueryReport.Sql.Parser
