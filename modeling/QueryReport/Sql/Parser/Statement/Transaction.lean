import QueryReport.Sql.Parser.Statement.Part

/-!
# Reading statements about transactions

How a transaction begins, ends, and is marked on the way.
-/

namespace QueryReport.Sql.Parser

/-- How far a transaction is shielded from others. -/
def isolationLevel : Parser Unit := do
  if ← keywords ["READ", "UNCOMMITTED"] then pure ()
  else if ← keywords ["READ", "COMMITTED"] then pure ()
  else if ← keywords ["REPEATABLE", "READ"] then pure ()
  else expect "SERIALIZABLE"

/-- Takes the mode of a transaction, if one is next. -/
def transactionMode : Parser Bool := do
  if ← keywords ["ISOLATION", "LEVEL"] then
    isolationLevel
    pure true
  else if ← keywords ["READ", "ONLY"] then pure true
  else keywords ["READ", "WRITE"]

/-- Modes of a transaction, between which commas may stand; `required` says that one has to follow.
The number bounds them. -/
def transactionModesFrom (required : Bool) : Nat → Parser Unit
  | 0 => fail
  | count + 1 => do
    if ← transactionMode then
      let comma ← mark ","
      transactionModesFrom comma count
    else if required then fail

/-- Modes of a transaction. -/
def transactionModes : Parser Unit := do transactionModesFrom false ((← rest).length + 1)

/-- A `START` after its first word. -/
def startStatement : Parser Unit := do
  expect "TRANSACTION"
  transactionModes

/-- A `BEGIN` after its first word. -/
def beginStatement : Parser Unit := do
  discard <| oneOf ["TRANSACTION", "WORK"]
  transactionModes

/-- A `COMMIT` or `END` after its first word: whether another transaction begins at once. -/
def commitStatement : Parser Unit := do
  discard <| oneOf ["TRANSACTION", "WORK"]
  if ← keyword "AND" then
    discard <| keyword "NO"
    expect "CHAIN"

/-- A `ROLLBACK` after its first word. -/
def rollbackStatement : Parser Unit := do
  commitStatement
  if ← keyword "TO" then
    discard <| keyword "SAVEPOINT"
    discard identifier

/-- A `RELEASE` after its first word. -/
def releaseStatement : Parser Unit := do
  discard <| keyword "SAVEPOINT"
  discard identifier

end QueryReport.Sql.Parser
