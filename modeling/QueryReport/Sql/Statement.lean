import QueryReport.Sql.Lexer
import QueryReport.Sql.Parser.Statement.Alter
import QueryReport.Sql.Parser.Statement.Create
import QueryReport.Sql.Parser.Statement.Rows
import QueryReport.Sql.Parser.Statement.Session

/-!
# Statements

Texts of one or more statements.  A query is kept; of other statements only the form matters, so
they are read and dropped.

* `parse` reads a text as statements.
* `parseQuery` reads a text as exactly one query.
-/

namespace QueryReport.Sql

/-- A statement: a query, or something else. -/
inductive Statement where
  | query (query : Query)
  | other
deriving DecidableEq

/-- How deeply statements, queries and expressions may nest. -/
def nestingLimit : Nat := 50

namespace Parser

/-! ## Statements in statements -/

/-- Statements with semicolons between them; `between` says that one has just ended, after which
only the word `END` or the end of the text may stand.  `count` bounds the statements and
semicolons. -/
def statementsUpTo (statement : Parser Statement) (between : Bool) : Nat → Parser (List Statement)
  | 0 => fail
  | count + 1 => do
    if ← mark ";" then statementsUpTo statement false count
    else
      match ← peek with
      | none => pure []
      | some t =>
        if between then
          if keyOf (some t) = "END" then pure [] else fail
        else
          let s ← statement
          let more ← statementsUpTo statement true count
          pure (s :: more)

/-- Statements with semicolons between them. -/
def statements (statement : Parser Statement) : Parser (List Statement) := do
  statementsUpTo statement false (2 * (← rest).length + 2)

/-! ## Explanations -/

/-- Words that introduce a statement that explains another. -/
def explaining : List String := ["EXPLAIN", "DESC", "DESCRIBE"]

/-- An option of an `EXPLAIN`: a name, and a value if one follows. -/
def explainOption (g : Grammar) : Parser Unit := do
  discard identifier
  if !(← peekMark ",") then
    if !(← peekMark ")") then discard g.expression

/-- What stands between the first word of an `EXPLAIN` and what it explains. -/
def explainOptions (g : Grammar) (word : String) : Parser Unit := do
  let listed ← if word = "EXPLAIN" then peekMark "(" else pure false
  if listed then discard <| parenthesized (separated (explainOption g))
  else if !(← keywords ["QUERY", "PLAN"]) then
    discard <| keyword "ANALYZE"
    discard <| keyword "VERBOSE"
    discard <| clause ["FORMAT"] (discard <| expectOneOf ["TEXT", "JSON", "GRAPHVIZ"])

/-- An `EXPLAIN` or `DESCRIBE` after its first word: a statement, which may not explain in turn, or a
table. -/
def explainStatement (g : Grammar) (statement : Parser Statement) (word : String) : Parser Unit := do
  explainOptions g word
  -- An `EXPLAIN` of an `EXPLAIN` is read as a statement, and refused afterwards.
  let explained ← peekKey
  match ← attempt statement with
  | some _ => if explaining.contains explained then fail
  | none =>
    discard <| oneOf ["EXTENDED", "FORMATTED"]
    discard path

/-- A `PREPARE` after its first word: the types of the arguments may stand in parentheses. -/
def prepareStatement (statement : Parser Statement) : Parser Unit := do
  discard identifier
  if ← peekMark "(" then discard <| parenthesized (separated typeName)
  expect "AS"
  discard statement

/-! ## Statements that are no queries -/

/-- The kinds of objects a comment may be on. -/
def commentedKinds : List String :=
  ["COLUMN", "TABLE", "EXTENSION", "SCHEMA", "DATABASE", "USER", "ROLE"]

/-- A `COMMENT` after its first word. -/
def commentStatement : Parser Unit := do
  ifExists
  expect "ON"
  discard <| expectOneOf commentedKinds
  discard path
  expect "IS"
  if !(← keyword "NULL") then discard literalText

/-- The rest of a statement after its first word, if it is no query; `statement` reads the statements
in it. -/
def otherStatement (g : Grammar) (statement : Parser Statement) (key : String) : Parser Unit :=
  match key with
  | "ALTER" => g.alterStatement
  | "ANALYZE" => g.analyzeStatement
  | "ASSERT" => g.assertStatement
  | "ATTACH" => g.attachStatement
  | "BEGIN" => beginStatement
  | "CACHE" => g.cacheStatement
  | "CALL" => g.callStatement
  | "CLOSE" => closeStatement
  | "COMMENT" => commentStatement
  | "COMMIT" | "END" => commitStatement
  | "COPY" => g.copyStatement
  | "DEALLOCATE" => deallocateStatement
  | "DECLARE" => g.declareStatement
  | "DELETE" => g.deleteStatement
  | "DESC" | "DESCRIBE" | "EXPLAIN" => explainStatement g statement key
  | "DISCARD" => discardStatement
  | "DROP" => g.dropStatement
  | "EXEC" | "EXECUTE" => g.executeStatement
  | "FETCH" => Grammar.fetchStatement
  | "GRANT" => grantStatement
  | "INSERT" => discard g.insert
  | "KILL" => killStatement
  | "LISTEN" | "LOAD" | "SAVEPOINT" => discard identifier
  | "MERGE" => g.mergeStatement
  | "MSCK" => repairStatement
  | "NOTIFY" => notifyStatement
  | "PRAGMA" => pragmaStatement
  | "PREPARE" => prepareStatement statement
  | "RELEASE" => releaseStatement
  | "REVOKE" => revokeStatement
  | "ROLLBACK" => rollbackStatement
  | "SET" => g.setStatement
  | "SHOW" => g.showStatement
  | "START" => startStatement
  | "TRUNCATE" => g.truncateStatement
  | "UNCACHE" => uncacheStatement
  | "UNLISTEN" => unlistenStatement
  | "UNLOAD" => g.unloadStatement
  | "UPDATE" => discard g.update
  | "USE" => discard path
  | _ => fail

/-! ## Statements -/

/-- A statement; `depth` bounds the nesting. -/
def statementAt : Nat → Parser Statement
  | 0 => throw .tooDeep
  | depth + 1 => do
    let g := grammar depth
    match ← rest with
    | .symbol "(" :: _ => .query <$> g.query
    | .word _ key :: ts =>
      if ["SELECT", "WITH", "VALUES"].contains key then .query <$> g.query
      else if key = "CREATE" then
        g.createStatement (discard <| statements (statementAt depth))
        pure .other
      else
        set ts
        otherStatement g (statementAt depth) key
        pure .other
    | _ => fail

end Parser

/-- The statements of a text. -/
def parse (text : String) : Except Fault (List Statement) := do
  let ts ← tokens text
  let (statements, _) ← (Parser.statements (Parser.statementAt nestingLimit)).run ts
  pure statements

/-- The one query of a text. -/
def parseQuery (text : String) : Except Fault Query := do
  match ← parse text with
  | [.query q] => pure q
  | _ => throw (.notAQuery text)

end QueryReport.Sql
