import QueryReport.Sql.Parser.Statement.Part

/-!
# Reading statements about privileges

Who may do what: privileges granted and revoked, roles with their options, and policies on the rows
of a table.
-/

namespace QueryReport.Sql.Parser

/-! ## Privileges -/

/-- A privilege, with the columns it is limited to if it may be. -/
def privilege : Parser Unit := do
  let key ← expectOneOf ["CONNECT", "CREATE", "DELETE", "EXECUTE", "INSERT", "REFERENCES", "SELECT",
    "TEMPORARY", "TRIGGER", "TRUNCATE", "UPDATE", "USAGE"]
  if ["INSERT", "REFERENCES", "SELECT", "UPDATE"].contains key then optionalNames

/-- Privileges and the objects that they are on. -/
def privilegesOnObjects : Parser Unit := do
  if ← keyword "ALL" then discard <| keyword "PRIVILEGES"
  else discard <| separated privilege
  expect "ON"
  if !(← keywords ["ALL", "TABLES", "IN", "SCHEMA"]) then
    if !(← keywords ["ALL", "SEQUENCES", "IN", "SCHEMA"]) then
      discard <| oneOf ["SEQUENCE", "SCHEMA", "TABLE"]
  paths

/-- Who grants a privilege. -/
def grantedBy : Parser Unit := discard <| clause ["GRANTED", "BY"] (discard identifier)

/-- A `GRANT` after its first word. -/
def grantStatement : Parser Unit := do
  privilegesOnObjects
  expect "TO"
  names
  discard <| keywords ["WITH", "GRANT", "OPTION"]
  grantedBy

/-- A `REVOKE` after its first word. -/
def revokeStatement : Parser Unit := do
  privilegesOnObjects
  expect "FROM"
  names
  grantedBy
  dropBehavior

/-! ## Roles -/

/-- A password, which may be null. -/
def password : Parser Unit := do
  if !(← keyword "NULL") then discard constant

/-- Takes the word or its opposite. -/
def eitherWord (word opposite : String) : Parser Bool := Option.isSome <$> oneOf [word, opposite]

/-- The options that a role has whether it is made or altered. -/
def roleOptions : List (Parser Bool) := [
  eitherWord "LOGIN" "NOLOGIN", eitherWord "INHERIT" "NOINHERIT",
  eitherWord "BYPASSRLS" "NOBYPASSRLS", eitherWord "CREATEDB" "NOCREATEDB",
  eitherWord "CREATEROLE" "NOCREATEROLE", eitherWord "SUPERUSER" "NOSUPERUSER",
  eitherWord "REPLICATION" "NOREPLICATION", clause ["PASSWORD"] password,
  clause ["CONNECTION"] (do expect "LIMIT"; discard numberText),
  clause ["VALID"] (do expect "UNTIL"; discard constant)]

/-- The options that only a new role has: the roles it belongs to and those that belong to it. -/
def newRoleOptions : List (Parser Bool) := [
  clause ["IN", "ROLE"] names, clause ["IN", "GROUP"] names, clause ["ROLE"] names,
  clause ["USER"] names, clause ["ADMIN"] names]

/-- A `CREATE ROLE` after its words. -/
def createRole : Parser Unit := do
  ifNotExists
  paths
  discard <| keyword "WITH"
  eachOnce (roleOptions ++ newRoleOptions)

/-- Takes an option of a role, if one can be read. -/
def roleOption : Parser Bool := do
  match ← attempt (firstOf roleOptions) with
  | some (some _) => pure true
  | _ => pure false

namespace Grammar

/-- A setting that a role is given. -/
def roleAssignment (g : Grammar) : Parser Unit := do
  discard path
  if !(← keywords ["FROM", "CURRENT"]) then
    if !(← mark "=") then expect "TO"
    if !(← keyword "DEFAULT") then discard g.expression

/-- An `ALTER ROLE` after its words. -/
def alterRole (g : Grammar) : Parser Unit := do
  discard identifier
  discard <| clause ["IN", "DATABASE"] pathOrSkip
  if ← keyword "RENAME" then
    expect "TO"
    discard identifier
  else if ← keyword "SET" then g.roleAssignment
  else if ← keyword "RESET" then
    if !(← keyword "ALL") then discard path
  else
    discard <| keyword "WITH"
    if ← roleOption then many roleOption else fail

/-! ## Policies -/

/-- The conditions of a policy. -/
def policyConditions (g : Grammar) : Parser Unit := do
  discard <| clause ["TO"] names
  discard <| clause ["USING"] g.enclosed
  discard <| clause ["WITH", "CHECK"] g.enclosed

/-- A `CREATE POLICY` after its words. -/
def createPolicy (g : Grammar) : Parser Unit := do
  discard identifier
  expect "ON"
  discard path
  discard <| clause ["AS"] (discard <| expectOneOf ["PERMISSIVE", "RESTRICTIVE"])
  discard <| clause ["FOR"]
    (discard <| expectOneOf ["ALL", "SELECT", "INSERT", "UPDATE", "DELETE"])
  g.policyConditions

/-- An `ALTER POLICY` after its words. -/
def alterPolicy (g : Grammar) : Parser Unit := do
  discard identifier
  expect "ON"
  discard path
  if ← keyword "RENAME" then
    expect "TO"
    discard identifier
  else g.policyConditions

end Grammar

end QueryReport.Sql.Parser
