import QueryReport.Sql.Parser.Change
import QueryReport.Sql.Parser.Expression

/-!
# Reading queries

A query is a body with the clauses around it; a body is a `SELECT`, a list of rows, a table or a
query in parentheses, or several of these put together.  `grammar` closes the circle: its readers
for one level of nesting are made of those for the level below.
-/

namespace QueryReport.Sql.Parser.Grammar

/-! ## Bodies -/

/-- The rows after `VALUES`. -/
def valueRows (g : Grammar) : Parser Body := do
  let rows ← separated do
    let word ← keyword "ROW"
    let row ← parenthesized g.expressions
    pure (word, Expr.tuple row)
  pure (.values (rows.any (·.1)) (.ofList (rows.map (·.2))))

/-- A table after `TABLE`.  Three tokens are taken, of which the name may need only one. -/
def wholeTable : Parser Body := do
  let first ← next
  let second ← next
  let third ← next
  match first, second, third with
  | some (.word schema _), some (.symbol "."), some (.word name _) =>
    pure (.table (some schema.value) name.value)
  | some (.word _ _), some (.symbol "."), _ => fail
  | some (.word name _), _, _ => pure (.table none name.value)
  | _, _, _ => fail

/-- A body that no set operation puts together. -/
def simpleBody (g : Grammar) : Parser Body := do
  match ← peekKey with
  | "SELECT" => .select <$> g.select
  | "VALUES" => do
    let _ ← next
    g.valueRows
  | "TABLE" => do
    let _ ← next
    wholeTable
  | _ => .query <$> parenthesized g.query

/-- What a set operation does with duplicates and names. -/
def setQuantifier : Parser SetQuantifier := do
  if ← keywords ["DISTINCT", "BY", "NAME"] then pure .distinctByName
  else if ← keywords ["BY", "NAME"] then pure .byName
  else if ← keyword "ALL" then
    if ← keywords ["BY", "NAME"] then pure .allByName else pure .all
  else if ← keyword "DISTINCT" then pure .distinct
  else pure .unstated

/-- The bodies that `INTERSECT` adds to a body; `count` bounds them. -/
def intersections (g : Grammar) (left : Body) : Nat → Parser Body
  | 0 => fail
  | count + 1 => do
    if ← keyword "INTERSECT" then
      let quantifier ← setQuantifier
      let right ← g.simpleBody
      g.intersections (.setOp left .intersect quantifier right) count
    else pure left

/-- A body put together by `INTERSECT` alone. -/
def intersection (g : Grammar) : Parser Body := do
  let left ← g.simpleBody
  g.intersections left ((← rest).length + 1)

/-- The bodies that `UNION` and `EXCEPT` add to a body; `count` bounds them. -/
def unions (g : Grammar) (left : Body) : Nat → Parser Body
  | 0 => fail
  | count + 1 => do
    match ← oneOf ["UNION", "EXCEPT"] with
    | none => pure left
    | some word =>
      let op := if word = "UNION" then SetOp.union else .except
      let quantifier ← setQuantifier
      let right ← g.intersection
      g.unions (.setOp left op quantifier right) count

/-- A body.  `INTERSECT` binds more tightly than `UNION` and `EXCEPT`, which bind to the left. -/
def body (g : Grammar) : Parser Body := do
  let left ← g.intersection
  g.unions left ((← rest).length + 1)

/-! ## The clauses around a body -/

/-- Whether a common table expression says how it is stored. -/
def materialized : Parser Materialized := do
  if ← keyword "MATERIALIZED" then pure .yes
  else if ← keywords ["NOT", "MATERIALIZED"] then pure .no
  else pure .unstated

/-- A common table expression. -/
def commonTable (g : Grammar) : Parser CommonTable := do
  let name ← identifier
  let columns ← if (← peekKey) = "AS" then pure [] else aliasColumns
  expect "AS"
  let materialized ← materialized
  let query ← parenthesized g.query
  let source ← after "FROM" identifier
  pure ⟨⟨name, columns⟩, materialized, query, source⟩

/-- The row limit after `LIMIT`; all rows are no limit. -/
def limitClause (g : Grammar) : Parser MaybeExpr := do
  if ← keyword "ALL" then pure .none else .some <$> g.expression

/-- The number of rows to skip after `OFFSET`, and the word after it. -/
def offsetClause (g : Grammar) : Parser (Expr × OffsetWord) := do
  let count ← g.expression
  if ← keyword "ROW" then pure (count, .row)
  else if ← keyword "ROWS" then pure (count, .rows)
  else pure (count, .unstated)

/-- The limit and the number of rows to skip, which come in either order. -/
structure Paging where
  limit : MaybeExpr := .none
  offset : MaybeExpr := .none
  offsetWord : OffsetWord := .unstated

/-- One round of looking for `LIMIT` and `OFFSET` where they have not been found yet. -/
def pagingRound (g : Grammar) (p : Paging) : Parser Paging := do
  let p ← match p.limit with
    | .none => do
      if ← keyword "LIMIT" then
        let limit ← g.limitClause
        pure { p with limit }
      else pure p
    | .some _ => pure p
  match p.offset with
  | .none => do
    if ← keyword "OFFSET" then
      let (count, offsetWord) ← g.offsetClause
      pure { p with offset := .some count, offsetWord }
    else pure p
  | .some _ => pure p

/-- A `FETCH` clause after its first word. -/
def fetchClause : Parser Fetch := do
  let _ ← expectOneOf ["FIRST", "NEXT"]
  let (quantity, percent) ←
    match ← oneOf ["ROW", "ROWS"] with
    | some _ => pure (none, false)
    | none => do
      let quantity ← constant
      let percent ← keyword "PERCENT"
      let _ ← expectOneOf ["ROW", "ROWS"]
      pure (some quantity, percent)
  if ← keyword "ONLY" then pure ⟨quantity, percent, false⟩
  else
    expectAll ["WITH", "TIES"]
    pure ⟨quantity, percent, true⟩

/-- What is done about rows that are locked already. -/
def lockWait : Parser LockWait := do
  if ← keyword "NOWAIT" then pure .nowait
  else if ← keywords ["SKIP", "LOCKED"] then pure .skip
  else pure .block

/-- A locking clause after its first word. -/
def lockClause : Parser Lock := do
  let word ← expectOneOf ["UPDATE", "SHARE"]
  let of ← after "OF" path
  let wait ← lockWait
  pure ⟨word = "UPDATE", of, wait⟩

/-- The name of an element between parentheses. -/
def elementName : Parser String := parenthesized literalText

/-- The shape of the elements that `FOR XML` makes. -/
def xmlShape : Parser XmlShape := do
  match ← expectOneOf ["RAW", "AUTO", "EXPLICIT", "PATH"] with
  | "RAW" => do
    let name ← if ← peekMark "(" then some <$> elementName else pure none
    pure (.raw name)
  | "AUTO" => pure .auto
  | "EXPLICIT" => pure .explicit
  | _ => do
    let name ← if ← peekMark "(" then some <$> elementName else pure none
    pure (.path name)

/-- The options that `FOR XML` and `FOR JSON` may have. -/
structure FormOptions where
  elements : Bool := false
  base64 : Bool := false
  typed : Bool := false
  withNulls : Bool := false
  withoutArray : Bool := false
  root : Option String := none

/-- One option of `FOR XML`; what is no option is left for what follows. -/
def xmlOption (o : FormOptions) : Parser FormOptions := do
  if ← keyword "ELEMENTS" then pure { o with elements := true }
  else if ← keyword "BINARY" then
    expect "BASE64"
    pure { o with base64 := true }
  else if ← keyword "ROOT" then
    let root ← elementName
    pure { o with root := some root }
  else if ← keyword "TYPE" then pure { o with typed := true }
  else pure o

/-- One option of `FOR JSON`; what is no option is left for what follows. -/
def jsonOption (o : FormOptions) : Parser FormOptions := do
  if ← keyword "ROOT" then
    let root ← elementName
    pure { o with root := some root }
  else if ← keyword "INCLUDE_NULL_VALUES" then pure { o with withNulls := true }
  else if ← keyword "WITHOUT_ARRAY_WRAPPER" then pure { o with withoutArray := true }
  else pure o

/-- The options with a comma before each; `count` bounds them. -/
def formOptions (option : FormOptions → Parser FormOptions) (o : FormOptions) :
    Nat → Parser FormOptions
  | 0 => fail
  | count + 1 => do
    if ← mark "," then
      let o ← option o
      formOptions option o count
    else pure o

/-- What is made of the result as a whole, after `FOR`, if it is next. -/
def resultForm : Parser (Option ResultForm) := do
  if ← keyword "XML" then
    let shape ← xmlShape
    let o ← formOptions xmlOption {} ((← rest).length + 1)
    pure (some (.xml shape o.elements o.base64 o.root o.typed))
  else if ← keyword "JSON" then
    let word ← expectOneOf ["AUTO", "PATH"]
    let o ← formOptions jsonOption {} ((← rest).length + 1)
    pure (some (.json (word = "AUTO") o.root o.withNulls o.withoutArray))
  else if ← keyword "BROWSE" then pure (some .browse)
  else pure none

/-- The locking clauses, and what is made of the result as a whole if the last says so; `count`
bounds them. -/
def forClauses : Nat → Parser (List Lock × Option ResultForm)
  | 0 => fail
  | count + 1 => do
    if ← keyword "FOR" then
      match ← resultForm with
      | some form => pure ([], some form)
      | none =>
        let lock ← lockClause
        let (more, form) ← forClauses count
        pure (lock :: more, form)
    else pure ([], none)

/-- A query with nothing around its body. -/
def bareQuery (recursive : Bool) (tables : CommonTables) (body : Body) : Query :=
  ⟨recursive, tables, body, .nil, .none, .none, .unstated, none, [], none⟩

/-- The common table expressions after `WITH`, if it is next. -/
def withClause (g : Grammar) : Parser (Bool × CommonTables) := do
  if ← keyword "WITH" then
    let recursive ← keyword "RECURSIVE"
    let tables ← separated g.commonTable
    pure (recursive, .ofList tables)
  else pure (false, .nil)

/-- A query with the clauses after its body. -/
def queryEnd (g : Grammar) (recursive : Bool) (tables : CommonTables) (body : Body) :
    Parser Query := do
  let order ← g.orderBy
  let paging ← g.pagingRound {}
  let paging ← g.pagingRound paging
  let fetch ← after "FETCH" fetchClause
  let (locks, form) ← forClauses ((← rest).length + 1)
  pure {
    recursive, tables, body, order, fetch, locks, form
    limit := paging.limit
    offset := paging.offset
    offsetWord := paging.offsetWord }

/-- A query.  An `INSERT` or `UPDATE` has no clauses after it. -/
def queryAt (g : Grammar) : Parser Query := do
  let (recursive, tables) ← g.withClause
  if ← keyword "INSERT" then bareQuery recursive tables <$> g.insert
  else if ← keyword "UPDATE" then bareQuery recursive tables <$> g.update
  else
    let body ← g.body
    g.queryEnd recursive tables body

end Grammar

/-- The readers for a number of levels of nesting. -/
def grammar : Nat → Grammar
  | 0 => .exhausted
  | depth + 1 => ⟨(grammar depth).operationAt, (grammar depth).queryAt⟩

end QueryReport.Sql.Parser
