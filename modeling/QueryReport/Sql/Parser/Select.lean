import QueryReport.Sql.Parser.Source

/-!
# Reading `SELECT`

The clauses of a plain `SELECT` in the order in which they stand.
-/

namespace QueryReport.Sql.Parser.Grammar

/-- Whether an expression is the word `from` without quotes, which is no target. -/
def isBareFrom : Expr → Bool
  | .column ⟨value, none⟩ => Text.lower value == "from"
  | _ => false

/-- A target entry.  A star has no name. -/
def selectItem (g : Grammar) : Parser SelectItem := do
  match ← star with
  | some e => pure ⟨e, none⟩
  | none =>
    let e ← g.expression
    if isBareFrom e then fail
    else
      let label ← label notColumnLabels
      pure ⟨e, label⟩

/-- Whether duplicates are dropped, and by which keys. -/
def distinctClause (g : Grammar) : Parser (DistinctWord × Exprs) := do
  let all ← keyword "ALL"
  if !(← keyword "DISTINCT") then pure (.unstated, .nil)
  else if all then fail
  else if ← keyword "ON" then
    let keys ← parenthesized (g.expressionsBefore ")")
    pure (.on, keys)
  else pure (.distinct, .nil)

/-- How many rows `TOP` asks for. -/
def topClause (g : Grammar) : Parser (Top × MaybeExpr) := do
  if !(← keyword "TOP") then pure (.unstated, .none)
  else if ← peekMark "(" then
    let count ← parenthesized g.expression
    let percent ← keyword "PERCENT"
    let withTies ← keywords ["WITH", "TIES"]
    pure (.computed percent withTies, .some count)
  else
    let count ← natural
    let percent ← keyword "PERCENT"
    let withTies ← keywords ["WITH", "TIES"]
    pure (.count count percent withTies, .none)

/-- The table that the result is written to. -/
def intoClause : Parser (Option IntoTable) := do
  if ← keyword "INTO" then
    let temporary := (← oneOf ["TEMP", "TEMPORARY"]).isSome
    let unlogged ← keyword "UNLOGGED"
    let table ← keyword "TABLE"
    let name ← path
    pure (some ⟨temporary, unlogged, table, name⟩)
  else pure none

/-- Words that end the names of a view's columns. -/
def notViewColumns : List String := ["WHERE", "GROUP", "CLUSTER", "HAVING", "LATERAL"]

/-- The views that are computed row by row; `count` bounds them.  Names for columns may be left out
between commas. -/
def lateralViews (g : Grammar) : Nat → Parser (List LateralView)
  | 0 => fail
  | count + 1 => do
    if ← keywords ["LATERAL", "VIEW"] then
      let outer ← keyword "OUTER"
      let expr ← g.expression
      let name ← path
      let columns ← separated (Parser.label notViewColumns)
      return ⟨outer, expr, name, columns.filterMap id⟩ :: (← g.lateralViews count)
    else pure []

/-- A row of grouping keys between parentheses; it may be empty. -/
def groupingRow (g : Grammar) : Parser Expr :=
  .tuple <$> parenthesized (g.expressionsBefore ")")

/-- A row of grouping keys, or a single key without parentheses. -/
def groupingRowOrKey (g : Grammar) : Parser Expr := do
  if ← peekMark "(" then g.groupingRow
  else
    let e ← g.expression
    pure (.tuple (.cons e .nil))

/-- A grouping key. -/
def groupingKey (g : Grammar) : Parser Expr := do
  if ← keywords ["GROUPING", "SETS"] then
    (fun rows => .groupingSets (.ofList rows)) <$> parenthesized (separated g.groupingRow)
  else if ← keyword "CUBE" then
    (fun rows => .cube (.ofList rows)) <$> parenthesized (separated g.groupingRowOrKey)
  else if ← keyword "ROLLUP" then
    (fun rows => .rollup (.ofList rows)) <$> parenthesized (separated g.groupingRowOrKey)
  else
    match ← rest with
    | .symbol "(" :: .symbol ")" :: ts =>
      set ts
      pure (.tuple .nil)
    | _ => g.expression

/-- The grouping keys, or that all targets are keys. -/
def groupClause (g : Grammar) : Parser (Bool × Exprs) := do
  if ← keywords ["GROUP", "BY"] then
    if ← keyword "ALL" then pure (true, .nil)
    else
      let keys ← separated g.groupingKey
      pure (false, .ofList keys)
  else pure (false, .nil)

/-- A window with its name. -/
def namedWindow (g : Grammar) : Parser NamedWindow := do
  let name ← identifier
  expect "AS"
  expectMark "("
  let window ← g.window
  pure ⟨name, window⟩

/-- The windows after `WINDOW`. -/
def namedWindows (g : Grammar) : Parser NamedWindows :=
  NamedWindows.ofList <$> separated g.namedWindow

/-- The clauses `WINDOW` and `QUALIFY` in either order, and whether the windows come first. -/
def windowClauses (g : Grammar) : Parser (NamedWindows × MaybeExpr × Bool) := do
  if ← keyword "WINDOW" then
    let windows ← g.namedWindows
    let qualify ← g.expressionAfter "QUALIFY"
    pure (windows, qualify, true)
  else if ← keyword "QUALIFY" then
    let qualify ← g.expression
    if ← keyword "WINDOW" then
      let windows ← g.namedWindows
      pure (windows, .some qualify, false)
    else pure (.nil, .some qualify, false)
  else pure (.nil, .none, false)

/-- A `SELECT` up to its filter, with nothing in the clauses after that. -/
def selectStart (g : Grammar) : Parser Select := do
  expect "SELECT"
  let (word, distinctOn) ← g.distinctClause
  let (top, topCount) ← g.topClause
  let targets ← separated g.selectItem
  let into ← intoClause
  let sources ← listAfter ["FROM"] g.source
  let views ← g.lateralViews ((← rest).length + 1)
  pure {
    distinctOn, top, topCount, into
    distinct := word
    targets := .ofList targets
    sources := .ofList sources
    lateralViews := .ofList views
    filter := .none
    groupAll := false
    groupBy := .nil
    clusterBy := .nil
    distributeBy := .nil
    sortBy := .nil
    having := .none
    windows := .nil
    qualify := .none
    windowsFirst := false }

/-- A `SELECT` with the clauses after its filter. -/
def selectEnd (g : Grammar) (s : Select) : Parser Select := do
  let (groupAll, groupBy) ← g.groupClause
  let clusterBy ← g.expressionsAfter ["CLUSTER", "BY"]
  let distributeBy ← g.expressionsAfter ["DISTRIBUTE", "BY"]
  let sortBy ← g.expressionsAfter ["SORT", "BY"]
  let having ← g.expressionAfter "HAVING"
  let (windows, qualify, windowsFirst) ← g.windowClauses
  pure {
    s with
    groupAll, groupBy, clusterBy, distributeBy, sortBy, having, windows, qualify, windowsFirst }

/-- A plain `SELECT`. -/
def select (g : Grammar) : Parser Select := do
  let s ← g.selectStart
  let filter ← g.expressionAfter "WHERE"
  g.selectEnd { s with filter }

end QueryReport.Sql.Parser.Grammar
