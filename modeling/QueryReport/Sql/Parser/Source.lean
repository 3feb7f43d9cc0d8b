import QueryReport.Sql.Parser.Call

/-!
# Reading what a query reads from

Tables of every kind, and the joins between them.
-/

namespace QueryReport.Sql.Parser.Grammar

/-! ## Labels -/

/-- A column of a table's label, with its type if one follows. -/
def aliasColumn : Parser AliasColumn := do
  let name ← identifier
  let type ← attempt typeName
  pure ⟨name, type⟩

/-- The columns of a table's label. -/
def aliasColumns : Parser (List AliasColumn) := do
  if ← peekMark "(" then parenthesized (separated aliasColumn) else pure []

/-- The name given to a table, with names for its columns. -/
def tableLabel : Parser (Option TableAlias) := do
  match ← label notTableLabels with
  | some name =>
    let columns ← aliasColumns
    pure (some ⟨name, columns⟩)
  | none => pure none

/-! ## Tables -/

/-- A query as a table, after its opening parenthesis. -/
def derivedTable (g : Grammar) (lateral : Bool) : Parser Table := do
  let query ← g.query
  expectMark ")"
  let label ← tableLabel
  pure (.derived lateral query label)

/-- A table after `LATERAL`. -/
def lateralTable (g : Grammar) : Parser Table := do
  if ← mark "(" then g.derivedTable true
  else
    let name ← path
    expectMark "("
    let args ← g.tableArguments
    let label ← tableLabel
    pure (.lateralCall name args label)

/-- Arrays as a table, after the word that says so. -/
def unnestTable (g : Grammar) : Parser Table := do
  let arrays ← parenthesized g.expressions
  let ordinality ← keywords ["WITH", "ORDINALITY"]
  let label ← tableLabel
  let offset ← if ← keyword "WITH" then keyword "OFFSET" else pure false
  let offsetLabel ← if offset then Parser.label notColumnLabels else pure none
  pure (.unnest arrays ordinality label offset offsetLabel)

/-- Hints after a table: expressions after `WITH`, which may also begin something else. -/
def hints (g : Grammar) : Parser Exprs := do
  match ← rest with
  | .word _ "WITH" :: .symbol "(" :: ts =>
    set ts
    let es ← g.expressions
    expectMark ")"
    pure es
  | _ => pure .nil

/-- A table by its name, or the call of a table function. -/
def namedTable (g : Grammar) : Parser Table := do
  let name ← path
  let args ← if ← mark "(" then some <$> g.tableArguments else pure none
  let ordinality ← keywords ["WITH", "ORDINALITY"]
  let label ← tableLabel
  let hints ← g.hints
  match args with
  | some args => pure (.called name args ordinality label hints)
  | none => pure (.named name ordinality label hints)

/-! ## Tables made of documents -/

/-- Takes a keyword with an opening parenthesis right after it, if they are next. -/
def openedKeyword (key : String) : Parser Bool := do
  match ← rest with
  | .word _ k :: .symbol "(" :: ts => if k = key then set ts; pure true else pure false
  | _ => pure false

/-- What stands for a value that is missing or wrong, if it is said next. -/
def jsonFallback : Parser (Option JsonDefault) := do
  if ← keyword "NULL" then pure (some .null)
  else if ← keyword "ERROR" then pure (some .error)
  else if ← keyword "DEFAULT" then some <$> .value <$> constant
  else pure none

/-- What a column is where its value is missing or wrong, if it is said next. -/
def jsonDefault : Parser (Option JsonDefault) := do
  let stated ← jsonFallback
  if stated.isSome then expect "ON"
  pure stated

/-- What is said of missing and wrong values; `count` bounds how often.  What is said last
counts. -/
def jsonDefaults (onEmpty onError : Option JsonDefault) :
    Nat → Parser (Option JsonDefault × Option JsonDefault)
  | 0 => fail
  | count + 1 => do
    match ← jsonDefault with
    | none => pure (onEmpty, onError)
    | some stated =>
      if ← keyword "EMPTY" then jsonDefaults (some stated) onError count
      else
        expect "ERROR"
        jsonDefaults onEmpty (some stated) count

/-- A column of `JSON_TABLE`, in front of those after it. -/
inductive JsonEntry where
  | ordinality (name : Ident)
  | value (column : JsonColumn)
  | nested (place : Literal) (columns : JsonColumns)

/-- The columns that are listed. -/
def JsonEntry.columns : List JsonEntry → JsonColumns
  | [] => .nil
  | .ordinality name :: es => .ordinality name (columns es)
  | .value column :: es => .value column (columns es)
  | .nested place inner :: es => .nested place inner (columns es)

/-- A column of `JSON_TABLE`; `depth` bounds the nesting. -/
def jsonEntry : Nat → Parser JsonEntry
  | 0 => fail
  | depth + 1 => do
    if ← keyword "NESTED" then
      let _ ← keyword "PATH"
      let place ← constant
      expect "COLUMNS"
      let entries ← parenthesized (separated (jsonEntry depth))
      pure (.nested place (JsonEntry.columns entries))
    else
      let name ← identifier
      if ← keyword "FOR" then
        expect "ORDINALITY"
        pure (.ordinality name)
      else
        let type ← typeName
        let exist ← keyword "EXISTS"
        expect "PATH"
        let place ← constant
        let (onEmpty, onError) ← jsonDefaults none none ((← rest).length + 1)
        pure (.value ⟨name, type, exist, place, onEmpty, onError⟩)

/-- A `JSON_TABLE` after its opening parenthesis. -/
def jsonTable (g : Grammar) : Parser Table := do
  let value ← g.expression
  expectMark ","
  let place ← constant
  expect "COLUMNS"
  let entries ← parenthesized do separated (jsonEntry ((← rest).length + 1))
  expectMark ")"
  let label ← tableLabel
  pure (.jsonTable value place (JsonEntry.columns entries) label)

/-- A column that `OPENJSON` makes. -/
def openJsonColumn : Parser OpenJsonColumn := do
  let name ← identifier
  let type ← typeName
  let place ← match ← peek with
    | some (.literal (.string s)) => do
      let _ ← next
      pure (some s)
    | _ => pure none
  let asJson ← keyword "AS"
  if asJson then expect "JSON"
  pure ⟨name, type, place, asJson⟩

/-- An `OPENJSON` after its opening parenthesis. -/
def openJson (g : Grammar) : Parser Table := do
  let value ← g.expression
  let place ← if ← mark "," then some <$> constant else pure none
  expectMark ")"
  let columns ←
    if ← keyword "WITH" then parenthesized (separated openJsonColumn) else pure []
  let label ← tableLabel
  pure (.openJson value place columns label)

/-! ## Turning tables around -/

/-- An expression with a name after `AS`, if one follows. -/
def labelled (e : Expr) : Parser SelectItem := do
  let label ← after "AS" identifier
  pure ⟨e, label⟩

/-- A call that is computed for each of the new columns.  The quotes of its name do not count. -/
def aggregate (g : Grammar) : Parser SelectItem := do
  match ← next with
  | some (.word name _) => do
    let call ← g.callOf [⟨name.value, none⟩] false
    labelled (.call call)
  | _ => fail

/-- The values that new columns are made of. -/
def pivotValues (g : Grammar) : Parser PivotValues := do
  if ← keyword "ANY" then .any <$> g.orderBy
  else if ← queryNext then .query <$> g.query
  else
    let values ← separated do labelled (← g.expression)
    pure (.list (.ofList values))

/-- A `PIVOT` of a table, after its first word. -/
def pivot (g : Grammar) (table : Table) : Parser Table := do
  expectMark "("
  let aggregates ← separated g.aggregate
  expect "FOR"
  let column ← path
  expect "IN"
  let values ← parenthesized g.pivotValues
  let otherwise ←
    if ← keywords ["DEFAULT", "ON", "NULL"] then .some <$> parenthesized g.expression
    else pure MaybeExpr.none
  expectMark ")"
  let label ← tableLabel
  pure (.pivot table (.ofList aggregates) column values otherwise label)

/-- An `UNPIVOT` of a table, after its first word. -/
def unpivot (table : Table) : Parser Table := do
  expectMark "("
  let value ← identifier
  expect "FOR"
  let name ← identifier
  expect "IN"
  let columns ← nameList
  expectMark ")"
  let label ← tableLabel
  pure (.unpivot table value name columns label)

/-- A table as the clauses after it turn it around; `count` bounds them. -/
def turned (g : Grammar) (table : Table) : Nat → Parser Table
  | 0 => fail
  | count + 1 => do
    if ← keyword "PIVOT" then
      let table ← g.pivot table
      g.turned table count
    else if ← keyword "UNPIVOT" then
      let table ← unpivot table
      g.turned table count
    else pure table

/-! ## Joins -/

/-- How a table is joined, if a join is next; the flag says whether it takes a condition of its
own. -/
def joinKind : Parser (Option (JoinKind × Bool)) := do
  if ← keyword "CROSS" then
    match ← expectOneOf ["JOIN", "APPLY"] with
    | "JOIN" => pure (some (.cross, false))
    | _ => pure (some (.crossApply, false))
  else if ← keyword "OUTER" then
    expect "APPLY"
    pure (some (.outerApply, false))
  else if ← keyword "ASOF" then
    expect "JOIN"
    pure (some (.asOf, true))
  else
    let natural ← keyword "NATURAL"
    match ← oneOf ["INNER", "JOIN", "LEFT", "RIGHT", "ANTI", "SEMI", "FULL"] with
    | some "JOIN" => pure (some (.inner, natural))
    | some "INNER" => expect "JOIN"; pure (some (.inner, natural))
    | some "LEFT" =>
      match ← expectOneOf ["OUTER", "SEMI", "ANTI", "JOIN"] with
      | "OUTER" => expect "JOIN"; pure (some (.left, natural))
      | "SEMI" => expect "JOIN"; pure (some (.leftSemi, natural))
      | "ANTI" => expect "JOIN"; pure (some (.leftAnti, natural))
      | _ => pure (some (.left, natural))
    | some "RIGHT" =>
      match ← expectOneOf ["OUTER", "SEMI", "ANTI", "JOIN"] with
      | "OUTER" => expect "JOIN"; pure (some (.right, natural))
      | "SEMI" => expect "JOIN"; pure (some (.rightSemi, natural))
      | "ANTI" => expect "JOIN"; pure (some (.rightAnti, natural))
      | _ => pure (some (.right, natural))
    | some "ANTI" => expect "JOIN"; pure (some (.anti, natural))
    | some "SEMI" => expect "JOIN"; pure (some (.semi, natural))
    | some _ =>
      let _ ← keyword "OUTER"
      expect "JOIN"
      pure (some (.full, natural))
    -- `NATURAL` has to be followed by a join.
    | none => if natural then fail else pure none

/-- What two tables are joined on: shared columns, or a condition. -/
def joinCondition (g : Grammar) : Parser (Option (List Ident) × MaybeExpr) := do
  if ← keyword "ON" then
    let condition ← g.expression
    pure (none, .some condition)
  else if ← keyword "USING" then
    let columns ← nameList
    pure (some columns, .none)
  else pure (none, .none)

/-- The joins after a table; `table` reads a table, and `count` bounds the joins.  The word
`GLOBAL` is taken even if no join follows. -/
def joinsUpTo (g : Grammar) (table : Parser Table) : Nat → Parser (List Join)
  | 0 => fail
  | count + 1 => do
    let global ← keyword "GLOBAL"
    match ← joinKind with
    | none => pure []
    | some (kind, flag) =>
      let joined ← table
      let matching ←
        if kind = .asOf then do
          expect "MATCH_CONDITION"
          .some <$> parenthesized g.expression
        else pure .none
      let unconditional := kind = .cross || kind = .crossApply || kind = .outerApply
      let natural := flag && kind ≠ .asOf
      let (shared, condition) ←
        if unconditional || natural then pure (none, .none) else g.joinCondition
      let join : Join := ⟨⟨global, kind, natural, shared⟩, joined, matching, condition⟩
      return join :: (← g.joinsUpTo table count)

/-- A table with its joins; `table` reads a table. -/
def sourceOf (g : Grammar) (table : Parser Table) : Parser Source := do
  let first ← table
  let joins ← g.joinsUpTo table ((← rest).length + 1)
  pure ⟨first, .ofList joins⟩

/-- A table with its joins between parentheses, after the opening one.  It has to hold a join, or
such a table again. -/
def nestedTable (g : Grammar) (table : Parser Table) : Parser Table := do
  let source ← g.sourceOf table
  match source.table, source.joins with
  | .nested _ _ _, _ | _, .cons _ _ _ _ _ =>
    expectMark ")"
    let label ← tableLabel
    pure (.nested source.table source.joins label)
  | _, .nil => fail

/-- A table; `depth` bounds the parentheses around joined tables. -/
def tableUpTo (g : Grammar) : Nat → Parser Table
  | 0 => fail
  | depth + 1 => do
    if ← keyword "LATERAL" then g.lateralTable
    else if ← keyword "TABLE" then
      let expr ← parenthesized g.expression
      let label ← tableLabel
      pure (.tableOf expr label)
    else if ← mark "(" then
      -- A query comes first; what is none is a table with joins.
      match ← attempt (g.derivedTable false) with
      | some table => g.turned table ((← rest).length + 1)
      | none => g.nestedTable (g.tableUpTo depth)
    else if ← keyword "UNNEST" then g.unnestTable
    else if ← openedKeyword "JSON_TABLE" then g.jsonTable
    else if ← openedKeyword "OPENJSON" then g.openJson
    else
      let table ← g.namedTable
      g.turned table ((← rest).length + 1)

/-- A table. -/
def table (g : Grammar) : Parser Table := do g.tableUpTo ((← rest).length + 1)

/-- A table with its joins. -/
def source (g : Grammar) : Parser Source := g.sourceOf g.table

end QueryReport.Sql.Parser.Grammar
