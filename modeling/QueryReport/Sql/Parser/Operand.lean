import QueryReport.Sql.Parser.Call

/-!
# Reading operands

What stands between the operators of an expression: constants, names, calls, parentheses, operators
with one operand, and the special forms that a keyword introduces.  A keyword whose form cannot be
read is a name after all, save a few.
-/

namespace QueryReport.Sql.Parser.Grammar

/-! ## How tightly operators bind -/

def orStrength : Nat := 10
def andStrength : Nat := 20
def notStrength : Nat := 30
def isStrength : Nat := 40
def compareStrength : Nat := 50
def rangeStrength : Nat := 60
def otherStrength : Nat := 70
def xorStrength : Nat := 75
def sumStrength : Nat := 80
def productStrength : Nat := 90
def powerStrength : Nat := 100
def zoneStrength : Nat := 110
def collateStrength : Nat := 120
def bracketStrength : Nat := 130
def castStrength : Nat := 140

/-! ## Special forms -/

/-- The branches of a `CASE` after its first `WHEN`; `count` bounds them. -/
def branchesUpTo (g : Grammar) : Nat → Parser (List Branch)
  | 0 => fail
  | count + 1 => do
    let condition ← g.expression
    expect "THEN"
    let result ← g.expression
    if ← keyword "WHEN" then return ⟨condition, result⟩ :: (← g.branchesUpTo count)
    else return [⟨condition, result⟩]

/-- A `CASE` after its first word. -/
def caseForm (g : Grammar) : Parser Expr := do
  let operand ←
    if ← keyword "WHEN" then pure MaybeExpr.none
    else do
      let e ← g.expression
      expect "WHEN"
      pure (.some e)
  let branches ← g.branchesUpTo ((← rest).length + 1)
  let otherwise ← g.expressionAfter "ELSE"
  expect "END"
  pure (.case operand (.ofList branches) otherwise)

/-- The format of a cast, if one is given. -/
def castFormat : Parser (Option CastFormat) := do
  if ← keyword "FORMAT" then
    let value ← constant
    let zone ← if ← keywords ["AT", "TIME", "ZONE"] then some <$> constant else pure none
    pure (some ⟨value, zone⟩)
  else pure none

/-- A cast after its first word. -/
def castForm (g : Grammar) (form : CastForm) : Parser Expr := parenthesized do
  let operand ← g.expression
  expect "AS"
  let type ← typeName
  let format ← castFormat
  pure (.cast form operand type format)

/-- A `CONVERT` after its first word. -/
def convertForm (g : Grammar) : Parser Expr := parenthesized do
  let operand ← g.expression
  if ← keyword "USING" then
    let charset ← path
    pure (.convert operand none (some charset))
  else
    expectMark ","
    let type ← typeName
    let charset ← if ← keywords ["CHARACTER", "SET"] then some <$> path else pure none
    pure (.convert operand (some type) charset)

/-- A query between parentheses that is asked for rows. -/
def existForm (g : Grammar) (negated : Bool) : Parser Expr :=
  .exist negated <$> parenthesized g.query

/-- An `EXTRACT` after its first word. -/
def extractForm (g : Grammar) : Parser Expr := parenthesized do
  let field ← dateField
  expect "FROM"
  let operand ← g.expression
  pure (.extract field operand)

/-- A `CEIL` or `FLOOR` after its first word. -/
def roundForm (g : Grammar) (up : Bool) : Parser Expr := parenthesized do
  let operand ← g.expression
  if ← keyword "TO" then
    let field ← dateField
    pure (.round up operand (.field field))
  else if ← mark "," then
    match ← constant with
    | .number text long => pure (.round up operand (.scale text long))
    | _ => fail
  else pure (.round up operand .unit)

/-- A `POSITION` after its first word: with `IN`, or an ordinary call. -/
def positionForm (g : Grammar) (name : Ident) : Parser Expr := do
  -- Any function may have this name, so what is no `POSITION` is read as a call.
  let form ← attempt (parenthesized do
    let part ← g.operation rangeStrength
    expect "IN"
    let whole ← g.expression
    pure (.position part whole))
  match form with
  | some e => pure e
  | none => .call <$> g.callOf [name] false

/-- How much of a text a `SUBSTRING` takes, if it is stated. -/
def substringLength (g : Grammar) : Parser MaybeExpr := do
  if ← keyword "FOR" then .some <$> g.expression
  else if ← mark "," then .some <$> g.expression
  else pure .none

/-- A `SUBSTRING` after its first word. -/
def substringForm (g : Grammar) : Parser Expr := parenthesized do
  let operand ← g.expression
  let comma ← mark ","
  let start ←
    if comma then .some <$> g.expression
    else g.expressionAfter "FROM"
  let length ← g.substringLength
  pure (.substring operand start length comma)

/-- An `OVERLAY` after its first word. -/
def overlayForm (g : Grammar) : Parser Expr := parenthesized do
  let operand ← g.expression
  expect "PLACING"
  let replacement ← g.expression
  expect "FROM"
  let start ← g.expression
  let length ← g.expressionAfter "FOR"
  pure (.overlay operand replacement start length)

/-- A `TRIM` after its first word.  A comma before the closing parenthesis is passed over. -/
def trimForm (g : Grammar) : Parser Expr := parenthesized do
  let side ← match ← oneOf ["BOTH", "LEADING", "TRAILING"] with
    | some "BOTH" => pure (some TrimSide.both)
    | some "LEADING" => pure (some .leading)
    | some _ => pure (some .trailing)
    | none => pure none
  let e ← g.expression
  if ← keyword "FROM" then
    let operand ← g.expression
    pure (.trim operand side (.some e))
  else
    let _ ← mark ","
    pure (.trim e side .none)

/-- The items of an array after its opening bracket. -/
def arrayForm (g : Grammar) (named : Bool) : Parser Expr := do
  let items ← g.expressionsBefore "]"
  expectMark "]"
  pure (.array named items)

/-- An interval after its first word. -/
def intervalForm (operand : Parser Expr) : Parser Expr := do
  let value ← operand
  let units ← intervalUnitsAfter
  pure (.interval value units)

/-- The form that a word introduces, if it introduces one. -/
def special (g : Grammar) (interval : Parser Expr) (name : Ident) (key : String) :
    Parser (Option Expr) :=
  match key with
  | "TRUE" => pure (some (.literal (.boolean true)))
  | "FALSE" => pure (some (.literal (.boolean false)))
  | "NULL" => pure (some (.literal .null))
  | "CURRENT_CATALOG" | "CURRENT_USER" | "SESSION_USER" | "USER" =>
    pure (some (bareCall name .absent))
  | "CURRENT_TIMESTAMP" | "CURRENT_TIME" | "CURRENT_DATE" | "LOCALTIME" | "LOCALTIMESTAMP" => do
    let args ← if ← mark "(" then g.arguments else pure .absent
    pure (some (bareCall name args))
  | "CASE" => some <$> g.caseForm
  | "CONVERT" => some <$> g.convertForm
  | "CAST" => some <$> g.castForm .cast
  | "TRY_CAST" => some <$> g.castForm .tryCast
  | "SAFE_CAST" => some <$> g.castForm .safeCast
  | "EXISTS" => some <$> g.existForm false
  | "EXTRACT" => some <$> g.extractForm
  | "CEIL" => some <$> g.roundForm true
  | "FLOOR" => some <$> g.roundForm false
  | "POSITION" => do
    if ← peekMark "(" then some <$> g.positionForm name else pure none
  | "SUBSTRING" => some <$> g.substringForm
  | "OVERLAY" => some <$> g.overlayForm
  | "TRIM" => some <$> g.trimForm
  | "INTERVAL" => some <$> interval
  | "ARRAY" => do
    if ← mark "[" then some <$> g.arrayForm true
    else if ← peekMark "(" then
      let query ← parenthesized g.query
      pure (some (bareCall name (.subquery query)))
    else pure none
  | "NOT" => do
    if ← keyword "EXISTS" then some <$> g.existForm true
    else
      let operand ← g.operation notStrength
      pure (some (.unary .not operand))
  | _ => pure none

/-! ## Names and calls -/

/-- What a word is when it introduces no form: a column, a call, or the character set of a text. -/
def nameOrCall (g : Grammar) (name : Ident) : Parser Expr := do
  match ← rest with
  | .symbol "(" :: _ => .call <$> g.callOf [name] false
  | .symbol "." :: ts =>
    let (more, star) ← starPathUpTo (ts.length + 2)
    if star then pure (.everyColumn (name :: more))
    else if ← peekMark "(" then .call <$> g.callOf (name :: more) false
    else pure (.path (name :: more))
  | .literal value :: ts =>
    -- The name of a character set stands before the text it is for.
    match name.value.startsWith "_", value with
    | true, .string _ | true, .hex _ =>
      set ts
      pure (.introduced name.value value)
    | _, _ => pure (.column name)
  | _ => pure (.column name)

/-- An operand that begins with a word, with its collation.  A word that is a name only because its
form cannot be read takes no collation. -/
def wordOperand (g : Grammar) (interval : Parser Expr) (name : Ident) (key : String) :
    Parser Expr := do
  match ← outcome (g.special interval name key) with
  | .ok (some e) => collated e
  -- The word begins no form and is a name.
  | .ok none =>
    let e ← g.nameOrCall name
    collated e
  | .error fault =>
    -- Where a form could not be read the word may still be a name, but not every word.
    if neverNames.contains key then throw fault
    else
      match ← outcome (g.nameOrCall name) with
      | .ok e => pure e
      | .error _ => throw fault

/-! ## Operands -/

/-- What stands between parentheses: a query, an expression, or several of them. -/
def grouped (g : Grammar) : Parser Expr := do
  if ← queryNext then .subquery <$> g.query
  else
    match ← separated g.expression with
    | [e] => pure (.nested e)
    | es => pure (.tuple (.ofList es))

/-- What stands after an opening parenthesis, and a field of it if one is named. -/
def group (g : Grammar) : Parser Expr := do
  let inner ← g.grouped
  expectMark ")"
  if ← mark "." then
    match ← next with
    | some (.word name _) => pure (.field inner name)
    | _ => fail
  else pure inner

/-- A text after the name of a known type, or an interval. -/
def typedText (interval : Parser Expr) : Parser Expr := do
  match ← typeName with
  | .builtin "INTERVAL" _ _ => interval
  -- A name that is no known type is no type here: it is a column or a function.
  | .custom _ _ => fail
  | type =>
    let text ← literalText
    pure (.typedText type text)

/-- The operator that a mark stands for before its only operand, and how tightly it binds. -/
def unaryOp? : String → Option (UnaryOp × Nat)
  | "-" => some (.minus, productStrength)
  | "+" => some (.plus, productStrength)
  | "!!" => some (.leadingFactorial, sumStrength)
  | "|/" => some (.squareRoot, sumStrength)
  | "||/" => some (.cubeRoot, sumStrength)
  | "@" => some (.abs, sumStrength)
  | "~" => some (.bitNot, sumStrength)
  | _ => none

/-- A call between braces. -/
def bracedCall (g : Grammar) : Parser Expr := do
  expect "FN"
  let name ← path
  let call ← g.callOf name true
  expectMark "\x7d"
  pure (.call call)

/-- An operand that begins with the given token, which is no word. -/
def operandFrom (g : Grammar) : Token → Parser Expr
  | .literal value => pure (.literal value)
  | .symbol "[" => g.arrayForm false
  | .symbol "(" => g.group
  | .symbol "\x7b" => g.bracedCall
  | .symbol ":" => do
    match ← next with
    | some (.word name _) => pure (.literal (.placeholder (":" ++ name.value)))
    | some (.literal (.number digits false)) => pure (.literal (.placeholder (":" ++ digits)))
    | _ => fail
  | .symbol m =>
    match unaryOp? m with
    | some (op, strength) => .unary op <$> g.operation strength
    | none => fail
  | _ => fail

/-- An operand with its collation; `depth` bounds the intervals inside intervals. -/
def operandUpTo (g : Grammar) : Nat → Parser Expr
  | 0 => fail
  | depth + 1 => do
    -- The value of an interval is an operand itself.
    let interval := intervalForm (g.operandUpTo depth)
    match ← attempt (typedText interval) with
    | some e => pure e
    | none =>
      match ← next with
      | none => fail
      | some (.word name key) => g.wordOperand interval name key
      | some t =>
        let e ← g.operandFrom t
        collated e

/-- An operand. -/
def operand (g : Grammar) : Parser Expr := do g.operandUpTo ((← rest).length + 1)

end QueryReport.Sql.Parser.Grammar
