import QueryReport.Sql.Parser.Operand

/-!
# Reading expressions

Operands and the operators between them.  An operator takes what stands before it as its left side
if it binds more tightly than what is being read.
-/

namespace QueryReport.Sql.Parser.Grammar

/-! ## How tightly the next token binds -/

/-- The operators that compare. -/
def comparisons : List String :=
  ["=", "<", "<=", "<>", ">", ">=", "==", "~", "~*", "!~", "!~*", "~~", "~~*", "!~~", "!~~*", "<=>"]

/-- The operators that bind like the many without a place of their own. -/
def otherOperators : List String :=
  ["->", "->>", "#>", "#>>", "@>", "<@", "#-", "@?", "@@", "?", "?&", "?|", "!", "&&", "^@", "||",
    "#", ">>", "<<", "|", "&"]

/-- How tightly a mark binds; zero if it is no operator. -/
def markStrength (m : String) : Nat :=
  if comparisons.contains m then compareStrength
  else if otherOperators.contains m then otherStrength
  else match m with
    | "[" => bracketStrength
    | "::" => castStrength
    | "+" | "-" => sumStrength
    | "*" | "/" | "%" => productStrength
    | "^" => powerStrength
    | _ => 0

/-- How tightly the next tokens bind as an operator; zero if they are none. -/
def strengthOf : List Token → Nat
  | .customOp _ :: _ => otherStrength
  | .symbol m :: _ => markStrength m
  | .word _ key :: ts =>
    match key with
    | "OR" => orStrength
    | "AND" => andStrength
    | "XOR" => xorStrength
    | "IS" => isStrength
    | "IN" | "BETWEEN" | "LIKE" | "ILIKE" | "RLIKE" | "REGEXP" | "SIMILAR" | "OPERATOR" =>
      rangeStrength
    | "DIV" => productStrength
    | "COLLATE" => collateStrength
    -- Between operands `NOT` is a part of a test, and of no other operator.
    | "NOT" =>
      if ["IN", "BETWEEN", "LIKE", "ILIKE", "RLIKE", "REGEXP", "SIMILAR"].contains (keyOf ts.head?)
      then rangeStrength else 0
    -- `AT` alone is no operator.
    | "AT" =>
      if (ts.take 2).map (fun t => keyOf (some t)) = ["TIME", "ZONE"] then zoneStrength else 0
    | _ => 0
  | _ => 0

/-! ## Operators with two sides -/

/-- The parts of the name in `OPERATOR(…)`; `count` bounds them. -/
def operatorPath : Nat → Parser (List String)
  | 0 => fail
  | count + 1 => do
    match ← next with
    | none => fail
    | some t =>
      if ← mark "." then return t.text :: (← operatorPath count) else return [t.text]

/-- The operator with two operands that a token stands for. -/
def binaryOp? : Token → Parser (Option BinaryOp)
  | .customOp s => pure (some (.symbol s))
  | .symbol "==" => pure (some (.symbol "="))
  | .symbol m =>
    if m = "[" || m = "::" || m = "!" then pure none
    else if 0 < markStrength m then pure (some (.symbol m))
    else pure none
  | .word _ "AND" => pure (some .and)
  | .word _ "OR" => pure (some .or)
  | .word _ "XOR" => pure (some .xor)
  | .word _ "OPERATOR" => do
    let parts ← parenthesized do operatorPath ((← rest).length + 1)
    pure (some (.named parts))
  | _ => pure none

/-- The comparisons that may be made with many values. -/
def isQuantifiable : BinaryOp → Bool
  | .symbol s => ["=", "<>", "<", ">", "<=", ">="].contains s
  | _ => false

/-- The right side of an operator that binds with the given strength: one operand, or many values
after a quantifier. -/
def rightSide (g : Grammar) (left : Expr) (op : BinaryOp) (strength : Nat) : Parser Expr := do
  match ← oneOf ["ANY", "ALL", "SOME"] with
  | none => .binary left op <$> g.operation strength
  | some word =>
    let start ← rest
    expectMark "("
    let right ←
      -- A query is read with its parentheses, so the reader goes back to the opening one.
      if ← queryNext then do
        set start
        g.operation strength
      else do
        let e ← g.operation strength
        expectMark ")"
        pure e
    if !isQuantifiable op then fail
    else
      let quantifier := match word with
        | "ANY" => Quantifier.any
        | "ALL" => .all
        | _ => .some
      pure (.quantified left op quantifier right)

/-! ## Tests -/

/-- What stands after `IS`. -/
def isTest (g : Grammar) (operand : Expr) : Parser Expr := do
  let negated ← keyword "NOT"
  if ← keyword "NULL" then pure (.nullTest operand negated)
  else if ← keyword "TRUE" then pure (.truthTest operand negated .true)
  else if ← keyword "FALSE" then pure (.truthTest operand negated .false)
  else if ← keyword "UNKNOWN" then pure (.truthTest operand negated .unknown)
  else
    -- What follows is a whole expression: an `AND` after it belongs to it.
    expectAll ["DISTINCT", "FROM"]
    let right ← g.expression
    pure (.distinctTest operand negated right)

/-- What stands after `IN`. -/
def inTest (g : Grammar) (operand : Expr) (negated : Bool) : Parser Expr := do
  if ← keyword "UNNEST" then
    let items ← parenthesized g.expression
    pure (.inUnnest operand negated items)
  else parenthesized do
    if ← queryNext then .inQuery operand negated <$> g.query
    else .inList operand negated <$> g.expressions

/-- What stands after `BETWEEN`. -/
def betweenTest (g : Grammar) (operand : Expr) (negated : Bool) : Parser Expr := do
  let low ← g.operation rangeStrength
  -- The bounds bind more tightly than `AND`, so this one stands between them.
  expect "AND"
  let high ← g.operation rangeStrength
  pure (.between operand negated low high)

/-- The pattern of a test and its escape character. -/
def patternTest (g : Grammar) (operand : Expr) (negated : Bool) (test : PatternTest) (any : Bool) :
    Parser Expr := do
  let pattern ← g.operation rangeStrength
  let escape ← after "ESCAPE" literalText
  pure (.pattern operand negated test any pattern escape)

/-- A test that `NOT` may stand before. -/
def rangeTest (g : Grammar) (operand : Expr) : Parser Expr := do
  let negated ← keyword "NOT"
  match ← expectOneOf ["REGEXP", "RLIKE", "IN", "BETWEEN", "LIKE", "ILIKE", "SIMILAR"] with
  | "REGEXP" =>
    let _ ← keyword "RLIKE"
    let pattern ← g.operation rangeStrength
    pure (.regexp operand negated false pattern)
  | "RLIKE" =>
    let pattern ← g.operation rangeStrength
    pure (.regexp operand negated true pattern)
  | "IN" => g.inTest operand negated
  | "BETWEEN" => g.betweenTest operand negated
  | "LIKE" =>
    let any ← keyword "ANY"
    g.patternTest operand negated .like any
  | "ILIKE" =>
    let any ← keyword "ANY"
    g.patternTest operand negated .ilike any
  | _ =>
    expect "TO"
    g.patternTest operand negated .similarTo false

/-! ## Subscripts -/

/-- A subscript after its opening bracket: an index, or the bounds and the stride of a slice. -/
def subscript (g : Grammar) (operand : Expr) : Parser Expr := do
  let lower ← if ← mark ":" then pure MaybeExpr.none else .some <$> g.expression
  if ← mark "]" then
    match lower with
    | .some index => pure (.subscript operand index)
    | .none => pure (.slice operand .none .none .none)
  else
    match lower with
    -- After an index only a colon may follow; without one it has been read already.
    | .some _ => expectMark ":"
    | .none => pure ()
    if ← mark "]" then pure (.slice operand lower .none .none)
    else
      let upper ← g.expression
      if ← mark "]" then pure (.slice operand lower (.some upper) .none)
      else
        expectMark ":"
        if ← mark "]" then pure (.slice operand lower (.some upper) .none)
        else
          let stride ← g.expression
          expectMark "]"
          pure (.slice operand lower (.some upper) (.some stride))

/-! ## Expressions -/

/-- What the next operator makes of the expression before it. -/
def extend (g : Grammar) (left : Expr) (strength : Nat) : Parser Expr := do
  let start ← rest
  match ← next with
  | none => fail
  | some t =>
    match ← binaryOp? t with
    | some op => g.rightSide left op strength
    | none =>
      match t with
      | .word _ "IS" => g.isTest left
      | .word _ "AT" =>
        expectAll ["TIME", "ZONE"]
        .atTimeZone left <$> g.operation strength
      | .word _ "DIV" | .word _ "COLLATE" => fail
      | .word _ _ =>
        -- The test reads its first word itself, which may be `NOT`.
        set start
        g.rangeTest left
      | .symbol "::" =>
        let type ← typeName
        pure (.cast .colons left type none)
      | .symbol "!" => pure (.unary .factorial left)
      | .symbol "[" => g.subscript left
      | _ => fail

/-- Extends an expression as long as an operator follows that binds more tightly than `strength`;
`count` bounds the operators. -/
def operators (g : Grammar) (strength : Nat) (left : Expr) : Nat → Parser Expr
  | 0 => fail
  | count + 1 => do
    let strength' := strengthOf (← rest)
    if strength' ≤ strength then pure left
    else
      let e ← g.extend left strength'
      g.operators strength e count

/-- An expression whose operators all bind more tightly than `strength`.  Every operator takes a
token, so their number is bounded. -/
def operationAt (g : Grammar) (strength : Nat) : Parser Expr := do
  let left ← g.operand
  g.operators strength left ((← rest).length + 1)

end QueryReport.Sql.Parser.Grammar
