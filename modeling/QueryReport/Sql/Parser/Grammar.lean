import QueryReport.Sql.Parser.TypeName
import QueryReport.Sql.Sequence

/-!
# The parts of the grammar that contain one another

Expressions contain queries and queries contain expressions.  A `Grammar` holds a reader of each,
for one level of nesting less, so that the readers of a level are defined by those of the level
below.
-/

namespace QueryReport.Sql.Parser

/-- Readers of what may nest: an expression whose operators all bind more tightly than a given
strength, and a query. -/
structure Grammar where
  operation : Nat → Parser Expr
  query : Parser Query

namespace Grammar

/-- Nothing may nest here. -/
def exhausted : Grammar where
  operation _ := throw .tooDeep
  query := throw .tooDeep

/-- Any expression. -/
def expression (g : Grammar) : Parser Expr := g.operation 0

/-- Expressions with commas between them. -/
def expressions (g : Grammar) : Parser Exprs := Exprs.ofList <$> separated g.expression

/-- Expressions with commas between them, or none before a closing mark. -/
def expressionsBefore (g : Grammar) (closing : String) : Parser Exprs := do
  if ← peekMark closing then pure .nil else g.expressions

/-- The expression after a keyword, if the keyword is next. -/
def expressionAfter (g : Grammar) (key : String) : Parser MaybeExpr :=
  MaybeExpr.ofOption <$> after key g.expression

/-- The expressions after keywords, if the keywords are next. -/
def expressionsAfter (g : Grammar) (keys : List String) : Parser Exprs :=
  Exprs.ofList <$> listAfter keys g.expression

/-- Whether a query is next. -/
def queryNext : Parser Bool := do return ["SELECT", "WITH"].contains (← peekKey)

/-- The direction of a sort key, if it is stated. -/
def direction : Parser (Option Bool) := do
  if ← keyword "ASC" then pure (some true)
  else if ← keyword "DESC" then pure (some false)
  else pure none

/-- Whether a sort key puts nulls first, if that is stated. -/
def nullsPlace : Parser (Option Bool) := do
  if ← keywords ["NULLS", "FIRST"] then pure (some true)
  else if ← keywords ["NULLS", "LAST"] then pure (some false)
  else pure none

/-- A sort key. -/
def orderKey (g : Grammar) : Parser OrderKey := do
  let expr ← g.expression
  let ascending ← direction
  let nullsFirst ← nullsPlace
  pure ⟨expr, ascending, nullsFirst⟩

/-- Sort keys with commas between them. -/
def orderKeys (g : Grammar) : Parser OrderKeys := OrderKeys.ofList <$> separated g.orderKey

/-- The sort keys after `ORDER BY`, if it is next. -/
def orderBy (g : Grammar) : Parser OrderKeys :=
  OrderKeys.ofList <$> listAfter ["ORDER", "BY"] g.orderKey

/-- The parts of a dotted name after its first, up to a star if there is one; `count` bounds
them. -/
def starPathUpTo : Nat → Parser (Path × Bool)
  | 0 => fail
  | count + 1 => do
    if ← mark "." then
      if ← mark "*" then pure ([], true)
      else
        let name ← identifier
        let (more, star) ← starPathUpTo count
        pure (name :: more, star)
    else pure ([], false)

/-- A star, alone or after a dotted name, if one is next. -/
def star : Parser (Option Expr) := do
  if ← mark "*" then pure (some .star)
  else
    let start ← rest
    match start with
    | .literal (.string _) :: .symbol "." :: _ | .word _ _ :: .symbol "." :: _ =>
      let first ← identifier
      let (more, isStar) ← starPathUpTo start.length
      if isStar then pure (some (.everyColumn (first :: more)))
      else
        set start
        pure none
    | _ => pure none

/-- An expression or a star. -/
def expressionOrStar (g : Grammar) : Parser Expr := do
  match ← star with
  | some e => pure e
  | none => g.expression

end Grammar

end QueryReport.Sql.Parser
