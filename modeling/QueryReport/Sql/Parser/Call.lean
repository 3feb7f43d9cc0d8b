import QueryReport.Sql.Parser.Grammar

/-!
# Reading function calls

The arguments of a call, and the clauses after it that say what it ranges over.
-/

namespace QueryReport.Sql.Parser.Grammar

/-! ## Arguments -/

/-- The mark between an argument's name and its value, if one is next. -/
def argMark : Parser (Option ArgMark) := do
  if ← keyword "VALUE" then pure (some .value)
  else if ← mark "=>" then pure (some .arrow)
  else if ← mark ":" then pure (some .colon)
  else pure none

/-- The value of an argument that is passed by name, with the mark before it. -/
def namedValue (g : Grammar) : Parser (ArgMark × Expr) := do
  match ← argMark with
  | some m =>
    let value ← g.expressionOrStar
    pure (m, value)
  | none => fail

/-- An argument of a call.  An expression that is not followed by a mark and a value is passed by
its place, and there a star after a dotted name ends it. -/
def argument (g : Grammar) : Parser Expr := do
  let start ← rest
  match ← outcome g.expression with
  | .error .tooDeep => throw .tooDeep
  | .error fault =>
    match ← star with
    | some e => pure e
    | none => throw fault
  | .ok e =>
    match ← attempt g.namedValue with
    | some (m, value) => pure (.named e m value)
    | none =>
      let finish ← rest
      set start
      match ← star with
      | some e => pure e
      | none =>
        set finish
        pure e

/-- How a JSON constructor treats nulls, if it says so. -/
def jsonNulls : Parser (Option JsonNulls) := do
  if ← keywords ["ABSENT", "ON", "NULL"] then pure (some .drop)
  else if ← keywords ["NULL", "ON", "NULL"] then pure (some .keep)
  else pure none

/-- Whether a call counts duplicates, if it says so.  It cannot say both. -/
def duplicates : Parser (Option Duplicates) := do
  let all ← keyword "ALL"
  let distinct ← keyword "DISTINCT"
  match all, distinct with
  | true, true => fail
  | true, false => pure (some .all)
  | false, true => pure (some .distinct)
  | false, false => pure none

/-- Whether a literal is a text of the kinds that may fill up a result. -/
def isFiller : Literal → Bool
  | .string _ | .escaped _ | .unicode _ | .national _ | .hex _ => true
  | _ => false

/-- What is done about a result that is too long, if it is said. -/
def overflow (g : Grammar) : Parser Overflow := do
  if !(← keywords ["ON", "OVERFLOW"]) then pure .unstated
  else if ← keyword "ERROR" then pure .error
  else
    expect "TRUNCATE"
    let filler ← match ← peek with
      | some (.literal value) => if isFiller value then .some <$> g.expression else fail
      | _ => pure MaybeExpr.none
    let word ← expectOneOf ["WITH", "WITHOUT"]
    expect "COUNT"
    pure (.truncate filler (word = "WITH"))

/-- The arguments of a call after its opening parenthesis. -/
def arguments (g : Grammar) : Parser CallArgs := do
  let leading ← jsonNulls
  if ← mark ")" then pure (.list none leading .nil .nil .none .unstated none)
  else
    let counted ← duplicates
    let args ← separated g.argument
    let order ← g.orderBy
    let limit ← g.expressionAfter "LIMIT"
    let overflow ← g.overflow
    let nulls ← jsonNulls
    expectMark ")"
    pure (.list counted leading (.ofList args) order limit overflow nulls)

/-- The arguments of a table function after its opening parenthesis. -/
def tableArguments (g : Grammar) : Parser Exprs := do
  if ← mark ")" then pure .nil
  else
    let args ← separated g.argument
    expectMark ")"
    pure (.ofList args)

/-! ## Windows -/

/-- The units after the text of an interval. -/
def intervalUnitsAfter : Parser IntervalUnits := do
  if !intervalUnits.contains (← peekKey) then
    let p ← precision
    let last ← after "TO" dateField
    let fraction ← if last = some (.known "SECOND") then precision else pure none
    pure ⟨none, p, last, fraction⟩
  else
    let leading ← dateField
    if leading = .known "SECOND" then
      match ← precisionAndScale with
      | none => pure ⟨some leading, none, none, none⟩
      | some (p, fraction) => pure ⟨some leading, some p, none, fraction⟩
    else
      let p ← precision
      let last ← after "TO" dateField
      let fraction ← if last = some (.known "SECOND") then precision else pure none
      pure ⟨some leading, p, last, fraction⟩

/-- An expression with a collation, if one follows. -/
def collated (e : Expr) : Parser Expr := do
  match ← after "COLLATE" path with
  | some collation => pure (.collate e collation)
  | none => pure e

/-- The distance of a frame's end: a text counts as an interval. -/
def distance (g : Grammar) : Parser Expr := do
  match ← peek with
  | some (.literal (.string s)) =>
    let _ ← next
    let value ← collated (.literal (.string s))
    let units ← intervalUnitsAfter
    pure (.interval value units)
  | _ => g.expression

/-- One end of a window frame with its distance. -/
def frameBound (g : Grammar) : Parser (FrameBound × List Expr) := do
  if ← keywords ["CURRENT", "ROW"] then pure (.currentRow, [])
  else if ← keyword "UNBOUNDED" then
    match ← expectOneOf ["PRECEDING", "FOLLOWING"] with
    | "PRECEDING" => pure (.unboundedPreceding, [])
    | _ => pure (.unboundedFollowing, [])
  else
    let d ← g.distance
    match ← expectOneOf ["PRECEDING", "FOLLOWING"] with
    | "PRECEDING" => pure (.preceding, [d])
    | _ => pure (.following, [d])

/-- A window frame with its distances. -/
def frame (g : Grammar) : Parser (Frame × Exprs) := do
  let unit ← match ← expectOneOf ["ROWS", "RANGE", "GROUPS"] with
    | "ROWS" => pure FrameUnit.rows
    | "RANGE" => pure .range
    | _ => pure .groups
  if ← keyword "BETWEEN" then
    let (first, d) ← g.frameBound
    expect "AND"
    let (last, d') ← g.frameBound
    pure (⟨unit, first, some last⟩, .ofList (d ++ d'))
  else
    let (first, d) ← g.frameBound
    pure (⟨unit, first, none⟩, .ofList d)

/-- A window after its opening parenthesis. -/
def window (g : Grammar) : Parser Over := do
  let base ← match ← peek with
    | some (.word _ key) => if isKeyword key then pure none else some <$> identifier
    | _ => pure none
  let partition ← g.expressionsAfter ["PARTITION", "BY"]
  let order ← g.orderBy
  if ← mark ")" then pure (.window base partition order none .nil)
  else
    let (frame, distances) ← g.frame
    expectMark ")"
    pure (.window base partition order (some frame) distances)

/-- What a call ranges over. -/
def overClause (g : Grammar) : Parser Over := do
  if ← keyword "OVER" then
    if ← mark "(" then g.window else .named <$> identifier
  else pure .none

/-! ## Calls -/

/-- The sort keys of `WITHIN GROUP`, if it is next. -/
def withinGroup (g : Grammar) : Parser OrderKeys := do
  if ← keywords ["WITHIN", "GROUP"] then
    parenthesized do
      expectAll ["ORDER", "BY"]
      g.orderKeys
  else pure .nil

/-- The condition of `FILTER`, if it is next.  The word and a parenthesis after it are taken even
if no condition follows. -/
def filter (g : Grammar) : Parser MaybeExpr := do
  if !(← keyword "FILTER") then pure .none
  else if !(← mark "(") then pure .none
  else if !(← keyword "WHERE") then pure .none
  else
    let condition ← g.expression
    expectMark ")"
    pure (.some condition)

/-- How a window call treats nulls, if it says so. -/
def nullTreatment : Parser (Option NullTreatment) := do
  match ← oneOf ["RESPECT", "IGNORE"] with
  | some "RESPECT" => expect "NULLS"; pure (some .respect)
  | some _ => expect "NULLS"; pure (some .ignore)
  | none => pure none

/-- A call of a named function. -/
def callOf (g : Grammar) (name : Path) (braces : Bool) : Parser Call := do
  expectMark "("
  let args ← g.arguments
  let withinGroup ← g.withinGroup
  let filter ← g.filter
  let nulls ← nullTreatment
  let window ← g.overClause
  pure ⟨name, braces, args, withinGroup, filter, nulls, window⟩

/-- A call by name alone. -/
def bareCall (name : Ident) (args : CallArgs) : Expr :=
  .call ⟨[name], false, args, .nil, .none, none, .none⟩

end QueryReport.Sql.Parser.Grammar
