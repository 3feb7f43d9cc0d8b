import QueryReport.Sql.Parser.QueryBody

/-!
# Parts of statements

Clauses that several kinds of statements share.  Of a statement that is no query only the form
matters, so its parts are taken and nothing is kept of them.
-/

namespace QueryReport.Sql.Parser

/-! ## Repetition -/

/-- Takes something as often as it can be taken; `count` bounds how often. -/
def repeated (take : Parser Bool) : Nat → Parser Unit
  | 0 => fail
  | count + 1 => do
    if ← take then repeated take count

/-- Takes something as often as it can be taken.  It takes a token each time. -/
def many (take : Parser Bool) : Parser Unit := do repeated take ((← rest).length + 1)

/-- Takes the first of several clauses that can be taken; what is left are the others. -/
def firstOf : List (Parser Bool) → Parser (Option (List (Parser Bool)))
  | [] => pure none
  | clause :: others => do
    if ← clause then pure (some others)
    else
      match ← firstOf others with
      | some left => pure (some (clause :: left))
      | none => pure none

/-- Takes clauses in any order, each at most once; `count` bounds them. -/
def eachOnceUpTo (clauses : List (Parser Bool)) : Nat → Parser Unit
  | 0 => pure ()
  | count + 1 => do
    match ← firstOf clauses with
    | some left => eachOnceUpTo left count
    | none => pure ()

/-- Takes clauses in any order, each at most once. -/
def eachOnce (clauses : List (Parser Bool)) : Parser Unit := eachOnceUpTo clauses clauses.length

/-- A clause that a keyword introduces. -/
def clause (keys : List String) (body : Parser Unit) : Parser Bool := do
  if ← keywords keys then
    body
    pure true
  else pure false

/-! ## Names -/

/-- Names with commas between them. -/
def names : Parser Unit := discard <| separated identifier

/-- Dotted names with commas between them. -/
def paths : Parser Unit := discard <| separated path

/-- Names between parentheses, if an opening one is next. -/
def optionalNames : Parser Unit := do
  if ← peekMark "(" then discard nameList

/-- Takes a token that should be a name, whatever it is. -/
def nameOrSkip : Parser Unit := discard next

/-- Takes a dotted name up to and including a part that should be a name and is none; `count` bounds
its parts. -/
def pathOrSkipUpTo : Nat → Parser Unit
  | 0 => fail
  | count + 1 => do
    match ← next with
    | some (.word _ _) | some (.literal (.string _)) =>
      if ← mark "." then pathOrSkipUpTo count
    | _ => pure ()

/-- Takes a dotted name up to and including a part that should be a name and is none. -/
def pathOrSkip : Parser Unit := do pathOrSkipUpTo ((← rest).length + 1)

/-- A word, whatever it means elsewhere. -/
def anyWord : Parser Unit := do
  match ← next with
  | some (.word _ _) => pure ()
  | _ => fail

def ifExists : Parser Unit := discard <| keywords ["IF", "EXISTS"]

def ifNotExists : Parser Unit := discard <| keywords ["IF", "NOT", "EXISTS"]

/-- What becomes of the objects that depend on one. -/
def dropBehavior : Parser Unit := discard <| oneOf ["CASCADE", "RESTRICT"]

/-- The group of servers that a statement runs on. -/
def onCluster : Parser Unit := discard <| clause ["ON", "CLUSTER"] (discard identifier)

/-! ## Values -/

/-- A number with a sign if one is written. -/
def signedNumber : Parser Unit := do
  if !(← mark "+") then discard <| mark "-"
  discard numberText

/-- A text of one byte. -/
def oneByte : Parser Unit := do
  if (← literalText).utf8ByteSize ≠ 1 then fail

/-- The options of a sequence of numbers, in the order in which they may stand. -/
def sequenceOptions : Parser Unit := do
  if ← keyword "INCREMENT" then
    discard <| keyword "BY"
    signedNumber
  if ← keyword "MINVALUE" then signedNumber else discard <| keywords ["NO", "MINVALUE"]
  if ← keyword "MAXVALUE" then signedNumber else discard <| keywords ["NO", "MAXVALUE"]
  if ← keyword "START" then
    discard <| keyword "WITH"
    signedNumber
  if ← keyword "CACHE" then signedNumber
  if !(← keywords ["NO", "CYCLE"]) then discard <| keyword "CYCLE"

/-- The options of a sequence between parentheses, if an opening one is next. -/
def optionalSequenceOptions : Parser Unit := do
  if ← peekMark "(" then parenthesized sequenceOptions

namespace Grammar

/-! ## Expressions -/

/-- An expression between parentheses. -/
def enclosed (g : Grammar) : Parser Unit := discard <| parenthesized g.expression

/-- Expressions between parentheses. -/
def enclosedList (g : Grammar) : Parser Unit := discard <| parenthesized g.expressions

/-- A name and its value. -/
def setting (g : Grammar) : Parser Unit := do
  discard identifier
  expectMark "="
  discard g.expression

/-- Settings between parentheses after a keyword, if it is next; there may be none. -/
def settings (g : Grammar) (key : String) : Parser Unit := do
  if ← keyword key then
    parenthesized do
      if !(← peekMark ")") then discard <| separated g.setting

/-- Settings between parentheses after keywords, if they are next; there is at least one. -/
def someSettings (g : Grammar) (keys : List String) : Parser Bool :=
  clause keys (discard <| parenthesized (separated g.setting))

/-! ## Functions -/

/-- An argument of a function that is declared: its type, before which its name may stand. -/
def declaredArgument (g : Grammar) : Parser Unit := do
  discard <| oneOf ["IN", "OUT", "INOUT"]
  match ← typeName with
  | .custom _ _ => discard typeName
  | _ => pure ()
  if ← keyword "DEFAULT" then discard g.expression
  else if ← mark "=" then discard g.expression

/-- A function by its name, and its arguments if they are given. -/
def functionName (g : Grammar) : Parser Unit := do
  discard path
  if ← mark "(" then
    if !(← mark ")") then
      discard <| separated g.declaredArgument
      expectMark ")"

end Grammar

end QueryReport.Sql.Parser
