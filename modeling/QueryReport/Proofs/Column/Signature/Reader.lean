import QueryReport.Proofs.Column.Signature.Marks
import QueryReport.Sql.Edit

/-!
# `QueryReport.Proofs.Column.Signature.Reader`: reading a fingerprint

A reader for the pieces of a fingerprint: it follows the marks, and has the text of each run read as
SQL.  It is made of steps that take the readers of smaller expressions as parameters; `readExpr`
ties the knot.  Each form of an expression has a lemma that says that the reader gets that form
back, if the readers of its parts get the parts back (`Reads`).

Casts are read in the spelling with colons, since the fingerprint does not tell the spellings apart.
-/

set_option autoImplicit false

namespace QueryReport.Column

open Sql Text

/-! ## Runs as SQL -/

/-- The part of an expression that a text stands for between two others. -/
def readWithin {α : Type} (before after : String) (part : Expr → Option α) (text : String) :
    Option α :=
  (liftTarget (before ++ text ++ after)).toOption.bind fun item => part item.expr

def call? : Expr → Option Call
  | .call c => some c
  | _ => none

/-- The only argument of a call. -/
def argument? : Expr → Option Expr
  | .call ⟨_, _, .list _ _ (.cons e .nil) _ _ _ _, _, _, _, _⟩ => some e
  | _ => none

/-- The arguments of a call without the arguments themselves: only the clauses behind them. -/
def clausesOf : CallArgs → CallArgs
  | .list _ leading _ order limit overflow nulls =>
    .list none leading .nil order limit overflow nulls
  | args => args

/-- Arguments in front of the clauses. -/
def fillIn (duplicates : Option Duplicates) (args : Exprs) : CallArgs → CallArgs
  | .list _ leading _ order limit overflow nulls =>
    .list duplicates leading args order limit overflow nulls
  | clauses => clauses

def noClauses : CallArgs := .list none none .nil .nil .none .unstated none

/-- A name, a constant, or in braces what is kept as text.  It is read as an argument, which may
also be a named one. -/
def readLeaf (text : String) : Option Expr :=
  match text.toList with
  | '\x7b' :: cs => readWithin "f(" ")" argument? (String.ofList cs.dropLast)
  | _ => readWithin "f(" ")" argument? text

def readName : String → Option Path :=
  readWithin "" "()" fun e => (call? e).map fun c => c.name

def readType : String → Option SqlType :=
  readWithin "a::" "" fun e => match e with | .cast _ _ type _ => some type | _ => none

def readQuery : String → Option Query :=
  readWithin "(" ")" fun e => match e with | .subquery query => some query | _ => none

def readClauses : String → Option CallArgs :=
  readWithin "f(a " ")" fun e => (call? e).map fun c => clausesOf c.args

def readKeys : String → Option OrderKeys :=
  readWithin "f() WITHIN GROUP (ORDER BY " ")" fun e => (call? e).map fun c => c.withinGroup

def readWindow : String → Option Over :=
  readWithin "f() OVER " "" fun e => (call? e).map fun c => c.window

/-! ## Steps -/

/-- Takes something off the front of the pieces. -/
abbrev Reader (α : Type) := List String → Option (α × List String)

/-- What follows a mark that has to be there. -/
def skip (mark : String) : List String → Option (List String)
  | p :: ts => if p = mark then some ts else none
  | [] => none

/-- An expression can begin here. -/
def opens (ts : List String) : Bool := ts.head?.any isOpening

section
variable (expr : Reader Expr) (items : Reader Exprs) (branches : Reader Branches)

def readBracketed {α : Type} (read : Reader α) : Reader α := fun ts => do
  let ts ← skip "(" ts
  let (a, ts) ← read ts
  let ts ← skip ")" ts
  some (a, ts)

/-- The bounds of a `BETWEEN`. -/
def readBounds (e : Expr) (negated : Bool) : Reader Expr := fun ts => do
  let (low, ts) ← readBracketed expr ts
  let ts ← skip "AND" ts
  let (high, ts) ← readBracketed expr ts
  some (.between e negated low high, ts)

/-- What is made of an expression in parentheses. -/
def readTest (e : Expr) : Reader Expr
  | "::" :: ts => (readRun readType ts).map fun (type, ts) => (.cast .colons e type none, ts)
  | "IS NULL" :: ts => some (.nullTest e false, ts)
  | "IS NOT NULL" :: ts => some (.nullTest e true, ts)
  | "IN" :: ts => (readBracketed items ts).map fun (list, ts) => (.inList e false list, ts)
  | "NOT IN" :: ts => (readBracketed items ts).map fun (list, ts) => (.inList e true list, ts)
  | "BETWEEN" :: ts => readBounds expr e false ts
  | "NOT BETWEEN" :: ts => readBounds expr e true ts
  | ts => some (.nested e, ts)

/-- What is made of an expression behind an opening parenthesis. -/
def readGroup (e : Expr) : Reader Expr
  | ")" :: ts => readTest expr items e ts
  | p :: ts => do
    let op ← readBinary p
    let (right, ts) ← expr ts
    let ts ← skip ")" ts
    some (.binary e op right, ts)
  | [] => none

def readOperand : Reader MaybeExpr := fun ts =>
  if opens ts then (expr ts).map fun (e, ts) => (.some e, ts) else some (.none, ts)

/-- An expression behind a mark, if the mark is there. -/
def readBehind (mark : String) (read : Reader Expr) : Reader MaybeExpr
  | p :: ts =>
    if p = mark then (read ts).map fun (e, ts) => (.some e, ts) else some (.none, p :: ts)
  | [] => some (.none, [])

def readCase : Reader Expr := fun ts => do
  let (operand, ts) ← readOperand expr ts
  let (list, ts) ← branches ts
  let (otherwise, ts) ← readBehind "ELSE" expr ts
  let ts ← skip "END" ts
  some (.case operand list otherwise, ts)

/-! ### Calls -/

def readDuplicates : List String → Option Duplicates × List String
  | "DISTINCT" :: ts => (some .distinct, ts)
  | "ALL" :: ts => (some .all, ts)
  | ts => (none, ts)

/-- The clauses behind the arguments of a call. -/
def readTail : Reader CallArgs
  | p :: ts =>
    if isClauseHead p then
      (readClauses (".".intercalate (p :: ts.takeWhile fun p => !isMark p))).map fun clauses =>
        (clauses, ts.dropWhile fun p => !isMark p)
    else some (noClauses, p :: ts)
  | [] => some (noClauses, [])

def readArguments : Reader CallArgs := fun ts => do
  let (duplicates, ts) := readDuplicates ts
  let (args, ts) ← items ts
  let (clauses, ts) ← readTail ts
  some (fillIn duplicates args clauses, ts)

def readNulls : List String → Option NullTreatment × List String
  | "RESPECT NULLS" :: ts => (some .respect, ts)
  | "IGNORE NULLS" :: ts => (some .ignore, ts)
  | ts => (none, ts)

def readWithinGroup : Reader OrderKeys
  | "WITHIN GROUP" :: ts => readRun readKeys ts
  | ts => some (.nil, ts)

def readOver : Reader Over
  | "OVER" :: ts => readRun readWindow ts
  | ts => some (.none, ts)

/-- A call behind its name. -/
def readCall (name : Path) : Reader Call := fun ts => do
  let (args, ts) ← readBracketed (readArguments items) ts
  let (filter, ts) ← readBehind "FILTER" (readBracketed expr) ts
  let (nulls, ts) := readNulls ts
  let (withinGroup, ts) ← readWithinGroup ts
  let (window, ts) ← readOver ts
  some (⟨name, false, args, withinGroup, filter, nulls, window⟩, ts)

/-- A run: the name of a call if a parenthesis is open behind it, or else all of an expression. -/
def readSimple : Reader Expr := fun ts =>
  match ts.dropWhile fun p => !isMark p with
  | "(" :: _ => do
    let (name, ts) ← readRun readName ts
    let (c, ts) ← readCall expr items name ts
    some (.call c, ts)
  | _ => readRun readLeaf ts

/-! ### Expressions -/

def readForm : Reader Expr
  | "(" :: ts => do
    let (e, ts) ← expr ts
    readGroup expr items e ts
  | "CASE" :: ts => readCase expr branches ts
  | "ARRAY" :: ts => (readBracketed items ts).map fun (list, ts) => (.array true list, ts)
  | "SUBQUERY" :: ts => (readRun readQuery ts).map fun (query, ts) => (.subquery query, ts)
  | p :: ts =>
    match readUnary p with
    | some op => (readBracketed expr ts).map fun (e, ts) => (.unary op e, ts)
    | none => readSimple expr items (p :: ts)
  | [] => none

/-- An item of a list.  A star stands by itself or behind the name of a table. -/
def readItem : Reader Expr
  | "*" :: ts => some (.star, ts)
  | ts => do
    let (e, ts) ← expr ts
    match ts with
    | "*" :: ts => do
      let relation ← e.reference?
      some (.everyColumn relation, ts)
    | ts => some (e, ts)

/-- A list behind its first item. -/
def readMore (e : Expr) : Reader Exprs
  | "," :: ts => (items ts).map fun (es, ts) => (.cons e es, ts)
  | ts => some (.cons e .nil, ts)

/-- A list up to what closes it. -/
def readList : Reader Exprs := fun ts =>
  if opens ts || ts.head? == some "*" then do
    let (e, ts) ← readItem expr ts
    readMore items e ts
  else some (.nil, ts)

def readBranch : Reader Branches
  | "WHEN" :: ts => do
    let (condition, ts) ← expr ts
    let ts ← skip "THEN" ts
    let (result, ts) ← expr ts
    let (rest, ts) ← branches ts
    some (.cons condition result rest, ts)
  | ts => some (.nil, ts)

end

mutual

/-- Reads an expression; `fuel` bounds how deep it may be. -/
def readExpr : Nat → Reader Expr
  | 0 => fun _ => none
  | fuel + 1 => readForm (readExpr fuel) (readItems fuel) (readBranches fuel)

def readItems : Nat → Reader Exprs
  | 0 => fun _ => none
  | fuel + 1 => readList (readExpr fuel) (readItems fuel)

def readBranches : Nat → Reader Branches
  | 0 => fun _ => none
  | fuel + 1 => readBranch (readExpr fuel) (readBranches fuel)

end

end QueryReport.Column
