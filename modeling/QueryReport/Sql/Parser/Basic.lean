import QueryReport.Decimal.Read
import QueryReport.Sql.Fault
import QueryReport.Sql.Keyword
import QueryReport.Sql.Token

/-!
# Reading tokens

A `Parser` reads something from the front of a list of tokens.  `attempt` tries a parser and takes
its failure for an answer, save that of nesting too deep; `outcome` takes any failure for an answer.
-/

namespace QueryReport.Sql

/-- Reads a value from the front of a list of tokens. -/
abbrev Parser := StateT (List Token) (Except Fault)

namespace Parser

variable {α : Type}

/-- The tokens that are left. -/
def rest : Parser (List Token) := get

/-- The next token without taking it. -/
def peek : Parser (Option Token) := do return (← rest).head?

/-- Takes the next token, if there is one. -/
def next : Parser (Option Token) := do
  match ← rest with
  | [] => pure none
  | t :: ts => set ts; pure (some t)

/-- Fails at the next token. -/
def fail : Parser α := do
  match ← peek with
  | some t => throw (.unexpected t.text)
  | none => throw (.unexpected "end of text")

/-- The key of a token that is a word without quotes. -/
def keyOf : Option Token → String
  | some (.word _ key) => key
  | _ => ""

/-- The key of the next token. -/
def peekKey : Parser String := do return keyOf (← peek)

/-- Takes the given keyword, if it is next. -/
def keyword (key : String) : Parser Bool := do
  match ← rest with
  | .word _ k :: ts => if k = key then set ts; pure true else pure false
  | _ => pure false

/-- Takes several keywords, if all of them are next. -/
def keywords (keys : List String) : Parser Bool := do
  let ts ← rest
  if (ts.take keys.length).map (fun t => keyOf (some t)) = keys then
    set (ts.drop keys.length)
    pure true
  else pure false

/-- Takes the first of several keywords that is next. -/
def oneOf (keys : List String) : Parser (Option String) := do
  match ← rest with
  | .word _ k :: ts => if keys.contains k then set ts; pure (some k) else pure none
  | _ => pure none

/-- Takes a keyword that has to be next. -/
def expect (key : String) : Parser Unit := do
  if !(← keyword key) then fail

/-- Takes keywords that have to be next one by one. -/
def expectAll (keys : List String) : Parser Unit := keys.forM expect

/-- Takes one of several keywords, one of which has to be next. -/
def expectOneOf (keys : List String) : Parser String := do
  match ← oneOf keys with
  | some key => pure key
  | none => fail

/-- Whether the given mark is next. -/
def peekMark (mark : String) : Parser Bool := do return (← peek) == some (.symbol mark)

/-- Takes the given mark, if it is next. -/
def mark (mark : String) : Parser Bool := do
  match ← rest with
  | .symbol s :: ts => if s = mark then set ts; pure true else pure false
  | _ => pure false

/-- Takes a mark that has to be next. -/
def expectMark (m : String) : Parser Unit := do
  if !(← mark m) then fail

/-- What a parser reads, or nothing if it fails, in which case no token is taken. -/
def attempt (p : Parser α) : Parser (Option α) := fun ts =>
  match p ts with
  | .ok (a, rest) => .ok (some a, rest)
  | .error .tooDeep => .error .tooDeep
  | .error _ => .ok (none, ts)

/-- What a parser reads, or why it fails, in which case no token is taken.  Nesting that is too
deep is such a failure. -/
def outcome (p : Parser α) : Parser (Except Fault α) := fun ts =>
  match p ts with
  | .ok (a, rest) => .ok (.ok a, rest)
  | .error fault => .ok (.error fault, ts)

/-- What the parser reads between parentheses. -/
def parenthesized (p : Parser α) : Parser α := do
  expectMark "("
  let a ← p
  expectMark ")"
  pure a

/-- What the parser reads if the keyword is next. -/
def after (key : String) (p : Parser α) : Parser (Option α) := do
  if ← keyword key then some <$> p else pure none

/-- Reads on as long as a comma follows; `count` bounds the entries. -/
def separatedUpTo (p : Parser α) : Nat → Parser (List α)
  | 0 => fail
  | count + 1 => do
    let a ← p
    if ← mark "," then return a :: (← separatedUpTo p count) else return [a]

/-- One or more entries with commas between them.  There are no more entries than tokens. -/
def separated (p : Parser α) : Parser (List α) := do
  separatedUpTo p ((← rest).length + 1)

/-- Entries with commas between them after one or more keywords; none without the keywords. -/
def listAfter (keys : List String) (p : Parser α) : Parser (List α) := do
  if ← keywords keys then separated p else pure []

/-! ## Names and literals -/

/-- A name: a word, whatever it means elsewhere, or a quoted text. -/
def identifier : Parser Ident := do
  match ← rest with
  | .word name _ :: ts => set ts; pure name
  | .literal (.string s) :: ts => set ts; pure ⟨s, some '\''⟩
  | _ => fail

/-- The parts of a dotted name; `count` bounds them. -/
def pathUpTo : Nat → Parser Path
  | 0 => fail
  | count + 1 => do
    let name ← identifier
    if ← mark "." then return name :: (← pathUpTo count) else return [name]

/-- A dotted name. -/
def path : Parser Path := do pathUpTo ((← rest).length + 1)

/-- Names between parentheses. -/
def nameList : Parser (List Ident) := parenthesized (separated identifier)

/-- A 64-bit natural number. -/
def natural : Parser Nat := do
  match ← rest with
  | .literal (.number digits _) :: ts =>
    match Decimal.nat64? digits.toList with
    | some n => set ts; pure n
    | none => fail
  | _ => fail

/-- A text that is given literally, be it only by a word that is no keyword. -/
def literalText : Parser String := do
  match ← rest with
  | .word name key :: ts => if isKeyword key then fail else set ts; pure name.value
  | .literal (.string s) :: ts => set ts; pure s
  | .literal (.escaped s) :: ts => set ts; pure s
  | .literal (.unicode s) :: ts => set ts; pure s
  | _ => fail

/-- A name given to something, after `AS` or without it.  Without `AS` some words cannot be a
name. -/
def label (reserved : List String) : Parser (Option Ident) := do
  let stated ← keyword "AS"
  match ← rest with
  | .word name key :: ts =>
    if stated || !reserved.contains key then set ts; pure (some name) else pure none
  | .literal (.string s) :: ts => set ts; pure (some ⟨s, some '\''⟩)
  | _ => if stated then fail else pure none

/-- A constant. -/
def constant : Parser Literal := do
  match ← next with
  | some (.literal value) => pure value
  | some (.word name key) =>
    match key with
    | "TRUE" => pure (.boolean true)
    | "FALSE" => pure (.boolean false)
    | "NULL" => pure .null
    | _ => if name.quote = some '"' then pure (.doubleQuoted name.value) else fail
  | some (.symbol m) =>
    if m = ":" || m = "@" then
      match ← next with
      | some (.word name _) => pure (.placeholder (m ++ name.value))
      | some (.literal (.number digits false)) => pure (.placeholder (m ++ digits))
      | _ => fail
    else fail
  | _ => fail

/-- A part of a date or time. -/
def dateField : Parser DateField := do
  match ← rest with
  | .word name key :: ts =>
    set ts
    pure (if dateFields.contains key then .known key else .custom name)
  | .literal (.string s) :: ts => set ts; pure (.custom ⟨s, some '\''⟩)
  | _ => fail

/-- A number between parentheses. -/
def precision : Parser (Option Nat) := do
  if ← mark "(" then
    let n ← natural
    expectMark ")"
    pure (some n)
  else pure none

/-- One or two numbers between parentheses. -/
def precisionAndScale : Parser (Option (Nat × Option Nat)) := do
  if ← mark "(" then
    let n ← natural
    let scale ← if ← mark "," then some <$> natural else pure none
    expectMark ")"
    pure (some (n, scale))
  else pure none

end Parser

end QueryReport.Sql
