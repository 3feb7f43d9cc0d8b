import QueryReport.Text.Digits

/-!
# Text in TOML

Texts in double quotes, where a backslash escapes, and in single quotes, where nothing does; each
on one line, or on several between three quotes.
-/

namespace QueryReport.Document.Toml

/-- A character that may stand in a text or a comment on one line. -/
def isInline (c : Char) : Bool := c = '\t' || (0x20 ≤ c.toNat && c.toNat ≠ 0x7F)

def isBlank (c : Char) : Bool := c = ' ' || c = '\t'

/-- The character that a letter after a backslash stands for. -/
def escapedChar? (c : Char) : Option Char :=
  [('b', '\x08'), ('t', '\t'), ('n', '\n'), ('f', '\x0c'), ('r', '\r'), ('e', '\x1b'), ('"', '"'),
    ('\\', '\\')].lookup c

/-- A text in double quotes on one line, after the opening quote, and what follows it. -/
def readDouble : List Char → Option (List Char × List Char)
  | [] => none
  | '\\' :: 'x' :: a :: b :: rest => do
    let c ← Text.charOfHex? [a, b]
    let (text, after) ← readDouble rest
    some (c :: text, after)
  | '\\' :: 'u' :: a :: b :: c :: d :: rest => do
    let e ← Text.charOfHex? [a, b, c, d]
    let (text, after) ← readDouble rest
    some (e :: text, after)
  | '\\' :: 'U' :: a :: b :: c :: d :: e :: f :: g :: h :: rest => do
    let i ← Text.charOfHex? [a, b, c, d, e, f, g, h]
    let (text, after) ← readDouble rest
    some (i :: text, after)
  | '\\' :: c :: rest => do
    let d ← escapedChar? c
    let (text, after) ← readDouble rest
    some (d :: text, after)
  | c :: rest =>
    if c = '"' then some ([], rest)
    else if isInline c && c ≠ '\\' then do
      let (text, after) ← readDouble rest
      some (c :: text, after)
    else none

/-- A text in single quotes on one line, after the opening quote, and what follows it. -/
def readSingle : List Char → Option (List Char × List Char)
  | [] => none
  | c :: rest =>
    if c = '\'' then some ([], rest)
    else if isInline c then do
      let (text, after) ← readSingle rest
      some (c :: text, after)
    else none

/-- What follows a line break at the start of a text. -/
def afterBreak? : List Char → Option (List Char)
  | '\n' :: rest => some rest
  | '\r' :: '\n' :: rest => some rest
  | _ => none

/-- The text without a line break at its start. -/
def dropBreak (cs : List Char) : List Char := (afterBreak? cs).getD cs

/-- Where a text of several lines ends.  The last three of a run of quotes close it, so up to two
may stand before them. -/
def closing? (quote : Char) (cs : List Char) : Option (List Char × List Char) :=
  let n := min (cs.takeWhile (· = quote)).length 5
  if 3 ≤ n then some (List.replicate (n - 3) quote, cs.drop n) else none

/-- A text of several lines in single quotes, after the opening ones. -/
def readSingleLines : List Char → Option (List Char × List Char)
  | [] => none
  | c :: rest =>
    match closing? '\'' (c :: rest) with
    | some found => some found
    | none =>
      if isInline c || c = '\n' || (c = '\r' && rest.head? = some '\n') then do
        let (text, after) ← readSingleLines rest
        some (c :: text, after)
      else none

/-- Whether a backslash stands at the end of a line.  It and the blanks and line breaks after it
are no part of the text. -/
def endsLine (cs : List Char) : Bool := (afterBreak? (cs.dropWhile isBlank)).isSome

/-- A text of several lines in double quotes, after the opening ones.  `joining` says that a line
has ended with a backslash. -/
def readDoubleLines (joining : Bool) : List Char → Option (List Char × List Char)
  | [] => none
  | '\\' :: 'x' :: a :: b :: rest => do
    let c ← Text.charOfHex? [a, b]
    let (text, after) ← readDoubleLines false rest
    some (c :: text, after)
  | '\\' :: 'u' :: a :: b :: c :: d :: rest => do
    let e ← Text.charOfHex? [a, b, c, d]
    let (text, after) ← readDoubleLines false rest
    some (e :: text, after)
  | '\\' :: 'U' :: a :: b :: c :: d :: e :: f :: g :: h :: rest => do
    let i ← Text.charOfHex? [a, b, c, d, e, f, g, h]
    let (text, after) ← readDoubleLines false rest
    some (i :: text, after)
  | '\\' :: c :: rest =>
    -- The backslash joins this line with the next one.
    if endsLine (c :: rest) then readDoubleLines true (c :: rest)
    else do
      let d ← escapedChar? c
      let (text, after) ← readDoubleLines false rest
      some (d :: text, after)
  | c :: rest =>
    if joining && (isBlank c || c = '\n' || (c = '\r' && rest.head? = some '\n')) then
      readDoubleLines true rest
    else match closing? '"' (c :: rest) with
      | some found => some found
      | none =>
        if (isInline c && c ≠ '\\') || c = '\n' || (c = '\r' && rest.head? = some '\n') then do
          let (text, after) ← readDoubleLines false rest
          some (c :: text, after)
        else none

/-- A text in quotes of either kind, and what follows it. -/
def readText : List Char → Option (String × List Char)
  | '"' :: '"' :: '"' :: rest => named (readDoubleLines false (dropBreak rest))
  | '\'' :: '\'' :: '\'' :: rest => named (readSingleLines (dropBreak rest))
  | '"' :: rest => named (readDouble rest)
  | '\'' :: rest => named (readSingle rest)
  | _ => none
where
  named (found : Option (List Char × List Char)) : Option (String × List Char) :=
    found.map fun (text, after) => (String.ofList text, after)

end QueryReport.Document.Toml
