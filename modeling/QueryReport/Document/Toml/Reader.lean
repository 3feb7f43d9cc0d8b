import QueryReport.Document.Toml.Content
import QueryReport.Document.Toml.Number
import QueryReport.Document.Toml.Table

/-!
# Reading TOML

`Toml.read?` reads a text of headers, and of keys with values, as one table.
-/

namespace QueryReport.Document.Toml

/-! ## Blanks, comments and keys -/

def skipBlanks (cs : List Char) : List Char := cs.dropWhile isBlank

/-- What follows a comment, if one is there. -/
def skipComment : List Char → List Char
  | '#' :: rest => rest.dropWhile isInline
  | cs => cs

/-- What follows the end of a line, before which blanks and a comment may stand. -/
def afterLine? (cs : List Char) : Option (List Char) :=
  match skipComment (skipBlanks cs) with
  | [] => some []
  | rest => afterBreak? rest

/-- What follows blanks, comments and line breaks. -/
def skipLines : Nat → List Char → List Char
  | 0, cs => cs
  | fuel + 1, cs =>
    let rest := skipComment (skipBlanks cs)
    match afterBreak? rest with
    | some more => skipLines fuel more
    | none => rest

/-- What follows blanks, comments and line breaks, each of which takes a character. -/
def skipSpace (cs : List Char) : List Char := skipLines (cs.length + 1) cs

/-- A character of a key without quotes. -/
def isKeyChar (c : Char) : Bool := c.isAlphanum || c = '_' || c = '-'

/-- A part of a key, and what follows it. -/
def readPart (cs : List Char) : Option (String × List Char) :=
  match cs with
  | '"' :: rest => (readDouble rest).map fun (text, after) => (String.ofList text, after)
  | '\'' :: rest => (readSingle rest).map fun (text, after) => (String.ofList text, after)
  | _ =>
    let part := cs.takeWhile isKeyChar
    if part.isEmpty then none else some (String.ofList part, cs.dropWhile isKeyChar)

/-- The parts of a key with dots between them.  Every part takes a character. -/
def readParts : Nat → List Char → Option (List String × List Char)
  | 0, _ => none
  | fuel + 1, cs => do
    let (part, rest) ← readPart cs
    match skipBlanks rest with
    | '.' :: more => do
      let (parts, rest) ← readParts fuel (skipBlanks more)
      some (part :: parts, rest)
    | rest => some ([part], rest)

/-- A key as the path to it and its last part, and what follows the blanks after it. -/
def readKey (cs : List Char) : Option (List String × String × List Char) := do
  let (parts, rest) ← readParts (cs.length + 1) cs
  let last ← parts.getLast?
  some (parts.dropLast, last, rest)

/-- What follows a character that has to be there. -/
def after? (c : Char) : List Char → Option (List Char)
  | d :: rest => if d = c then some rest else none
  | [] => none

/-! ## Values -/

/-- How deeply arrays and tables may nest in a value. -/
def nestingLimit : Nat := 80

mutual

/-- A value, and what follows it; `depth` bounds the nesting. -/
def readValue : Nat → Nat → List Char → Option (Node × List Char)
  | 0, _, _ => none
  | fuel + 1, depth, cs =>
    match cs, depth with
    | '[' :: _, 0 | '\x7b' :: _, 0 => none
    | '[' :: rest, depth + 1 => do
      let (items, rest) ← readItems fuel depth (skipSpace rest)
      some (.array items, rest)
    | '\x7b' :: rest, depth + 1 => do
      let (entries, rest) ← readMembers fuel depth .nil (skipSpace rest)
      some (.object entries.members, rest)
    | '"' :: _, _ | '\'' :: _, _ => (readText cs).map fun (text, rest) => (.ofText text, rest)
    | _, _ => do
      let (word, rest) := splitWord cs
      let node ← word? word
      some (node, rest)

/-- The items of an array up to its closing bracket. -/
def readItems : Nat → Nat → List Char → Option (Nodes × List Char)
  | 0, _, _ => none
  | fuel + 1, depth, cs =>
    match cs with
    | ']' :: rest => some (.nil, rest)
    | cs => do
      let (item, rest) ← readValue fuel depth cs
      match skipSpace rest with
      | ',' :: rest => do
        let (items, rest) ← readItems fuel depth (skipSpace rest)
        some (.cons item items, rest)
      | ']' :: rest => some (.cons item .nil, rest)
      | _ => none

/-- The members of a table in braces up to the closing one, added to those before them.  Blanks,
comments and line breaks may stand anywhere between their parts. -/
def readMembers : Nat → Nat → Entries → List Char → Option (Entries × List Char)
  | 0, _, _, _ => none
  | fuel + 1, depth, entries, cs =>
    match cs with
    | '\x7d' :: rest => some (entries, rest)
    | cs => do
      let (path, key, rest) ← readKey cs
      let rest ← after? '=' (skipSpace rest)
      let (value, rest) ← readValue fuel depth (skipSpace rest)
      let entries ← entries.define path key value
      match skipSpace rest with
      | ',' :: rest => readMembers fuel depth entries (skipSpace rest)
      | '\x7d' :: rest => some (entries, rest)
      | _ => none

end

/-! ## Documents -/

/-- A document while it is read: its tables, and the path of the header that came last. -/
structure Draft where
  entries : Entries := .nil
  header : List String := []

/-- A header with its closing brackets: the path to the table and its last part. -/
def readHeader (double : Bool) (cs : List Char) : Option (List String × String × List Char) := do
  let (path, key, rest) ← readKey (skipBlanks cs)
  let rest ← after? ']' rest
  if double then do
    let rest ← after? ']' rest
    some (path, key, rest)
  else some (path, key, rest)

/-- The draft after one line that is not blank, and what follows it. -/
def readEntry (d : Draft) (cs : List Char) : Option (Draft × List Char) := do
  match cs with
  | '[' :: '[' :: rest => do
    let (path, key, rest) ← readHeader true rest
    let entries ← d.entries.openItem path key
    some (⟨entries, path ++ [key]⟩, rest)
  | '[' :: rest => do
    let (path, key, rest) ← readHeader false rest
    let entries ← d.entries.openTable path key
    some (⟨entries, path ++ [key]⟩, rest)
  | cs => do
    let (path, key, rest) ← readKey cs
    let rest ← after? '=' rest
    let rest := skipBlanks rest
    let (value, rest) ← readValue (2 * rest.length + 2) nestingLimit rest
    let entries ← d.entries.walk false (·.define path key value) d.header
    some (⟨entries, d.header⟩, rest)

/-- Reads lines to the end of the text.  Every line takes a character. -/
def readLines : Nat → Draft → List Char → Option Entries
  | 0, _, _ => none
  | fuel + 1, d, cs =>
    match skipSpace cs with
    | [] => some d.entries
    | cs => do
      let (d, rest) ← readEntry d cs
      let rest ← afterLine? rest
      readLines fuel d rest

/-- The table that a text spells. -/
def read? (text : String) : Option Node := do
  let cs := match text.toList with
    | '\uFEFF' :: rest => rest
    | cs => cs
  let entries ← readLines (cs.length + 1) {} cs
  some (.object entries.members)

end QueryReport.Document.Toml
