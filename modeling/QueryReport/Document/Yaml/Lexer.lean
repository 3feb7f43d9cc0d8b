import QueryReport.Document.Yaml.Content
import QueryReport.Document.Yaml.Tag
import QueryReport.Document.Yaml.Token

/-!
# Tokens from characters

Reads a YAML text as tokens.  A text on one line is only known to be a key once the colon after it
is met, so the place of such a *candidate* is remembered and the token for the key put there later.
`Yaml.tokens` gives the tokens of a whole text.
-/

namespace QueryReport.Document.Yaml

/-- A place where a key may have begun. -/
structure Candidate where
  /-- How many tokens stand before it. -/
  before : Nat
  mark : Mark
  /-- Only a key can stand here. -/
  required : Bool
deriving Repr

/-- What has been read, and what the rest is read by. -/
structure Lexer where
  chars : List Char
  mark : Mark := {}
  /-- The tokens so far, newest first. -/
  tokens : List Token := []
  /-- The indentations of the open block collections, innermost first. -/
  indents : List Nat := []
  /-- The candidate within the innermost brackets. -/
  candidate : Option Candidate := none
  /-- The candidates around the brackets that are open, innermost first. -/
  outer : List (Option Candidate) := []
  /-- Whether a key may begin here. -/
  keyAllowed : Bool := true
  /-- The names of anchors so far with their numbers, the ones given last first. -/
  anchors : List (String × Nat) := []
  /-- Whether a directive has stated the version. -/
  versioned : Bool := false
  /-- The handles that directives declare. -/
  handles : Handles := []

namespace Lexer

/-- Whether brackets are open. -/
def flow (s : Lexer) : Bool := !s.outer.isEmpty

/-- The smallest indentation of what stands in the innermost block collection. -/
def least (s : Lexer) : Nat :=
  match s.indents with
  | [] => 0
  | n :: _ => n + 1

def push (s : Lexer) (t : Token) : Lexer := { s with tokens := t :: s.tokens }

/-- The lexer after the next `n` characters. -/
def skip (s : Lexer) (n : Nat) : Lexer :=
  { s with mark := s.mark.pastAll (s.chars.take n), chars := s.chars.drop n }

/-! ## Blanks and comments -/

/-- Skips blanks, line breaks and comments.  A tab is a blank only where it cannot be taken for
indentation; a new line may begin with a key. -/
def blanksFrom (flow allowed comment : Bool) (m : Mark) :
    List Char → Bool × Mark × List Char
  | [] => (allowed, m, [])
  | c :: rest =>
    if isBreak c then blanksFrom flow (allowed || !flow) false (m.past c) rest
    else if comment || c = ' ' || (c = '\t' && (flow || !allowed))
        || (c.toNat = 0xFEFF && m.offset = 0) then
      blanksFrom flow allowed comment (m.past c) rest
    else if c = '#' then blanksFrom flow allowed true (m.past c) rest
    else (allowed, m, c :: rest)

def skipBlanks (s : Lexer) : Lexer :=
  let (keyAllowed, mark, chars) := blanksFrom s.flow s.keyAllowed false s.mark s.chars
  { s with keyAllowed, mark, chars }

/-! ## Block collections -/

/-- Closes the block collections that are indented more than `column`, or all without a column. -/
def close (s : Lexer) (column : Option Nat) : Lexer :=
  if s.flow then s
  else
    let isInner (n : Nat) : Bool :=
      match column with
      | none => true
      | some c => c < n
    let closed := s.indents.takeWhile isInner
    { s with
      indents := s.indents.dropWhile isInner
      tokens := List.replicate closed.length .blockEnd ++ s.tokens }

/-- Opens a block collection at a column unless one is open there. -/
def opening (s : Lexer) (column : Nat) (t : Token) : Lexer × List Token :=
  if s.flow || column < s.least then (s, [])
  else ({ s with indents := column :: s.indents }, [t])

/-- Opens a block collection that begins here. -/
def openHere (s : Lexer) (t : Token) : Lexer :=
  let (s, opened) := s.opening s.mark.column t
  { s with tokens := opened ++ s.tokens }

/-! ## Candidates for keys -/

/-- Gives up a candidate, unless only a key could stand there. -/
def dropCandidate (s : Lexer) : Option Lexer :=
  match s.candidate with
  | some c => if c.required then none else some { s with candidate := none }
  | none => some s

/-- Remembers that a key may begin here. -/
def noteCandidate (s : Lexer) : Option Lexer :=
  if s.keyAllowed then do
    let s ← s.dropCandidate
    some { s with
      candidate := some {
        before := s.tokens.length
        mark := s.mark
        required := !s.flow && s.indents.head? = some s.mark.column } }
  else some s

/-- Whether a candidate is on an earlier line or too far back to be a key. -/
def isStale (s : Lexer) (c : Candidate) : Bool :=
  c.mark.line < s.mark.line || c.mark.offset + 1024 < s.mark.offset

/-- A candidate, if it can still be a key. -/
def fresh (s : Lexer) : Option Candidate → Option (Option Candidate)
  | none => some none
  | some c => if s.isStale c then (if c.required then none else some none) else some (some c)

/-- Gives up the candidates that can no longer be keys. -/
def dropStale (s : Lexer) : Option Lexer := do
  let candidate ← s.fresh s.candidate
  let outer ← s.outer.mapM s.fresh
  some { s with candidate, outer }

/-- Puts tokens before those that were read after a candidate. -/
def insert (s : Lexer) (before : Nat) (inserted : List Token) : Lexer :=
  let after := s.tokens.length - before
  { s with tokens := s.tokens.take after ++ inserted ++ s.tokens.drop after }

/-! ## Tokens -/

/-- A mark between documents, or of a document's end. -/
def documentMark (s : Lexer) (t : Token) : Option Lexer := do
  let s ← (s.close none).dropCandidate
  some ({ s with keyAllowed := false }.skip 3 |>.push t)

/-- An opening bracket. -/
def openFlow (s : Lexer) (t : Token) : Option Lexer := do
  let s ← s.noteCandidate
  some ({ s with candidate := none, outer := s.candidate :: s.outer, keyAllowed := true }.skip 1
    |>.push t)

/-- A closing bracket. -/
def closeFlow (s : Lexer) (t : Token) : Option Lexer := do
  let s ← s.dropCandidate
  let (candidate, outer) := match s.outer with
    | [] => (none, [])
    | c :: rest => (c, rest)
  some ({ s with candidate, outer, keyAllowed := false }.skip 1 |>.push t)

/-- A comma. -/
def comma (s : Lexer) : Option Lexer := do
  let s ← s.dropCandidate
  some ({ s with keyAllowed := true }.skip 1 |>.push .comma)

/-- A dash before an item. -/
def entry (s : Lexer) : Option Lexer := do
  if !s.flow && !s.keyAllowed then none
  else
    let s ← (s.openHere .sequenceStart).dropCandidate
    some ({ s with keyAllowed := true }.skip 1 |>.push .entry)

/-- A question mark before a key. -/
def explicitKey (s : Lexer) : Option Lexer := do
  if !s.flow && !s.keyAllowed then none
  else
    let s ← (s.openHere .mappingStart).dropCandidate
    some ({ s with keyAllowed := !s.flow }.skip 1 |>.push .key)

/-- A colon before a value.  If there is a candidate, that is the key. -/
def value (s : Lexer) : Option Lexer :=
  match s.candidate with
  | some c =>
    let (s, opened) := s.opening c.mark.column .mappingStart
    let s := s.insert c.before (.key :: opened)
    some ({ s with candidate := none, keyAllowed := false }.skip 1 |>.push .value)
  | none =>
    if !s.flow && !s.keyAllowed then none
    else
      let s := s.openHere .mappingStart
      some ({ s with keyAllowed := !s.flow }.skip 1 |>.push .value)

/-- The lexer where only so many characters follow. -/
def skipTo (s : Lexer) (rest : List Char) : Lexer := s.skip (s.chars.length - rest.length)

/-- What a directive says, unless it was said before. -/
def note (s : Lexer) : Directive → Option Lexer
  | .version major minor =>
    if !s.versioned && major = 1 && (minor = 1 || minor = 2) then some { s with versioned := true }
    else none
  | .handle name beginning =>
    if (s.handles.lookup name).isSome then none
    else some { s with handles := (name, beginning) :: s.handles }

/-- A directive. -/
def directive (s : Lexer) (rest : List Char) : Option Lexer := do
  let s ← (s.close none).dropCandidate
  let (d, rest) ← readDirective rest
  let s ← s.note d
  some ({ s with keyAllowed := false }.skipTo rest |>.push .directive)

/-- Whether the name of an anchor may end before the given characters. -/
def endsAnchor (cs : List Char) : Bool :=
  endsWord cs || cs.head?.any (['?', ':', ',', ']', '\x7d', '%', '@', '\x60'].contains ·)

/-- The name of an anchor. -/
def anchorName (cs : List Char) : Option (String × List Char) :=
  let (name, rest) := nameOf cs
  if !name.isEmpty && endsAnchor rest then some (String.ofList name, rest) else none

/-- The lexer with a new anchor.  Its number is how many names there are, so a name that is given
again takes the number that the next new name will have. -/
def withAnchor (s : Lexer) (name : String) : Lexer × Nat :=
  let id := s.anchors.length
  ({ s with anchors := (name, id) :: s.anchors.filter (·.1 != name) }, id)

/-- A mark that the value after it can be referred to. -/
def anchor (s : Lexer) (rest : List Char) : Option Lexer := do
  let s ← s.noteCandidate
  let (name, rest) ← anchorName rest
  let (s, id) := s.withAnchor name
  some ({ s with keyAllowed := false }.skipTo rest |>.push (.anchor id))

/-- A reference to a value. -/
def reference (s : Lexer) (rest : List Char) : Option Lexer := do
  let s ← s.noteCandidate
  let (name, rest) ← anchorName rest
  let id ← s.anchors.lookup name
  some ({ s with keyAllowed := false }.skipTo rest |>.push (.reference id))

/-- A tag. -/
def tag (s : Lexer) : Option Lexer := do
  let s ← s.noteCandidate
  let (name, rest) ← readTag (s.handles ++ standardHandles) s.flow s.chars
  some ({ s with keyAllowed := false }.skipTo rest |>.push (.tag name))

/-- The lexer after a text. -/
def pushText (s : Lexer) (form : TextForm) (e : Extent) : Lexer :=
  { s with mark := e.mark, chars := e.rest }.push (.text form e.content)

/-- A text in quotes. -/
def quoted (s : Lexer) (read : Mark → List Char → Option Extent) : Option Lexer := do
  let s ← s.noteCandidate
  let s := { s with keyAllowed := false }.skip 1
  let e ← read s.mark s.chars
  some (s.pushText .other e)

/-- A block of text. -/
def block (s : Lexer) (literal : Bool) : Option Lexer := do
  let s ← s.dropCandidate
  let s := { s with keyAllowed := true }.skip 1
  let e ← readBlock literal s.least s.mark s.chars
  some (s.pushText (if literal then .literal else .other) e)

/-- A text without quotes.  After a line has ended a key may begin. -/
def plain (s : Lexer) : Option Lexer := do
  let s ← s.noteCandidate
  let (folded, e) ← readPlain s.flow s.least s.mark s.chars
  some ({ s with keyAllowed := folded }.pushText .plain e)

/-- Characters that mean something where a text without quotes would begin. -/
def isIndicator (c : Char) : Bool :=
  ['-', '?', ':', ',', '[', ']', '\x7b', '\x7d', '#', '&', '*', '!', '|', '>', '\'', '"', '%', '@',
    '\x60'].contains c

/-- Whether a text without quotes begins here. -/
def startsPlain (flow : Bool) (c : Char) (rest : List Char) : Bool :=
  (!isSeparator c && !isIndicator c)
    || (c = '-' && !(match rest with | d :: _ => isBlank d | [] => false))
    || (!flow && (c = '?' || c = ':') && !endsWord rest)

/-- The lexer after the token that begins with a character. -/
def token (s : Lexer) (c : Char) (rest : List Char) : Option Lexer :=
  if s.mark.column = 0 && c = '%' then s.directive rest
  else if s.mark.column = 0 && startsDocument s.chars then s.documentMark .documentStart
  else if s.mark.column = 0 && endsDocument s.chars then s.documentMark .documentEnd
  else if c = '[' then s.openFlow .openBracket
  else if c = '\x7b' then s.openFlow .openBrace
  else if c = ']' then s.closeFlow .closeBracket
  else if c = '\x7d' then s.closeFlow .closeBrace
  else if c = ',' then s.comma
  else if c = '-' && endsWord rest then s.entry
  else if c = '?' && (s.flow || endsWord rest) then s.explicitKey
  else if c = ':' && (s.flow || endsWord rest) then s.value
  else if c = '*' then s.reference rest
  else if c = '&' then s.anchor rest
  else if c = '!' then s.tag
  else if c = '|' && !s.flow then s.block true
  else if c = '>' && !s.flow then s.block false
  else if c = '\'' then s.quoted readSingle
  else if c = '"' then s.quoted readDouble
  else if startsPlain s.flow c rest then s.plain
  else none

/-- The lexer at the end of the text. -/
def finish (s : Lexer) : Option Lexer := (s.close none).dropCandidate

/-- The lexer after all tokens.  Every token takes a character, so as many steps as there are
characters are enough. -/
def run : Nat → Lexer → Option Lexer
  | 0, _ => none
  | steps + 1, s => do
    let s ← s.skipBlanks.dropStale
    match s.chars with
    | [] => s.finish
    | c :: rest =>
      let s ← (s.close (some s.mark.column)).token c rest
      run steps s

end Lexer

/-- The tokens of a text. -/
def tokens (text : String) : Option (List Token) := do
  let cs := text.toList
  if cs.all isAllowed then
    let s ← Lexer.run (cs.length + 1) { chars := unifyBreaks cs }
    some s.tokens.reverse
  else none

end QueryReport.Document.Yaml
