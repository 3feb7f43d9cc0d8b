import QueryReport.Decimal.Layout
import QueryReport.Document.Yaml.Character
import QueryReport.Document.Yaml.Core

/-!
# Writing YAML

A document as YAML in block style.  The lines of a value are laid out without the indentation of
what they stand in; a line is indented when it is put into a collection, a blank line never.

* `Yaml.textLines` chooses among the forms of a text: plain, in single or double quotes, or as a
  literal block.
* `Yaml.print` writes a whole document.
-/

namespace QueryReport.Document.Yaml

open Decimal

/-- A line of output.  Within a text it may end with a Unicode separator. -/
structure Line where
  chars : List Char
  ending : Char := '\n'
deriving DecidableEq, Repr, Inhabited

/-- The line with something in front of it. -/
def Line.after (l : Line) (front : List Char) : Line := { l with chars := front ++ l.chars }

/-! ## What a text may look like -/

/-- Whether a pair of neighbours is somewhere in the text. -/
def hasPair (first second : Char → Bool) : List Char → Bool
  | c :: d :: rest => (first c && second d) || hasPair first second (d :: rest)
  | _ => false

/-- Whether the text has a character that only double quotes can hold, or a blank that would be
lost at the end of a line. -/
def needsEscapes (cs : List Char) : Bool :=
  cs.any (!isPrintable ·) || hasPair (· = ' ') isBreak cs

/-- Whether the text can stand in single quotes, where blanks at the start of a line are lost. -/
def singleQuotesHold (cs : List Char) : Bool :=
  !needsEscapes cs && !hasPair isBreak (· = ' ') cs

/-- Whether the text can be a literal block. -/
def literalHolds (cs : List Char) : Bool := !needsEscapes cs && cs.getLast? ≠ some ' '

/-- The characters that mean something at the start of a plain text. -/
def indicators : List Char :=
  ['#', ',', '[', ']', '\x7b', '\x7d', '&', '*', '!', '|', '>', '\'', '"', '%', '@', '\x60']

/-- Whether a text begins as something else than plain text. -/
def startsAsIndicator : List Char → Bool
  | [] => false
  | c :: rest =>
    indicators.contains c || ((c = '?' || c = ':' || c = '-') && endsWord rest)

/-- Whether a colon before a separator or a number sign after one is in the text.  `separated` says
that a separator stands before it. -/
def hasMark (separated : Bool) : List Char → Bool
  | [] => false
  | c :: rest =>
    (c = ':' && endsWord rest) || (c = '#' && separated) || hasMark (isSeparator c) rest

/-- Whether a text begins as the mark between two documents. -/
def startsAsDocument (cs : List Char) : Bool :=
  ['-', '-', '-'].isPrefixOf cs || ['.', '.', '.'].isPrefixOf cs

/-- Whether the text can stand without quotes and keep its characters. -/
def plainHolds (cs : List Char) : Bool :=
  !needsEscapes cs && !cs.any isBreak
    && cs.head? ≠ some ' ' && cs.getLast? ≠ some ' '
    && !startsAsIndicator cs && !startsAsDocument cs
    && !hasMark false cs

/-! ## The forms of a text -/

/-- The lines of a text, each with the break that ends it, and what stands after the last break. -/
def cutLines : List Char → List Line × List Char
  | [] => ([], [])
  | c :: rest =>
    let (lines, last) := cutLines rest
    if isBreak c then (⟨[], c⟩ :: lines, last)
    else match lines with
      | [] => ([], c :: last)
      | first :: more => (first.after [c] :: more, last)

/-- The text in single quotes, each of its own quotes written twice. -/
def singleQuoted (cs : List Char) : List Line :=
  let doubled := cs.flatMap fun c => if c = '\'' then ['\'', '\''] else [c]
  let (lines, last) := cutLines ('\'' :: (doubled ++ ['\'']))
  lines ++ [⟨last, '\n'⟩]

/-- The letter that stands for a character after a backslash. -/
def escapeLetter? (n : Nat) : Option Char :=
  [(0x0, '0'), (0x7, 'a'), (0x8, 'b'), (0x9, 't'), (0xA, 'n'), (0xB, 'v'), (0xC, 'f'), (0xD, 'r'),
    (0x1B, 'e'), (0x22, '"'), (0x5C, '\\'), (0x85, 'N'), (0xA0, '_'), (0x2028, 'L'),
    (0x2029, 'P')].lookup n

/-- A character in double quotes. -/
def escaped (c : Char) : List Char :=
  if isPrintable c && !isBreak c && c ≠ '"' && c ≠ '\\' then [c]
  else match escapeLetter? c.toNat with
    | some letter => ['\\', letter]
    | none =>
      if c.toNat ≤ 0xFF then '\\' :: 'x' :: Text.hexDigits 2 c.toNat
      else if c.toNat ≤ 0xFFFF then '\\' :: 'u' :: Text.hexDigits 4 c.toNat
      else '\\' :: 'U' :: Text.hexDigits 8 c.toNat

def doubleQuoted (cs : List Char) : Line := ⟨'"' :: (cs.flatMap escaped ++ ['"']), '\n'⟩

/-- What the header of a literal block says about line breaks at the end of the text: `-` if there
is none, `+` if there are several or nothing else, nothing if there is one. -/
def chompMark (cs : List Char) : List Char :=
  match cs.reverse with
  | [] => ['-']
  | [c] => if isBreak c then ['+'] else ['-']
  | c :: d :: _ => if isBreak c then (if isBreak d then ['+'] else []) else ['-']

/-- The text as a literal block: a header, then its lines.  A text that begins with a blank or an
empty line has its indentation stated.  A text that ends with a break ends the last line with it. -/
def literalLines (cs : List Char) : List Line :=
  let hint := match cs with
    | c :: _ => if c = ' ' || isBreak c then ['2'] else []
    | [] => []
  let (lines, last) := cutLines cs
  ⟨'|' :: (hint ++ chompMark cs), '\n'⟩ :: (lines ++ if last.isEmpty then [] else [⟨last, '\n'⟩])

/-- The lines of a text. -/
def textLines (s : String) : List Line :=
  let cs := s.toList
  if cs.contains '\n' then
    if literalHolds cs then literalLines cs else [doubleQuoted cs]
  else if !isMistaken s && plainHolds cs then [⟨cs, '\n'⟩]
  else if singleQuotesHold cs then singleQuoted cs
  else [doubleQuoted cs]

/-! ## Collections -/

/-- A line two places further in, unless it is blank. -/
def Line.indented (l : Line) : Line := if l.chars.isEmpty then l else l.after [' ', ' ']

/-- A line of a few characters. -/
def Line.of (s : String) : Line := ⟨s.toList, '\n'⟩

/-- Lines after a mark, the first beside it and the others further in. -/
def hang (mark : List Char) : List Line → List Line
  | [] => [⟨mark, '\n'⟩]
  | first :: rest => first.after (mark ++ [' ']) :: rest.map Line.indented

/-- Whether a key can stand before its colon on one line. -/
def isShortKey (key : String) : Bool := !key.toList.any isBreak && key.utf8ByteSize ≤ 128

/-- A short key and its colon. -/
def keyMark (key : String) : List Char := (textLines key).flatMap Line.chars ++ [':']

mutual

/-- The lines of a value that stands by itself. -/
def treeLines : Tree → List Line
  | .null => [.of "null"]
  | .bool b => [.of (if b then "true" else "false")]
  | .int n => [.of (toString n)]
  | .float x => [.of (Layout.yaml.text x)]
  | .text s => textLines s
  | .array .nil => [.of "[]"]
  | .array items => itemLines items
  | .object .nil => [.of "\x7b\x7d"]
  | .object members => memberLines members

/-- The lines of the items of an array. -/
def itemLines : Trees → List Line
  | .nil => []
  | .cons t ts => hang ['-'] (treeLines t) ++ itemLines ts

/-- The lines of a value after its key.  Items stand below the key, members further in. -/
def valueLines (key : List Char) : Tree → List Line
  | .array .nil => [(Line.of " []").after key]
  | .array items => ⟨key, '\n'⟩ :: itemLines items
  | .object .nil => [(Line.of " \x7b\x7d").after key]
  | .object members => ⟨key, '\n'⟩ :: (memberLines members).map Line.indented
  | t => hang key (treeLines t)

/-- The lines of the members of an object.  A key that is long or has several lines stands after a
question mark, its value after a colon below. -/
def memberLines : Members → List Line
  | .nil => []
  | .cons k t rest =>
    (if isShortKey k then valueLines (keyMark k) t
    else hang ['?'] (textLines k) ++ hang [':'] (treeLines t))
      ++ memberLines rest

end

/-- A document as YAML. -/
def print (t : Tree) : String :=
  String.ofList ((treeLines t).flatMap fun l => l.chars ++ [l.ending])

end QueryReport.Document.Yaml
