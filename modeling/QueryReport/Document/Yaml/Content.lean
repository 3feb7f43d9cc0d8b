import QueryReport.Document.Yaml.Character
import QueryReport.Text.Digits

/-!
# The forms of text in YAML

Texts without quotes, in single and double quotes, and as blocks.  A line break inside a text that
is no block is a blank, and of several the first is lost; blanks around it are lost as well.

* `Yaml.readPlain`, `Yaml.readSingle`, `Yaml.readDouble`, `Yaml.readBlock` read one text and say
  where it ends.
-/

namespace QueryReport.Document.Yaml

/-- A text that has been read: its content, where it ends and what follows it. -/
structure Extent where
  content : String
  mark : Mark
  rest : List Char
deriving Repr

/-! ## Blanks and breaks inside a text -/

/-- Blanks and line breaks after the last character of a text, newest first. -/
structure Gap where
  /-- A line has ended. -/
  folded : Bool := false
  /-- The break that ended the line, unless a backslash stood before it. -/
  first : Option Char := none
  /-- The breaks after it. -/
  others : List Char := []
  /-- The blanks before a line has ended. -/
  blanks : List Char := []

namespace Gap

def isEmpty (g : Gap) : Bool := !g.folded && g.blanks.isEmpty

/-- The gap with a line break at its end. -/
def withBreak (g : Gap) (c : Char) : Gap :=
  if g.folded then { g with others := c :: g.others } else { folded := true, first := some c }

/-- The gap with a blank at its end. -/
def withBlank (g : Gap) (c : Char) : Gap :=
  if g.folded then g else { g with blanks := c :: g.blanks }

/-- The characters that a gap becomes, newest first. -/
def joined (g : Gap) : List Char :=
  if g.folded then
    match g.first with
    | none => g.others
    | some '\n' => if g.others.isEmpty then [' '] else g.others
    | some c => g.others ++ [c]
  else g.blanks

end Gap

/-- A text from its characters in reverse. -/
def ofReversed (cs : List Char) : String := String.ofList cs.reverse

/-! ## Text without quotes -/

/-- Whether a text without quotes ends at a character; `flow` says that it stands in brackets. -/
def endsPlain (flow : Bool) (c : Char) (rest : List Char) : Bool :=
  (c = ':' && endsWord rest) || (flow && isFlowMark c)

/-- Whether a colon inside brackets is misplaced. -/
def isStrayColon (flow : Bool) (c : Char) (rest : List Char) : Bool :=
  flow && c = ':' && (match rest with | d :: _ => isFlowMark d || d = '?' | [] => false)

/-- Whether a text without quotes cannot go on after a gap: at a comment, at a mark between
documents, or in a line that is not indented enough. -/
def endsAfterGap (flow : Bool) (indent : Nat) (m : Mark) (cs : List Char) : Bool :=
  (!flow && m.column < indent) || cs.head? = some '#'
    || (m.column = 0 && (startsDocument cs || endsDocument cs))

/-- Reads on in a text without quotes.  Also says whether a line has ended after it. -/
def plainFrom (flow : Bool) (indent : Nat) (text : List Char) (gap : Gap) (m : Mark) :
    List Char → Option (Bool × Extent)
  | [] => some (gap.folded, ⟨ofReversed text, m, []⟩)
  | c :: rest =>
    if isBreak c then plainFrom flow indent text (gap.withBreak c) (m.past c) rest
    else if isBlank c then
      if gap.folded && c = '\t' && m.column < indent then none
      else plainFrom flow indent text (gap.withBlank c) (m.past c) rest
    else if !gap.isEmpty && endsAfterGap flow indent m (c :: rest) then
      some (gap.folded, ⟨ofReversed text, m, c :: rest⟩)
    else if isStrayColon flow c rest then none
    else if endsPlain flow c rest then some (gap.folded, ⟨ofReversed text, m, c :: rest⟩)
    else plainFrom flow indent (c :: (gap.joined ++ text)) {} (m.past c) rest

/-- A text without quotes. -/
def readPlain (flow : Bool) (indent : Nat) (m : Mark) (cs : List Char) :
    Option (Bool × Extent) :=
  plainFrom flow indent [] {} m cs

/-! ## Text in quotes -/

/-- Whether a line in quotes begins with a mark between documents, which it may not. -/
def isInterrupted (m : Mark) (cs : List Char) : Bool :=
  m.column = 0 && (startsDocument cs || endsDocument cs)

/-- Reads on in a text in single quotes.  A quote inside is written twice. -/
def singleFrom (text : List Char) (gap : Gap) (m : Mark) : List Char → Option Extent
  | [] => none
  | '\'' :: '\'' :: rest =>
    singleFrom ('\'' :: (gap.joined ++ text)) {} ((m.past '\'').past '\'') rest
  | c :: rest =>
    if isBreak c then singleFrom text (gap.withBreak c) (m.past c) rest
    else if isBlank c then singleFrom text (gap.withBlank c) (m.past c) rest
    else if isInterrupted m (c :: rest) then none
    else if c = '\'' then some ⟨ofReversed (gap.joined ++ text), m.past c, rest⟩
    else singleFrom (c :: (gap.joined ++ text)) {} (m.past c) rest

/-- A text in single quotes, after the opening one. -/
def readSingle (m : Mark) (cs : List Char) : Option Extent := singleFrom [] {} m cs

/-- The character that a letter after a backslash stands for. -/
def escapedChar? (c : Char) : Option Char :=
  [('0', '\x00'), ('a', '\x07'), ('b', '\x08'), ('t', '\t'), ('\t', '\t'), ('n', '\n'),
    ('v', '\x0b'), ('f', '\x0c'), ('r', '\r'), ('e', '\x1b'), (' ', ' '), ('"', '"'), ('/', '/'),
    ('\\', '\\'), ('N', '\u0085'), ('_', '\u00a0'), ('L', '\u2028'), ('P', '\u2029')].lookup c

/-- Reads on in a text in double quotes, where a backslash escapes. -/
def doubleFrom (text : List Char) (gap : Gap) (m : Mark) : List Char → Option Extent
  | [] => none
  | '\\' :: 'x' :: a :: b :: rest => do
    let c ← Text.charOfHex? [a, b]
    doubleFrom (c :: (gap.joined ++ text)) {} (m.pastAll ['\\', 'x', a, b]) rest
  | '\\' :: 'u' :: a :: b :: c :: d :: rest => do
    let e ← Text.charOfHex? [a, b, c, d]
    doubleFrom (e :: (gap.joined ++ text)) {} (m.pastAll ['\\', 'u', a, b, c, d]) rest
  | '\\' :: 'U' :: a :: b :: c :: d :: e :: f :: g :: h :: rest => do
    let i ← Text.charOfHex? [a, b, c, d, e, f, g, h]
    doubleFrom (i :: (gap.joined ++ text)) {} (m.pastAll ['\\', 'U', a, b, c, d, e, f, g, h]) rest
  | '\\' :: c :: rest =>
    if isBreak c then
      doubleFrom (gap.joined ++ text) { folded := true } ((m.past '\\').past c) rest
    else do
      let d ← escapedChar? c
      doubleFrom (d :: (gap.joined ++ text)) {} ((m.past '\\').past c) rest
  | c :: rest =>
    if isBreak c then doubleFrom text (gap.withBreak c) (m.past c) rest
    else if isBlank c then doubleFrom text (gap.withBlank c) (m.past c) rest
    else if isInterrupted m (c :: rest) then none
    else if c = '"' then some ⟨ofReversed (gap.joined ++ text), m.past c, rest⟩
    else if c = '\\' then none
    else doubleFrom (c :: (gap.joined ++ text)) {} (m.past c) rest

/-- A text in double quotes, after the opening one. -/
def readDouble (m : Mark) (cs : List Char) : Option Extent := doubleFrom [] {} m cs

/-! ## Blocks -/

/-- What is kept of the line breaks at the end of a block. -/
inductive Chomp where
  | strip | clip | keep
deriving DecidableEq, Repr

/-- How a block is to be read. -/
structure BlockStyle where
  /-- Line breaks are kept, not folded. -/
  literal : Bool
  chomp : Chomp

/-- What has been read of a block. -/
structure Block where
  /-- The characters so far, newest first. -/
  text : List Char := []
  /-- The break that ended the last line. -/
  ended : Option Char := none
  /-- The empty lines after it, newest first. -/
  empty : List Char := []
  /-- The last line began with a blank. -/
  blankFirst : Bool := false
  /-- A line is being read. -/
  inLine : Bool := false

namespace Block

/-- The break before a line that begins with a given character, newest first.  It is folded only
between lines that begin with no blank. -/
def separation (style : BlockStyle) (b : Block) (c : Char) : List Char :=
  if !style.literal && b.ended = some '\n' && !b.blankFirst && !isBlank c then
    if b.empty.isEmpty then [' '] else b.empty
  else b.empty ++ b.ended.toList

/-- The block with the first character of a line. -/
def startLine (style : BlockStyle) (b : Block) (c : Char) : Block where
  text := c :: (b.separation style c ++ b.text)
  blankFirst := isBlank c
  inLine := true

/-- The text of the block at its end. -/
def content (style : BlockStyle) (b : Block) : String :=
  match style.chomp with
  | .strip => ofReversed b.text
  | .clip => ofReversed (b.ended.toList ++ b.text)
  | .keep => ofReversed (b.empty ++ (b.ended.toList ++ b.text))

end Block

/-- Reads on in a block whose lines are indented so far. -/
def blockFrom (style : BlockStyle) (indent : Nat) (b : Block) (m : Mark) :
    List Char → Option Extent
  | [] => some ⟨b.content style, m, []⟩
  | c :: rest =>
    if b.inLine then
      if isBreak c then
        blockFrom style indent { b with ended := some c, inLine := false } (m.past c) rest
      else blockFrom style indent { b with text := c :: b.text } (m.past c) rest
    else if isBreak c then
      blockFrom style indent { b with empty := c :: b.empty } (m.past c) rest
    else if m.column < indent then
      if c = ' ' then blockFrom style indent b (m.past c) rest
      else if c = '\t' then none
      else some ⟨b.content style, m, c :: rest⟩
    else blockFrom style indent (b.startLine style c) (m.past c) rest

/-- Empty lines and indentation at the start of a block whose indentation is not stated: the empty
lines, the widest indentation met, and where a line begins. -/
def leadingLines (empty : List Char) (widest : Nat) (m : Mark) :
    List Char → Option (List Char × Nat × Mark × List Char)
  | [] => some (empty, widest, m, [])
  | c :: rest =>
    if isBreak c then leadingLines (c :: empty) widest (m.past c) rest
    else if c = ' ' then leadingLines empty (max widest (m.column + 1)) (m.past c) rest
    else if c = '\t' then none
    else some (empty, widest, m, c :: rest)

/-- What a header of a block says: how breaks at its end are treated and how far it is indented. -/
def blockHeader : List Char → Option (Chomp × Option Nat × List Char)
  | c :: d :: rest =>
    match chompOf? c, indentOf? d with
    | some chomp, some n => stated chomp n rest
    | some chomp, none => some (chomp, none, d :: rest)
    | none, _ =>
      match indentOf? c, chompOf? d with
      | some n, some chomp => stated chomp n rest
      | some n, none => stated .clip n (d :: rest)
      | none, _ => some (.clip, none, c :: d :: rest)
  | [c] =>
    match chompOf? c, indentOf? c with
    | some chomp, _ => some (chomp, none, [])
    | _, some n => stated .clip n []
    | _, _ => some (.clip, none, [c])
  | [] => some (.clip, none, [])
where
  chompOf? (c : Char) : Option Chomp :=
    if c = '+' then some .keep else if c = '-' then some .strip else none
  indentOf? (c : Char) : Option Nat := if c.isDigit then some (c.toNat - '0'.toNat) else none
  stated (chomp : Chomp) (n : Nat) (rest : List Char) : Option (Chomp × Option Nat × List Char) :=
    if n = 0 then none else some (chomp, some n, rest)

/-- What follows the line of a block's header, which may end with a comment. -/
def afterHeader (m : Mark) (comment : Bool) : List Char → Option (Mark × List Char)
  | [] => some (m, [])
  | c :: rest =>
    if isBreak c then some (m.past c, rest)
    else if comment || isBlank c then afterHeader (m.past c) comment rest
    else if c = '#' then afterHeader (m.past c) true rest
    else none

/-- A block after the character that announces it.  `least` is the smallest indentation that it may
have where it stands. -/
def readBlock (literal : Bool) (least : Nat) (m : Mark) (cs : List Char) : Option Extent := do
  let (chomp, stated, rest) ← blockHeader cs
  let style : BlockStyle := ⟨literal, chomp⟩
  let m := m.pastAll (cs.take (cs.length - rest.length))
  let (m, rest) ← afterHeader m false rest
  match stated with
  | some n => blockFrom style (least - 1 + n) {} m rest
  | none =>
    let (empty, widest, m, rest) ← leadingLines [] 0 m rest
    blockFrom style (max widest (max least 1)) { empty } m rest

end QueryReport.Document.Yaml
