/-!
# Characters of YAML

The classes of characters that YAML tells apart, and where a character stands in a text.
-/

namespace QueryReport.Document.Yaml

/-- Whether a character ends a line. -/
def isBreak (c : Char) : Bool :=
  c = '\n' || c = '\r' || c.toNat = 0x85 || c.toNat = 0x2028 || c.toNat = 0x2029

/-- A blank within a line. -/
def isBlank (c : Char) : Bool := c = ' ' || c = '\t'

/-- A blank or the end of a line. -/
def isSeparator (c : Char) : Bool := isBlank c || c = '\x00' || isBreak c

/-- Whether a separator or the end follows. -/
def endsWord : List Char → Bool
  | [] => true
  | c :: _ => isSeparator c

/-- Whether a character may be written as it is outside of double quotes. -/
def isPrintable (c : Char) : Bool :=
  let n := c.toNat
  n = 0xA || (0x20 ≤ n && n ≤ 0x7E) || (0xA0 ≤ n && n ≤ 0xFFFD && n ≠ 0xFEFF) || 0x10000 ≤ n

/-- Whether a character may occur in a document at all. -/
def isAllowed (c : Char) : Bool :=
  isPrintable c || c = '\t' || c = '\r' || c.toNat = 0x85 || c.toNat = 0xFEFF

/-- The text with one character for every line break.  Unicode line and paragraph separators stay
what they are. -/
def unifyBreaks : List Char → List Char
  | [] => []
  | '\r' :: '\n' :: rest => '\n' :: unifyBreaks rest
  | c :: rest => (if c = '\r' || c.toNat = 0x85 then '\n' else c) :: unifyBreaks rest

/-- The characters that may follow a colon inside brackets and make it a mistake. -/
def isFlowMark (c : Char) : Bool :=
  c = ',' || c = '[' || c = ']' || c = '\x7b' || c = '\x7d'

/-- Whether a mark between documents begins a text. -/
def startsDocument : List Char → Bool
  | '-' :: '-' :: '-' :: rest => endsWord rest
  | _ => false

/-- Whether the mark of a document's end begins a text. -/
def endsDocument : List Char → Bool
  | '.' :: '.' :: '.' :: rest => endsWord rest
  | _ => false

/-! ## Places -/

/-- Where a character stands. -/
structure Mark where
  line : Nat := 0
  column : Nat := 0
  offset : Nat := 0
deriving DecidableEq, Repr, Inhabited

/-- The place after a character. -/
def Mark.past (m : Mark) (c : Char) : Mark :=
  if isBreak c then ⟨m.line + 1, 0, m.offset + 1⟩ else ⟨m.line, m.column + 1, m.offset + 1⟩

/-- The place after several characters. -/
def Mark.pastAll (m : Mark) (cs : List Char) : Mark := cs.foldl Mark.past m

end QueryReport.Document.Yaml
