import QueryReport.Text.Table.Alphabetic
import QueryReport.Text.Table.Decimal
import QueryReport.Text.Table.Lowercase
import QueryReport.Text.Table.Numeric
import QueryReport.Text.Table.Uppercase
import QueryReport.Text.Table.Word

/-!
# Character classes

The Unicode properties that names, captions and searches ask about.  Below 128 each class is said
directly; above, the tables decide.
-/

namespace QueryReport.Text

/-- Whether a code point lies in one of the ranges. -/
def inRanges (ranges : Array (Nat × Nat)) (n : Nat) : Bool :=
  ranges.any fun (first, last) => first ≤ n && n ≤ last

/-- A letter: the Unicode property Alphabetic. -/
def isAlphabetic (c : Char) : Bool :=
  if c.toNat < 128 then c.isAlpha else inRanges Table.alphabetic c.toNat

/-- A number character: the Unicode category Number. -/
def isNumeric (c : Char) : Bool :=
  if c.toNat < 128 then c.isDigit else inRanges Table.numeric c.toNat

def isAlphanumeric (c : Char) : Bool := isAlphabetic c || isNumeric c

/-- A decimal digit of any script. -/
def isDecimal (c : Char) : Bool :=
  if c.toNat < 128 then c.isDigit else inRanges Table.decimal c.toNat

/-- The Unicode property Uppercase. -/
def isUpper (c : Char) : Bool :=
  if c.toNat < 128 then c.isUpper else inRanges Table.uppercase c.toNat

/-- The Unicode property Lowercase. -/
def isLower (c : Char) : Bool :=
  if c.toNat < 128 then c.isLower else inRanges Table.lowercase c.toNat

/-- A character that a word is made of: letters, digits, marks, connectors and joiners. -/
def isWordChar (c : Char) : Bool :=
  if c.toNat < 128 then c.isAlphanum || c = '_' else inRanges Table.word c.toNat

/-- White space: the Unicode property White Space. -/
def isBlank (c : Char) : Bool :=
  let n := c.toNat
  (0x9 ≤ n && n ≤ 0xD) || n = 0x20 || n = 0x85 || n = 0xA0 || n = 0x1680
    || (0x2000 ≤ n && n ≤ 0x200A) || n = 0x2028 || n = 0x2029 || n = 0x202F || n = 0x205F
    || n = 0x3000

/-- The characters after leading blanks. -/
def dropBlanks (cs : List Char) : List Char := cs.dropWhile isBlank

/-- The characters before trailing blanks. -/
def dropLastBlanks (cs : List Char) : List Char := (dropBlanks cs.reverse).reverse

/-- A text without the blanks around it. -/
def trim (s : String) : String := String.ofList (dropLastBlanks (dropBlanks s.toList))

/-- Whether a text is empty or all blanks. -/
def isBlankText (s : String) : Bool := s.toList.all isBlank

end QueryReport.Text
