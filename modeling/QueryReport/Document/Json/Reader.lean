import QueryReport.Document.Json.Number
import QueryReport.Text.Digits

/-!
# Reading JSON

`Json.read?` reads a whole text as one JSON value.  A string with half a surrogate pair and a
number that is too large are read as unusable scalars.
-/

namespace QueryReport.Document.Json

/-- The blanks between tokens. -/
def isBlank (c : Char) : Bool := c = ' ' || c = '\n' || c = '\t' || c = '\r'

def skipBlanks (cs : List Char) : List Char := cs.dropWhile isBlank

/-- The code unit of four hexadecimal digits. -/
def unit? (a b c d : Char) : Option Nat := Text.numberInBase? 16 [a, b, c, d]

/-- The character that a letter after a backslash stands for. -/
def simpleEscape? : Char → Option Char
  | '"' => some '"'
  | '\\' => some '\\'
  | '/' => some '/'
  | 'b' => some '\x08'
  | 'f' => some '\x0c'
  | 'n' => some '\n'
  | 'r' => some '\r'
  | 't' => some '\t'
  | _ => none

def isHighHalf (n : Nat) : Bool := 0xD800 ≤ n && n < 0xDC00

def isLowHalf (n : Nat) : Bool := 0xDC00 ≤ n && n < 0xE000

/-- The characters of a string up to its closing quote, and what follows the quote.  `pending` is
the first half of a surrogate pair that has just been read.  The characters are absent if half a
pair stands alone. -/
def readChars (pending : Option Nat) : List Char → Option (Option (List Char) × List Char)
  | [] => none
  | '"' :: rest => some (if pending.isSome then none else some [], rest)
  | '\\' :: 'u' :: a :: b :: c :: d :: rest => do
    let n ← unit? a b c d
    match pending with
    | none =>
      if isHighHalf n then readChars (some n) rest
      else
        let (chars, after) ← readChars none rest
        some (if isLowHalf n then none else chars.map (Char.ofNat n :: ·), after)
    | some high =>
      let (chars, after) ← readChars none rest
      if isLowHalf n then
        some (chars.map (Char.ofNat ((high - 0xD800) * 0x400 + (n - 0xDC00) + 0x10000) :: ·), after)
      else some (none, after)
  | '\\' :: e :: rest => do
    let escaped ← simpleEscape? e
    let (chars, after) ← readChars none rest
    some (if pending.isSome then none else chars.map (escaped :: ·), after)
  | c :: rest =>
    if c = '\\' || c.toNat < 32 then none
    else do
      let (chars, after) ← readChars none rest
      some (if pending.isSome then none else chars.map (c :: ·), after)

/-- A string after its opening quote. -/
def readString (cs : List Char) : Option (Node × List Char) := do
  let (chars, after) ← readChars none cs
  some (match chars with
    | some chars => .ofText (String.ofList chars)
    | none => .scalar .unusable none, after)

/-- The rest of a text that begins with a word. -/
def afterWord? (word : List Char) (cs : List Char) : Option (List Char) :=
  if word.isPrefixOf cs then some (cs.drop word.length) else none

mutual

/-- A value, blanks before it allowed, and what follows it. -/
def readValue : Nat → List Char → Option (Node × List Char)
  | 0, _ => none
  | fuel + 1, cs =>
    match skipBlanks cs with
    | [] => none
    | '"' :: rest => readString rest
    | '[' :: rest =>
      match skipBlanks rest with
      | ']' :: after => some (.array .nil, after)
      | rest => do
        let (items, after) ← readItems fuel rest
        some (.array items, after)
    | '\x7b' :: rest =>
      match skipBlanks rest with
      | '\x7d' :: after => some (.object .nil, after)
      | rest => do
        let (members, after) ← readMembers fuel rest
        some (.object members, after)
    | 'n' :: rest => (afterWord? "ull".toList rest).map (.scalar .null none, ·)
    | 't' :: rest => (afterWord? "rue".toList rest).map (.scalar (.bool true) none, ·)
    | 'f' :: rest => (afterWord? "alse".toList rest).map (.scalar (.bool false) none, ·)
    | cs => do
      let (scalar, after) ← readNumber cs
      some (.scalar scalar none, after)

/-- The items of an array up to its closing bracket. -/
def readItems : Nat → List Char → Option (Nodes × List Char)
  | 0, _ => none
  | fuel + 1, cs => do
    let (item, after) ← readValue fuel cs
    match skipBlanks after with
    | ']' :: after => some (.cons item .nil, after)
    | ',' :: rest => do
      let (items, after) ← readItems fuel rest
      some (.cons item items, after)
    | _ => none

/-- The members of an object up to its closing brace. -/
def readMembers : Nat → List Char → Option (NodeMembers × List Char)
  | 0, _ => none
  | fuel + 1, cs =>
    match skipBlanks cs with
    | '"' :: rest => do
      let (key, after) ← readString rest
      match skipBlanks after with
      | ':' :: rest => do
        let (value, after) ← readValue fuel rest
        match skipBlanks after with
        | '\x7d' :: after => some (.cons key value .nil, after)
        | ',' :: rest => do
          let (members, after) ← readMembers fuel rest
          some (.cons key value members, after)
        | _ => none
      | _ => none
    | _ => none

end

/-- The value that a text spells.  Of two steps of the reading at least one uses up a character, so
twice the length of the text bounds them. -/
def read? (text : String) : Option Node := do
  let cs := text.toList
  let (node, after) ← readValue (2 * cs.length + 2) cs
  if (skipBlanks after).isEmpty then some node else none

end QueryReport.Document.Json
