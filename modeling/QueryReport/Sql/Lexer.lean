import QueryReport.Decimal.Read
import QueryReport.Sql.Fault
import QueryReport.Sql.Token
import QueryReport.Text.Classes
import QueryReport.Text.Digits

/-!
# Splitting SQL text into tokens

`tokens` cuts a text into tokens and drops blanks and comments.  Every piece is the longest that
begins where the one before it ends.
-/

namespace QueryReport.Sql

open QueryReport.Text

/-! ## Character classes -/

/-- A character that a word may begin with. -/
def isWordStart (c : Char) : Bool := isAlphabetic c || c = '_'

/-- A character that a word may go on with. -/
def isWordPart (c : Char) : Bool := isAlphabetic c || c.isDigit || c = '$' || c = '_'

/-- A character that a tag between dollar signs is made of. -/
def isTagPart (c : Char) : Bool := isAlphanumeric c || c = '_'

/-- A character that an operator may be made up of. -/
def isOperatorPart (c : Char) : Bool := "+-*/<>=~!@#%^&|\x60?".toList.contains c

/-! ## Operators and punctuation -/

/-- Operators that grow into an operator of their own when more operator characters follow. -/
def growingOperators : List String :=
  ["->>", "->", "-", "%", "|/", "||/", "||", "|", "<=>", "<=", "<>", "<<", "<@", "<", ">=", ">>",
    ">", "&&", "&", "~*", "~~*", "~~", "~", "#-", "#>>", "#>", "#"]

/-- Operators and marks that stand for themselves whatever follows. -/
def fixedOperators : List String :=
  ["+", "*", "/", "=>", "==", "=", "!=", "!~~*", "!~~", "!~*", "!~", "!!", "!", "::", ":=", ":",
    "@>", "@?", "@@", "@", "?|", "?&", "^@", "^", "(", ")", ",", ";", "\\", "[", "]", "\x7b",
    "\x7d"]

/-- The longest operator that a text begins with, and whether it may grow. -/
def operatorAt? (cs : List Char) : Option (List Char × Bool) :=
  let candidates :=
    growingOperators.map (fun s => (s.toList, true)) ++ fixedOperators.map (fun s => (s.toList, false))
  candidates.foldl
    (fun best (op, grows) =>
      if op.isPrefixOf cs then
        match best with
        | some (longest, _) => if longest.length < op.length then some (op, grows) else best
        | none => some (op, grows)
      else best)
    none

/-- The token of an operator. -/
def operatorToken (op : List Char) : Token :=
  match String.ofList op with
  | "!=" => .symbol "<>"
  | s => .symbol s

/-! ## Quoted text -/

/-- The text up to a closing quote, in which a quote is written twice, and what follows it. -/
def takeQuoted (q : Char) : List Char → Option (List Char × List Char)
  | [] => none
  | [c] => if c = q then some ([], []) else none
  | c :: d :: rest =>
    if c = q then
      if d = q then (takeQuoted q rest).map fun (text, after) => (q :: text, after)
      else some ([], d :: rest)
    else (takeQuoted q (d :: rest)).map fun (text, after) => (c :: text, after)

/-- What a character after a backslash stands for in national and hexadecimal texts. -/
def plainEscape : Char → Char
  | '0' => '\x00'
  | 'a' => '\x07'
  | 'b' => '\x08'
  | 'f' => '\x0c'
  | 'n' => '\n'
  | 'r' => '\r'
  | 't' => '\t'
  | 'Z' => '\x1a'
  | c => c

/-- The text up to a closing quote, in which a quote is written twice and a backslash escapes. -/
def takeBackslashed (q : Char) : List Char → Option (List Char × List Char)
  | [] => none
  | [c] => if c = q then some ([], []) else none
  | c :: d :: rest =>
    if c = q then
      if d = q then (takeBackslashed q rest).map fun (text, after) => (q :: text, after)
      else some ([], d :: rest)
    else if c = '\\' then
      (takeBackslashed q rest).map fun (text, after) => (plainEscape d :: text, after)
    else (takeBackslashed q (d :: rest)).map fun (text, after) => (c :: text, after)

def isHexDigit : Char → Bool := isDigitOf 16

/-- The number that hexadecimal digits spell, a plus sign before them allowed. -/
def hexNumber? (cs : List Char) : Option Nat :=
  let digits := match cs with
    | '+' :: rest => rest
    | cs => cs
  numberInBase? 16 digits

/-- The character of a byte that is given by its digits; only the low byte counts. -/
def byteChar? (base : Nat) (digits : List Char) : Option Char := do
  let n ← numberInBase? base digits
  if n % 256 < 128 then some (Char.ofNat (n % 256)) else none

/-- What an escape in an `E'…'` text stands for, and how many characters it takes after the
backslash. -/
def escape? : List Char → Option (Char × Nat)
  | [] => none
  | 'b' :: _ => some ('\x08', 1)
  | 'f' :: _ => some ('\x0c', 1)
  | 'n' :: _ => some ('\n', 1)
  | 'r' :: _ => some ('\r', 1)
  | 't' :: _ => some ('\t', 1)
  | 'u' :: rest => sized 4 rest
  | 'U' :: rest => sized 8 rest
  -- Without a digit after it the letter stands for itself.
  | 'x' :: rest =>
    let digits := (rest.take 2).takeWhile isHexDigit
    if digits.isEmpty then some ('x', 1)
    else (byteChar? 16 digits).map (·, digits.length + 1)
  | c :: rest =>
    if isDigitOf 8 c then
      let digits := c :: (rest.take 2).takeWhile (isDigitOf 8)
      (byteChar? 8 digits).map (·, digits.length)
    else some (c, 1)
where
  sized (n : Nat) (rest : List Char) : Option (Char × Nat) :=
    if (rest.take n).length = n then
      ((hexNumber? (rest.take n)).bind charOfCode?).map (·, n + 1)
    else none

/-- The text of an `E'…'` after its opening quote.  An escape that means nothing, or a null
character, spoils it. -/
def takeEscaped : Nat → List Char → Option (List Char × List Char)
  | 0, _ => none
  | _, [] => none
  | fuel + 1, '\'' :: '\'' :: rest =>
    (takeEscaped fuel rest).map fun (text, after) => ('\'' :: text, after)
  | _ + 1, '\'' :: rest => some ([], rest)
  | fuel + 1, '\\' :: rest => do
    let (c, used) ← escape? rest
    if c = '\x00' then none
    else (takeEscaped fuel (rest.drop used)).map fun (text, after) => (c :: text, after)
  | fuel + 1, c :: rest => (takeEscaped fuel rest).map fun (text, after) => (c :: text, after)

/-- The text of a `U&'…'` after its opening quote. -/
def takeUnicode : Nat → List Char → Option (List Char × List Char)
  | 0, _ => none
  | _, [] => none
  | fuel + 1, '\'' :: '\'' :: rest =>
    (takeUnicode fuel rest).map fun (text, after) => ('\'' :: text, after)
  | _ + 1, '\'' :: rest => some ([], rest)
  | fuel + 1, '\\' :: '\\' :: rest =>
    (takeUnicode fuel rest).map fun (text, after) => ('\\' :: text, after)
  | fuel + 1, '\\' :: '+' :: rest => coded fuel 6 rest
  | fuel + 1, '\\' :: rest => coded fuel 4 rest
  | fuel + 1, c :: rest => (takeUnicode fuel rest).map fun (text, after) => (c :: text, after)
where
  coded (fuel n : Nat) (rest : List Char) : Option (List Char × List Char) :=
    let digits := rest.take n
    if digits.length = n then do
      let c ← charOfHex? digits
      (takeUnicode fuel (rest.drop n)).map fun (text, after) => (c :: text, after)
    else none

/-- The text up to a closing `$$`. -/
def takeDollars : List Char → Option (List Char × List Char)
  | [] => none
  | '$' :: '$' :: rest => some ([], rest)
  | c :: rest => (takeDollars rest).map fun (text, after) => (c :: text, after)

/-- How much of a tag follows, up to and including the first character that differs. -/
def tagOverlap : List Char → List Char → List Char
  | _, [] => []
  | [], _ => []
  | t :: tag, c :: cs => if t = c then c :: tagOverlap tag cs else [c]

/-- The text up to a closing `$tag$`.  A dollar sign that begins something else belongs to the text
together with what was compared with the tag. -/
def takeTagged (tag : List Char) : Nat → List Char → Option (List Char × List Char)
  | 0, _ => none
  | _, [] => none
  | fuel + 1, '$' :: rest =>
    let compared := tagOverlap tag rest
    let after := rest.drop compared.length
    -- All of the tag is there, so a dollar sign after it closes the text.
    if compared = tag then
      match after with
      | '$' :: after => some ([], after)
      | after => more fuel compared after
    -- The text ends in the middle of a tag.
    else if compared.length < tag.length && after.isEmpty then none
    else more fuel compared after
  | fuel + 1, c :: rest => (takeTagged tag fuel rest).map fun (text, after) => (c :: text, after)
where
  more (fuel : Nat) (compared after : List Char) : Option (List Char × List Char) :=
    (takeTagged tag fuel after).map fun (text, rest) => ('$' :: compared ++ text, rest)

/-! ## Comments -/

/-- What follows a comment that is open as many times as given, after a character of it.  One
character may end a mark and begin the next. -/
def afterComment (depth : Nat) (last : Char) : List Char → Option (List Char)
  | [] => none
  | c :: rest =>
    -- A comment may be opened inside of a comment.
    if last = '/' && c = '*' then afterComment (depth + 1) c rest
    else if last = '*' && c = '/' then
      if depth ≤ 1 then some rest else afterComment (depth - 1) c rest
    else afterComment depth c rest

/-- What follows the end of the line. -/
def afterLine : List Char → List Char
  | [] => []
  | c :: rest => if c = '\n' then rest else afterLine rest

/-! ## Tokens -/

/-- A number with its exponent, and what follows it; nothing if the text begins with a point
alone. -/
def takeNumber (cs : List Char) : Option (List Char × List Char) :=
  let whole := cs.takeWhile Char.isDigit
  let rest := cs.dropWhile Char.isDigit
  let (fraction, rest) := match rest with
    | '.' :: more => ('.' :: more.takeWhile Char.isDigit, more.dropWhile Char.isDigit)
    | rest => ([], rest)
  let significand := whole ++ fraction
  if significand = ['.'] then none
  else
    match rest with
    | e :: more =>
      if e = 'e' || e = 'E' then
        let (sign, more) := match more with
          | '+' :: m => (['+'], m)
          | '-' :: m => (['-'], m)
          | m => ([], m)
        let digits := more.takeWhile Char.isDigit
        -- An `e` without digits after it is no exponent but begins a word.
        if digits.isEmpty then some (significand, rest)
        else some (significand ++ e :: (sign ++ digits), more.dropWhile Char.isDigit)
      else some (significand, rest)
    | [] => some (significand, [])

/-- A token and what follows it. -/
abbrev Lexeme := Except Fault (Option Token × List Char)

/-- The token of a literal. -/
def literalToken (make : String → Literal) (what : String)
    (read : Option (List Char × List Char)) : Lexeme :=
  match read with
  | some (text, after) => .ok (some (.literal (make (String.ofList text))), after)
  | none => .error (.unreadable what)

/-- The word that a text begins with. -/
def wordLexeme (cs : List Char) : Lexeme :=
  .ok (some (.ofWord (String.ofList (cs.takeWhile isWordPart))), cs.dropWhile isWordPart)

/-- The number that a text begins with. -/
def numberLexeme (cs : List Char) : Lexeme :=
  match cs with
  | '0' :: 'x' :: rest =>
    .ok (some (.literal (.hex (String.ofList (rest.takeWhile isHexDigit)))),
      rest.dropWhile isHexDigit)
  | cs =>
    match takeNumber cs with
    -- A point without digits is a mark.
    | none => .ok (some (.symbol "."), cs.drop 1)
    | some (digits, 'L' :: after) =>
      .ok (some (.literal (.number (String.ofList digits) true)), after)
    | some (digits, after) => .ok (some (.literal (.number (String.ofList digits) false)), after)

/-- The placeholder or the text between dollar signs that follows a dollar sign. -/
def dollarLexeme (rest : List Char) : Lexeme :=
  match rest with
  | '$' :: more => literalToken (.dollar none) "dollar-quoted text" (takeDollars more)
  | rest =>
    let tag := rest.takeWhile isTagPart
    match rest.dropWhile isTagPart with
    | '$' :: more =>
      literalToken (.dollar (some (String.ofList tag))) "dollar-quoted text"
        (takeTagged tag (more.length + 1) more)
    -- No second dollar sign closes the tag.
    | after => .ok (some (.literal (.placeholder (String.ofList ('$' :: tag)))), after)

/-- The operator that a text begins with, or its first character by itself. -/
def operatorLexeme (c : Char) (rest : List Char) : Lexeme :=
  match operatorAt? (c :: rest) with
  | some (op, grows) =>
    let after := (c :: rest).drop op.length
    -- Marks that follow may go on with the operator and make another one of it.
    let more := if grows then after.takeWhile isOperatorPart else []
    if more.isEmpty then .ok (some (operatorToken op), after)
    else .ok (some (.customOp (String.ofList (op ++ more))), after.drop more.length)
  | none =>
    if c = '?' then .ok (some (.symbol "?"), rest.drop 1)
    else if isBlank c then .ok (none, rest)
    else .ok (some (.stray c), rest)

/-- The first piece of a text that begins with the given character: a token, or nothing for a blank
or a comment. -/
def lexeme (c : Char) (rest : List Char) : Lexeme :=
  if c = ' ' || c = '\t' || c = '\n' || c = '\r' then .ok (none, rest)
  else
    match c, rest with
    | '-', '-' :: more => .ok (none, afterLine more)
    | '/', '*' :: more =>
      match afterComment 1 ' ' more with
      | some after => .ok (none, after)
      | none => .error (.unreadable "comment")
    | '\'', _ => literalToken .string "text" (takeQuoted '\'' rest)
    | '"', _ =>
      match takeQuoted '"' rest with
      | some (name, after) => .ok (some (.ofQuoted (String.ofList name)), after)
      | none => .error (.unreadable "quoted name")
    | '$', _ => dollarLexeme rest
    -- A letter right before a quote says what kind of text it is.
    | _, '\'' :: more =>
      if c = 'b' || c = 'B' then literalToken .bits "bit text" (takeQuoted '\'' more)
      else if c = 'n' || c = 'N' then
        literalToken .national "national text" (takeBackslashed '\'' more)
      else if c = 'x' || c = 'X' then
        literalToken .hex "hexadecimal text" (takeBackslashed '\'' more)
      else if c = 'e' || c = 'E' then
        literalToken .escaped "escaped text" (takeEscaped (more.length + 1) more)
      else other c rest
    | _, '"' :: more =>
      if c = 'b' || c = 'B' then literalToken .doubleBits "bit text" (takeQuoted '"' more)
      else other c rest
    | _, '&' :: '\'' :: more =>
      if c = 'u' || c = 'U' then
        literalToken .unicode "Unicode text" (takeUnicode (more.length + 1) more)
      else other c rest
    | _, _ => other c rest
where
  -- What else a letter, a digit or a mark can begin.
  other (c : Char) (rest : List Char) : Lexeme :=
    if c.isDigit || c = '.' then numberLexeme (c :: rest)
    else if isWordStart c then wordLexeme (c :: rest)
    else operatorLexeme c rest

/-- The tokens of a text.  Every piece takes at least one character, so the fuel is never used
up. -/
def tokensFrom : Nat → List Char → Except Fault (List Token)
  | _, [] => .ok []
  | 0, _ => .ok []
  | fuel + 1, c :: rest => do
    let (token, after) ← lexeme c rest
    let more ← tokensFrom fuel after
    pure (match token with
      | some t => t :: more
      | none => more)

/-- The tokens of a text. -/
def tokens (text : String) : Except Fault (List Token) :=
  tokensFrom text.length text.toList

end QueryReport.Sql
