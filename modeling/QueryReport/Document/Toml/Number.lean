import QueryReport.Decimal.Read
import QueryReport.Document.Node
import QueryReport.Text.Digits

/-!
# Numbers and dates in TOML

What a word stands for that is no text: a boolean, a number, or a date or time.
-/

namespace QueryReport.Document.Toml

open Decimal

/-- Digits of a base without the underscores that may stand between two of them. -/
def groupedDigits? (base : Nat) : List Char → Option (List Char)
  | [] => none
  | [c] => if Text.isDigitOf base c then some [c] else none
  | c :: '_' :: rest =>
    if Text.isDigitOf base c then (groupedDigits? base rest).map (c :: ·) else none
  | c :: rest => if Text.isDigitOf base c then (groupedDigits? base rest).map (c :: ·) else none

/-- Digits before a point: a zero comes first only if it is alone. -/
def wholeDigits? (cs : List Char) : Option (List Char) := do
  let digits ← groupedDigits? 10 cs
  if digits.head? = some '0' && digits ≠ ['0'] then none else some digits

/-- An integer of a base with a mark in front. -/
def markedInteger? (cs : List Char) : Option Int := do
  let (base, digits) ← match cs with
    | '0' :: 'x' :: rest => some (16, rest)
    | '0' :: 'o' :: rest => some (8, rest)
    | '0' :: 'b' :: rest => some (2, rest)
    | _ => none
  let digits ← groupedDigits? base digits
  let n ← Text.numberInBase? base digits
  some n

/-- A decimal integer. -/
def decimalInteger? (cs : List Char) : Option Int := do
  let (negative, rest) := splitSign cs
  let digits ← wholeDigits? rest
  let n : Int := digitsValue digits
  some (if negative then -n else n)

/-- An integer of at most 128 bits. -/
def integer? (cs : List Char) : Option Int := do
  let n ← (markedInteger? cs).or (decimalInteger? cs)
  if -Int.pow 2 127 ≤ n && n < Int.pow 2 128 then some n else none

/-- The digits and the exponent of a number without its sign; one of point and exponent has to be
there. -/
def floatParts? (cs : List Char) : Option (List Char × Int) := do
  let isMark (c : Char) : Bool := c = 'e' || c = 'E'
  let significand := cs.takeWhile (!isMark ·)
  let whole ← wholeDigits? (significand.takeWhile (· ≠ '.'))
  let fraction ← match significand.dropWhile (· ≠ '.') with
    | [] => some []
    | _ :: digits => groupedDigits? 10 digits
  let exponent : Int ← match cs.dropWhile (!isMark ·) with
    | [] => if fraction.isEmpty then none else some 0
    | _ :: rest => do
      let (negative, rest) := splitSign rest
      let digits ← groupedDigits? 10 rest
      let n : Int := digitsValue digits
      some (if negative then -n else n)
  some (whole ++ fraction, exponent - fraction.length)

/-- A number that is no integer. -/
def float? (cs : List Char) : Option Binary64 :=
  let (negative, rest) := splitSign cs
  if rest = ['i', 'n', 'f'] then some (.infinite negative)
  else if rest = ['n', 'a', 'n'] then some .nan
  else do
    let (digits, exponent) ← floatParts? rest
    let x := scaled negative (digitsValue digits) exponent
    if x.isFinite then some x else none

/-! ## Dates -/

/-- A number of two digits within bounds. -/
def within (least most : Nat) (c d : Char) : Bool :=
  match natural? [c, d] with
  | some n => least ≤ n && n ≤ most
  | none => false

/-- How many days a month has. -/
def daysIn (year month : Nat) : Nat :=
  match month with
  | 2 => if year % 4 = 0 && (year % 100 ≠ 0 || year % 400 = 0) then 29 else 28
  | 4 | 6 | 9 | 11 => 30
  | _ => 31

/-- What follows a date at the start of a text. -/
def afterDate? : List Char → Option (List Char)
  | a :: b :: c :: d :: '-' :: m :: n :: '-' :: e :: f :: rest => do
    let year ← natural? [a, b, c, d]
    let month ← natural? [m, n]
    if within 1 12 m n && within 1 (daysIn year month) e f then some rest else none
  | _ => none

/-- What follows the seconds of a time of day, if they are given, and their fraction. -/
def afterSeconds? : List Char → Option (List Char)
  | ':' :: s :: t :: rest =>
    if within 0 60 s t then
      match rest with
      | '.' :: more =>
        if (more.takeWhile Char.isDigit).isEmpty then none
        else some (more.dropWhile Char.isDigit)
      | rest => some rest
    else none
  | rest => some rest

/-- What follows a time of day at the start of a text. -/
def afterTime? : List Char → Option (List Char)
  | h :: i :: ':' :: m :: n :: rest =>
    if within 0 23 h i && within 0 59 m n then afterSeconds? rest else none
  | _ => none

/-- Whether a text is a distance from universal time. -/
def isZone : List Char → Bool
  | ['Z'] | ['z'] => true
  | [sign, h, h', ':', m, m'] =>
    (sign = '+' || sign = '-') && within 0 23 h h' && within 0 59 m m'
  | _ => false

/-- Whether a text is a date, a time, or both. -/
def isDateTime (cs : List Char) : Bool :=
  match afterDate? cs with
  | none => afterTime? cs = some []
  | some [] => true
  | some (c :: rest) =>
    (c = 'T' || c = 't' || c = ' ')
      && (match afterTime? rest with
          | some zone => zone.isEmpty || isZone zone
          | none => false)

/-! ## Words -/

/-- A character of a word. -/
def isWordChar (c : Char) : Bool :=
  c.isAlphanum || c = '_' || c = '+' || c = '-' || c = '.' || c = ':'

/-- A word at the start of a text, and what follows it.  A date and a time after a blank are one
word. -/
def splitWord (cs : List Char) : List Char × List Char :=
  let word := cs.takeWhile isWordChar
  match afterDate? word, cs.dropWhile isWordChar with
  | some [], ' ' :: c :: rest =>
    if c.isDigit then
      (word ++ ' ' :: (c :: rest).takeWhile isWordChar, (c :: rest).dropWhile isWordChar)
    else (word, ' ' :: c :: rest)
  | _, rest => (word, rest)

/-- The document of a date or time: an object that holds it. -/
def ofDateTime (cs : List Char) : Node :=
  .object (.cons (.ofText "date") (.ofText (String.ofList cs)) .nil)

/-- What a word stands for. -/
def word? (cs : List Char) : Option Node :=
  if cs = "true".toList then some (.scalar (.bool true) none)
  else if cs = "false".toList then some (.scalar (.bool false) none)
  else match integer? cs with
    | some n => some (.scalar (.int n) none)
    | none =>
      match float? cs with
      | some x => some (.scalar (.float x) none)
      | none => if isDateTime cs then some (ofDateTime cs) else none

end QueryReport.Document.Toml
