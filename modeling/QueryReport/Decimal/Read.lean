import QueryReport.Decimal.Binary64

/-!
# Reading numbers

Decimal text as integers and as binary numbers.  `readNumber?` takes a sign, digits with or without
a point, and an exponent, or one of the names of the values that are not finite.
-/

namespace QueryReport.Decimal

/-- The number that decimal digits spell. -/
def digitsValue (digits : List Char) : Nat :=
  digits.foldl (fun n c => 10 * n + (c.toNat - '0'.toNat)) 0

/-- A natural number from digits alone, at least one. -/
def natural? (cs : List Char) : Option Nat :=
  if !cs.isEmpty && cs.all Char.isDigit then some (digitsValue cs) else none

/-- A sign, if one is there, and what follows it. -/
def splitSign : List Char → Bool × List Char
  | '-' :: rest => (true, rest)
  | '+' :: rest => (false, rest)
  | cs => (false, cs)

/-- Whether an integer fits into 64 bits with a sign. -/
def fitsInt64 (n : Int) : Bool := -Int.pow 2 63 ≤ n && n < Int.pow 2 63

/-- Whether a natural number fits into 64 bits. -/
def fitsNat64 (n : Nat) : Bool := n < Nat.pow 2 64

/-- A signed 64-bit integer from a sign and digits. -/
def int64? (cs : List Char) : Option Int := do
  let (negative, digits) := splitSign cs
  let n ← natural? digits
  let value : Int := if negative then -n else n
  if fitsInt64 value then some value else none

/-- An unsigned 64-bit integer from digits, before which a plus sign may stand. -/
def nat64? (cs : List Char) : Option Nat := do
  let n ← natural? (match cs with | '+' :: rest => rest | cs => cs)
  if fitsNat64 n then some n else none

/-- The value nearest to `digits * 10 ^ exponent`.  Exponents far outside the range of the values
are settled by the number of digits. -/
def scaled (negative : Bool) (digits : Nat) (exponent : Int) : Binary64 :=
  let size : Int := exponent + (Nat.log2 digits : Int)
  if digits = 0 then .ofRank negative 0
  else if 0 ≤ exponent then
    if 1100 < exponent then .infinite negative
    else .ofRatio negative (digits * Nat.pow 10 exponent.toNat) 1
  else if size < -1100 then .ofRank negative 0
  else .ofRatio negative digits (Nat.pow 10 (-exponent).toNat)

/-- The exponent part of a number, absent if the text ends. -/
def exponent? : List Char → Option Int
  | [] => some 0
  | e :: rest =>
    if e = 'e' || e = 'E' then do
      let (negative, digits) := splitSign rest
      let n ← natural? digits
      some (if negative then -n else n)
    else none

/-- A number without a sign. -/
def magnitude? (negative : Bool) (cs : List Char) : Option Binary64 :=
  match String.ofList (cs.map Char.toLower) with
  | "inf" => some (.infinite negative)
  | "infinity" => some (.infinite negative)
  | "nan" => some .nan
  | _ =>
    let whole := cs.takeWhile Char.isDigit
    let afterWhole := cs.dropWhile Char.isDigit
    let (fraction, rest) := match afterWhole with
      | '.' :: more => (more.takeWhile Char.isDigit, more.dropWhile Char.isDigit)
      | _ => ([], afterWhole)
    if whole.isEmpty && fraction.isEmpty then none
    else (exponent? rest).map fun e =>
      scaled negative (digitsValue (whole ++ fraction)) (e - fraction.length)

/-- A number with a sign, if one is there. -/
def readNumber? (cs : List Char) : Option Binary64 :=
  let (negative, rest) := splitSign cs
  magnitude? negative rest

end QueryReport.Decimal
