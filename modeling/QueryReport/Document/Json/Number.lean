import QueryReport.Decimal.Read
import QueryReport.Document.Node

/-!
# Numbers in JSON

A number without a point and an exponent is an integer if it fits into 64 bits.  Any other is the
product or quotient of a 64-bit significand and a power of ten, each rounded on its own; digits
that the significand cannot hold are dropped.
-/

namespace QueryReport.Document.Json

open Decimal

/-- The greatest 64-bit natural number. -/
def significandLimit : Nat := Nat.pow 2 64 - 1

/-- Takes digits into a significand as long as it fits; also gives the digits that are left. -/
def takeDigits (significand : Nat) : List Char → Nat × List Char
  | [] => (significand, [])
  | c :: rest =>
    let next := 10 * significand + (c.toNat - '0'.toNat)
    if next ≤ significandLimit then takeDigits next rest else (significand, c :: rest)

/-- The product of a value and a power of ten.  A power beyond the greatest is divided out in
steps; a product that is infinite is no number. -/
def timesTenTo (x : Binary64) (exponent : Int) : Nat → Option Binary64
  | 0 => some x
  | steps + 1 =>
    match x with
    | .finite negative rank =>
      if exponent.natAbs ≤ 308 then
        match scaled false 1 exponent.natAbs with
        | .finite _ power =>
          let y := if 0 ≤ exponent then Binary64.scaleUp negative rank power
            else Binary64.scaleDown negative rank power
          if y.isFinite then some y else none
        | _ => none
      -- Zero stays zero, whatever the power.
      else if rank.val = 0 then some x
      else if 0 ≤ exponent then none
      else
        match scaled false 1 308 with
        | .finite _ power => timesTenTo (Binary64.scaleDown negative rank power) (exponent + 308) steps
        | _ => none
    | _ => none

/-- The value of a significand and an exponent with a sign. -/
def floatOf (negative : Bool) (significand : Nat) (exponent : Int) : Scalar :=
  match timesTenTo (.ofRatio negative significand 1) exponent 8 with
  | some x => .float x
  | none => .unusable

/-- The value of a number with a point or an exponent part, or with too many digits.  `fraction`
is absent if there is no point, `exponent` if there is no exponent part. -/
def decimalOf (negative : Bool) (whole : List Char) (fraction : List Char)
    (exponent : Option Int) : Scalar :=
  let (significand, dropped) := takeDigits 0 whole
  let (significand, unread) := takeDigits significand fraction
  -- Digits that were dropped count upwards, those of the fraction that were read downwards.
  let places : Int := (dropped.length : Int) - ((fraction.length : Int) - unread.length)
  match exponent with
  | none => floatOf negative significand places
  | some e =>
    if e.natAbs < Nat.pow 2 31 then
      let sum := places + e
      floatOf negative significand (max (-Int.pow 2 31) (min (Int.pow 2 31 - 1) sum))
    else if significand ≠ 0 && 0 < e then .unusable
    else .float (.ofRank negative 0)

/-- The value of digits without a point and an exponent part. -/
def integerOf (negative : Bool) (whole : List Char) : Scalar :=
  let (n, dropped) := takeDigits 0 whole
  if dropped.isEmpty then
    if !negative then .int n
    -- Minus zero is no integer, and below the least integer there are only floats.
    else if n = 0 || Nat.pow 2 63 < n then .float (.ofRatio true n 1)
    else .int (-n)
  else floatOf negative n dropped.length

/-- A fraction and what follows it; nothing if a point has no digits after it. -/
def splitFraction : List Char → Option (List Char × List Char)
  | '.' :: rest =>
    let digits := rest.takeWhile Char.isDigit
    if digits.isEmpty then none else some (digits, rest.dropWhile Char.isDigit)
  | cs => some ([], cs)

/-- An exponent part and what follows it; nothing if it has no digits. -/
def splitExponent : List Char → Option (Option Int × List Char)
  | [] => some (none, [])
  | e :: rest =>
    if e = 'e' || e = 'E' then
      let (negative, more) := splitSign rest
      let digits := more.takeWhile Char.isDigit
      if digits.isEmpty then none
      else
        let n : Int := digitsValue digits
        some (some (if negative then -n else n), more.dropWhile Char.isDigit)
    else some (none, e :: rest)

/-- A number at the start of the text and what follows it. -/
def readNumber (cs : List Char) : Option (Scalar × List Char) := do
  let (negative, cs) := match cs with
    | '-' :: rest => (true, rest)
    | cs => (false, cs)
  let whole := cs.takeWhile Char.isDigit
  let rest := cs.dropWhile Char.isDigit
  if whole.isEmpty || (whole.head? = some '0' && whole.length ≠ 1) then none
  else
    let (fraction, afterFraction) ← splitFraction rest
    let (exponent, afterExponent) ← splitExponent afterFraction
    let scalar :=
      if fraction.isEmpty && exponent.isNone then integerOf negative whole
      else decimalOf negative whole fraction exponent
    some (scalar, afterExponent)

end QueryReport.Document.Json
