import QueryReport.DataType
import QueryReport.Decimal.Layout
import QueryReport.Decimal.Read

/-!
# Scalar values

The values that filters compare with and that definitions offer.  A value has a text, coerces to a
number where it can, and is ordered against another either by itself or as a declared type.
-/

namespace QueryReport

open Decimal

/-- A scalar. -/
inductive Value where
  | null
  | bool (value : Bool)
  | int (value : Int)
  | float (value : Binary64)
  | text (value : String)
deriving DecidableEq, Repr, Inhabited

namespace Value

/-- The value as text: null is empty, numbers have all their places. -/
def display : Value → String
  | null => ""
  | bool b => if b then "true" else "false"
  | int n => toString n
  | float x => Layout.plain.text x
  | text s => s

def isNull : Value → Bool
  | null => true
  | _ => false

/-- Whether the value is null or a text of blanks. -/
def isBlank : Value → Bool
  | null => true
  | text s => Text.isBlankText s
  | _ => false

/-- A finite number without its fraction, if that fits into 64 bits. -/
def wholePart? (x : Binary64) : Option Int := do
  let n ← x.truncate?
  if fitsInt64 n then some n else none

/-- The value as an integer.  Text is read without the blanks around it; fractions are cut off. -/
def toInt? : Value → Option Int
  | int n => some n
  | float x => wholePart? x
  | text s =>
    let cs := (Text.trim s).toList
    match int64? cs with
    | some n => some n
    | none => readNumber? cs >>= wholePart?
  | _ => none

/-- The value as a number, if it is finite. -/
def toNumber? : Value → Option Binary64
  | int n => finite? (.ofInt n)
  | float x => finite? x
  | text s => readNumber? (Text.trim s).toList >>= finite?
  | _ => none
where
  finite? (x : Binary64) : Option Binary64 := if x.isFinite then some x else none

/-- The order of two texts by their code points. -/
def compareText (a b : String) : Ordering := compareOfLessAndEq a b

/-- The order of two values that are both numbers by size, of any others by text.  Numbers that are
not finite are in no order. -/
def compare? : Value → Value → Option Ordering
  | int a, int b => some (compare a b)
  | int a, float y => order (int a) (float y)
  | float x, int b => order (float x) (int b)
  | float x, float y => order (float x) (float y)
  | a, b => some (compareText a.display b.display)
where
  order (a b : Value) : Option Ordering := do
    let x ← a.toNumber?
    let y ← b.toNumber?
    Binary64.compare? x y

/-- The order of two values as values of a type: for the numeric types that of the numbers they
coerce to. -/
def compareAs? (type : DataType) (a b : Value) : Option Ordering :=
  match type with
  | .integer => do
    let x ← a.toInt?
    let y ← b.toInt?
    some (compare x y)
  | .number => do
    let x ← a.toNumber?
    let y ← b.toNumber?
    Binary64.compare? x y
  | _ => compare? a b

end Value

end QueryReport
