import QueryReport.Decimal.Shortest

/-!
# Layouts of numbers

How the shortest digits of a number are set out.  A `Layout` says which numbers are written with
all their places and how the others show their exponent; `plain`, `json` and `yaml` are the three
in use.
-/

namespace QueryReport.Decimal

/-- The choices of a number format. -/
structure Layout where
  /-- The places of the point for which no exponent is written; everywhere if absent. -/
  positional : Option (Int × Int)
  /-- What follows a number without a fraction. -/
  wholeMark : String
  /-- What stands before an exponent that is not negative. -/
  exponentSign : String
  nan : String
  infinity : String
  negativeInfinity : String

/-- Every place is written, and nothing after a whole number. -/
def Layout.plain : Layout := ⟨none, "", "", "NaN", "inf", "-inf"⟩

/-- Whole numbers keep a zero after the point; from `10 ^ 16` on and below `10 ^ -5` an exponent
with a sign is written.  Values that are not finite are null. -/
def Layout.json : Layout := ⟨some (-4, 16), ".0", "+", "null", "null", "null"⟩

/-- As in JSON, but no sign before a positive exponent, and names for the values that are not
finite. -/
def Layout.yaml : Layout := ⟨some (-4, 16), ".0", "", ".nan", ".inf", "-.inf"⟩

/-- Digits with all their places. -/
def Digits.positional (d : Digits) (wholeMark : String) : String :=
  let length : Int := d.digits.length
  if d.point ≤ 0 then
    String.ofList ('0' :: '.' :: List.replicate (-d.point).toNat '0' ++ d.digits)
  else if length ≤ d.point then
    String.ofList (d.digits ++ List.replicate (d.point - length).toNat '0') ++ wholeMark
  else
    let k := d.point.toNat
    String.ofList (d.digits.take k ++ '.' :: d.digits.drop k)

/-- Digits with one place before the point and an exponent. -/
def Digits.exponential (d : Digits) (sign : String) : String :=
  let exponent := d.point - 1
  let significand := match d.digits with
    | [] => "0"
    | [digit] => digit.toString
    | digit :: rest => String.ofList (digit :: '.' :: rest)
  significand ++ "e" ++ (if exponent < 0 then "-" else sign) ++ toString exponent.natAbs

/-- A number in a layout. -/
def Layout.text (layout : Layout) : Binary64 → String
  | .nan => layout.nan
  | .infinite false => layout.infinity
  | .infinite true => layout.negativeInfinity
  | .finite negative rank =>
    let digits := shortest rank
    let positional := match layout.positional with
      | none => true
      | some (least, greatest) => least ≤ digits.point && digits.point ≤ greatest
    (if negative then "-" else "")
    ++ (if positional then digits.positional layout.wholeMark
        else digits.exponential layout.exponentSign)

end QueryReport.Decimal
