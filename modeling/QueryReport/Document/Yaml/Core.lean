import QueryReport.Decimal.Read
import QueryReport.Document.Node
import QueryReport.Text.Digits

/-!
# Plain scalars

What text without quotes stands for: null, a boolean, a number, or the text itself.

* `Yaml.plainScalar` gives the meaning of a text without quotes.
* `Yaml.isMistaken` says which texts need quotes to be read as text.
-/

namespace QueryReport.Document.Yaml

open Decimal

/-- The spellings of null that are not empty. -/
def nulls : List String := ["null", "Null", "NULL", "~"]

def trues : List String := ["true", "True", "TRUE"]

def falses : List String := ["false", "False", "FALSE"]

/-- A boolean. -/
def bool? (text : String) : Option Bool :=
  if trues.contains text then some true
  else if falses.contains text then some false
  else none

/-- Whether digits begin with a zero that is not the only digit.  Such a text is no number. -/
def isPadded (digits : List Char) : Bool :=
  match digits with
  | '0' :: rest => !rest.isEmpty && rest.all Char.isDigit
  | _ => false

/-- A natural number with the mark of its base in front, or decimal. -/
def unsigned? : List Char → Option Nat
  | '0' :: 'x' :: rest => Text.numberInBase? 16 rest
  | '0' :: 'o' :: rest => Text.numberInBase? 8 rest
  | '0' :: 'b' :: rest => Text.numberInBase? 2 rest
  | cs => if isPadded cs then none else Text.numberInBase? 10 cs

/-- An integer.  Beyond 128 bits a text is no integer. -/
def integer? (cs : List Char) : Option Int := do
  let (negative, digits) := splitSign cs
  let n ← unsigned? digits
  if negative then
    if n ≤ Nat.pow 2 127 then some (-n) else none
  else if n < Nat.pow 2 128 then some n else none

/-- The spellings of infinity. -/
def infinities : List String := [".inf", ".Inf", ".INF"]

def nans : List String := [".nan", ".NaN", ".NAN"]

/-- A number that is no integer. -/
def float? (cs : List Char) : Option Binary64 :=
  let (negative, rest) := splitSign cs
  if infinities.contains (String.ofList rest) then some (.infinite negative)
  else if nans.contains (String.ofList cs) then some .nan
  else do
    let x ← magnitude? negative rest
    if x.isFinite then some x else none

/-- What a text without quotes stands for. -/
def plainScalar (text : String) : Scalar :=
  if text = "" || nulls.contains text then .null
  else match bool? text, integer? text.toList, float? text.toList with
    | some b, _, _ => .bool b
    | none, some n, _ => .int n
    | none, none, some x => if isPadded (splitSign text.toList).2 then .text text else .float x
    | none, none, none => .text text

/-- Whether a text without quotes would be read as something else, or is a number to a reader of
older rules. -/
def isMistaken (text : String) : Bool :=
  match plainScalar text with
  | .text s => isPadded (splitSign s.toList).2
  | _ => true

end QueryReport.Document.Yaml
