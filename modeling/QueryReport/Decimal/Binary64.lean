/-!
# Binary floating-point numbers

`Binary64` is the set of values of IEEE 754 double precision, with one value for all NaNs.  A
magnitude is held as its *rank*: the finite magnitudes in order are numbered from zero, which is
also how their bit patterns count.  So the order of magnitudes is the order of ranks, and
rounding is one division.

* `Binary64.ofRatio` rounds a quotient of natural numbers to the nearest value, ties to even.
* `Binary64.magnitude` is the exact magnitude of a rank, counted in units of `2 ^ -1074`.

Definitions call `Nat.pow` and `Int.pow` by name: what `^` stands for depends on the instances that
are imported.
-/

namespace QueryReport.Decimal

/-- How many finite magnitudes there are. -/
def rankLimit : Nat := 2047 * Nat.pow 2 52

/-- A double-precision number. -/
inductive Binary64 where
  | nan
  | infinite (negative : Bool)
  | finite (negative : Bool) (rank : Fin rankLimit)
deriving DecidableEq, Repr

namespace Binary64

/-- The integer part of a rank's magnitude in its binade's own unit. -/
def significand (rank : Nat) : Nat :=
  if rank < Nat.pow 2 52 then rank else Nat.pow 2 52 + rank % Nat.pow 2 52

/-- The binary exponent of a rank's unit, counted from that of the smallest. -/
def scale (rank : Nat) : Nat := rank / Nat.pow 2 52 - 1

/-- The magnitude of a rank in units of `2 ^ -1074`. -/
def magnitude (rank : Nat) : Nat := significand rank * Nat.pow 2 (scale rank)

/-- The magnitude of one, in the same units. -/
def unit : Nat := Nat.pow 2 1074

/-- The value of a given sign and rank; a rank that is too high is infinite. -/
def ofRank (negative : Bool) (rank : Nat) : Binary64 :=
  if h : rank < rankLimit then finite negative ⟨rank, h⟩ else infinite negative

/-- The nearest natural number to a quotient; a tie goes to the even one. -/
def divRound (num den : Nat) : Nat :=
  let quotient := num / den
  let twice := 2 * (num % den)
  if twice < den then quotient
  else if den < twice then quotient + 1
  else quotient + quotient % 2

/-- The rank of the value nearest to a quotient, ties to even.  The binade is that of the exact
quotient; a significand that rounds up to the next power of two is the next binade's first. -/
def roundedRank (num den : Nat) : Nat :=
  let exponent := Nat.log2 (num * unit / den) - 52
  exponent * Nat.pow 2 52 + divRound (num * unit) (den * Nat.pow 2 exponent)

/-- The value nearest to a quotient with a sign. -/
def ofRatio (negative : Bool) (num den : Nat) : Binary64 := ofRank negative (roundedRank num den)

/-- The value nearest to an integer. -/
def ofInt (n : Int) : Binary64 := ofRatio (n < 0) n.natAbs 1

def zero : Binary64 := ofRank false 0

def isFinite : Binary64 → Bool
  | finite _ _ => true
  | _ => false

/-- A finite value as a signed multiple of `2 ^ -1074`. -/
def units? : Binary64 → Option Int
  | finite negative rank =>
    some (if negative then -(magnitude rank : Int) else (magnitude rank : Int))
  | _ => none

/-- The order of two values; a NaN is in no order, and both zeros are equal. -/
def compare? : Binary64 → Binary64 → Option Ordering
  | nan, _ => none
  | _, nan => none
  | infinite a, infinite b => some (compare b.toNat a.toNat)
  | infinite a, finite _ _ => some (if a then .lt else .gt)
  | finite _ _, infinite b => some (if b then .gt else .lt)
  | finite a r, finite b s =>
    some (compare (if a then -(r.val : Int) else r.val) (if b then -(s.val : Int) else s.val))

/-- A finite value without its fraction. -/
def truncate? (x : Binary64) : Option Int := x.units?.map fun n => n.tdiv unit

/-- The product of two finite magnitudes, rounded. -/
def scaleUp (negative : Bool) (rank factor : Nat) : Binary64 :=
  ofRatio negative (magnitude rank * magnitude factor) (unit * unit)

/-- The quotient of two finite magnitudes, rounded. -/
def scaleDown (negative : Bool) (rank divisor : Nat) : Binary64 :=
  ofRatio negative (magnitude rank) (magnitude divisor)

end Binary64

instance : Inhabited Binary64 := ⟨.zero⟩

end QueryReport.Decimal
