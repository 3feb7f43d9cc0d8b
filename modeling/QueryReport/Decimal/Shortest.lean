import QueryReport.Decimal.Binary64

/-!
# Shortest decimal digits

The fewest decimal digits that still round to a given binary number, and of those the nearest.  A
value is the centre of an interval of reals that round to it; for one, two, … seventeen digits the
two decimal neighbours of the value are tried, and the first grid with a neighbour in the interval
wins.
-/

namespace QueryReport.Decimal

open Binary64

/-- Decimal digits with the place of the point: the value is `0.digits * 10 ^ point`. -/
structure Digits where
  digits : List Char
  point : Int
deriving DecidableEq, Repr, Inhabited

/-- How many places of ten are added before a magnitude is measured, enough for the smallest. -/
def measurePlaces : Nat := 400

/-- The place of the first digit of a rank's magnitude: it is below `10 ^ point` and not below a
tenth of that. -/
def firstPlace (rank : Nat) : Int :=
  let digits := Nat.toDigits 10 (magnitude rank * Nat.pow 10 measurePlaces / unit)
  (digits.length : Int) - measurePlaces

/-- Whether `n * 10 ^ place` rounds to the rank.  The ends of the interval belong to it when the
rank is even. -/
def roundsTo (rank n : Nat) (place : Int) : Bool :=
  -- All is doubled, since the ends of the interval lie halfway to the neighbours.
  let twice := 2 * n * unit * Nat.pow 10 place.toNat
  let grow := Nat.pow 10 (-place).toNat
  let low := (magnitude (rank - 1) + magnitude rank) * grow
  let high := (magnitude rank + magnitude (rank + 1)) * grow
  if rank % 2 = 0 then low ≤ twice && twice ≤ high else low < twice && twice < high

/-- The neighbour of the rank's magnitude on the grid of `10 ^ place` that rounds to the rank, the
nearer one if both do. -/
def gridNeighbour? (rank : Nat) (place : Int) : Option Nat :=
  let num := magnitude rank * Nat.pow 10 (-place).toNat
  let den := unit * Nat.pow 10 place.toNat
  let below := num / den
  match roundsTo rank below place, roundsTo rank (below + 1) place with
  | true, true => some (if 2 * (num % den) ≤ den then below else below + 1)
  | true, false => some below
  | false, true => some (below + 1)
  | false, false => none

/-- Tries grids of `count` digits and more, `tries` of them. -/
def shortestFrom (rank : Nat) (first : Int) (count : Nat) : Nat → Nat × Int
  | 0 => (magnitude rank / unit, 0)
  | tries + 1 =>
    match gridNeighbour? rank (first - count) with
    | some n => (n, first - count)
    | none => shortestFrom rank first (count + 1) tries

/-- The shortest digits of a rank's magnitude; zero has the one digit `0`. -/
def shortest (rank : Nat) : Digits :=
  if rank = 0 then ⟨['0'], 1⟩
  else
    let (n, place) := shortestFrom rank (firstPlace rank) 1 17
    let digits := Nat.toDigits 10 n
    let kept := (digits.reverse.dropWhile (· = '0')).reverse
    ⟨kept, place + digits.length⟩

end QueryReport.Decimal
