import Mathlib.Order.Monotone.Basic
import Mathlib.Tactic.Ring
import QueryReport.Decimal.Shortest

/-!
# `QueryReport.Proofs.Decimal.Rounding`: which numbers round to a rank

`magnitude` counts the finite magnitudes of double precision.  One rank further is one unit of the
binade further (`magnitude_succ`), so ranks are in the order of their magnitudes.

`Rounds rank num den` says that the quotient `num / den` lies between the midpoints to the
neighbours of a rank, the midpoints included if the rank is even.  The intervals of two ranks have
no number in common (`Rounds.unique`), and the rank that a quotient is rounded to has it in its
interval (`rounds_roundedRank`); so rounding is to the nearest, and ties go to even: `rounds_iff`.
-/

set_option autoImplicit false

namespace QueryReport.Decimal

open Binary64

/-! ## Magnitudes -/

theorem significand_eq (rank : Nat) :
    significand rank = if rank < 2 ^ 52 then rank else 2 ^ 52 + rank % 2 ^ 52 := rfl

theorem scale_eq (rank : Nat) : scale rank = rank / 2 ^ 52 - 1 := rfl

theorem magnitude_eq (rank : Nat) : magnitude rank = significand rank * 2 ^ scale rank := rfl

/-- The place of one among the powers of two that magnitudes are counted in. -/
@[irreducible] def unitPlace : Nat := 1074

theorem unit_eq : unit = 2 ^ unitPlace := by
  rw [← Nat.pow_eq]
  unfold unit
  congr 1
  rw [unitPlace]

theorem unit_pos : 0 < unit := unit_eq ▸ Nat.two_pow_pos unitPlace

/-- A significand with its binade.  The first significand of the next binade may also be counted as
one too many of this. -/
theorem magnitude_parts {exponent s : Nat} (hs : s ≤ 2 ^ 53) (h : exponent = 0 ∨ 2 ^ 52 ≤ s) :
    magnitude (exponent * 2 ^ 52 + s) = s * 2 ^ exponent := by
  rw [magnitude_eq, significand_eq, scale_eq]
  by_cases hsmall : s < 2 ^ 52
  · obtain rfl : exponent = 0 := by omega
    rw [if_pos (by omega), show (0 * 2 ^ 52 + s) / 2 ^ 52 - 1 = 0 by omega]
    omega
  · rw [if_neg (by omega)]
    obtain hlt | rfl := Nat.lt_or_eq_of_le hs
    · rw [show (exponent * 2 ^ 52 + s) / 2 ^ 52 - 1 = exponent by omega,
        show 2 ^ 52 + (exponent * 2 ^ 52 + s) % 2 ^ 52 = s by omega]
    · rw [show (exponent * 2 ^ 52 + 2 ^ 53) / 2 ^ 52 - 1 = exponent + 1 by omega,
        show 2 ^ 52 + (exponent * 2 ^ 52 + 2 ^ 53) % 2 ^ 52 = 2 ^ 52 by omega, Nat.pow_succ]
      ring

/-- The parts of a rank. -/
theorem rank_parts (rank : Nat) : rank = scale rank * 2 ^ 52 + significand rank
    ∧ significand rank < 2 ^ 53 ∧ (scale rank = 0 ∨ 2 ^ 52 ≤ significand rank) := by
  rw [significand_eq, scale_eq]
  split <;> omega

/-- One rank further is one unit of the binade further. -/
theorem magnitude_succ (rank : Nat) : magnitude (rank + 1) = magnitude rank + 2 ^ scale rank := by
  obtain ⟨hrank, hlt, hnormal⟩ := rank_parts rank
  have hnext : magnitude (scale rank * 2 ^ 52 + (significand rank + 1))
      = (significand rank + 1) * 2 ^ scale rank := magnitude_parts hlt (by omega)
  rw [← Nat.add_assoc, ← hrank] at hnext
  rw [hnext, magnitude_eq]
  ring

theorem magnitude_strictMono : StrictMono magnitude := by
  refine strictMono_nat_of_lt_succ fun rank => ?_
  rw [magnitude_succ]
  exact Nat.lt_add_of_pos_right (Nat.two_pow_pos _)

theorem scale_mono {rank rank' : Nat} (h : rank ≤ rank') : scale rank ≤ scale rank' := by
  rw [scale_eq, scale_eq]
  omega

/-! ## Rounding a quotient to a natural number -/

/-- The rounded quotient is nearest, and a tie goes to the even number. -/
theorem divRound_spec (num : Nat) {den : Nat} (hden : 0 < den) :
    2 * (divRound num den * den) ≤ 2 * num + den ∧ 2 * num ≤ 2 * (divRound num den * den) + den
      ∧ (divRound num den % 2 = 1 →
        2 * (divRound num den * den) < 2 * num + den
          ∧ 2 * num < 2 * (divRound num den * den) + den) := by
  have hdivide := Nat.div_add_mod num den
  have hrest := Nat.mod_lt num hden
  have hup : (num / den + 1) * den = den * (num / den) + den := by ring
  have hdown : num / den * den = den * (num / den) := by ring
  unfold divRound
  dsimp only
  split
  · rw [hdown]
    omega
  · split
    · rw [hup]
      omega
    · -- The quotient lies halfway between two numbers.
      obtain heven | hodd : num / den % 2 = 0 ∨ num / den % 2 = 1 := by omega
      · rw [heven, Nat.add_zero, hdown]
        omega
      · rw [hodd, hup]
        omega

/-- A quotient without a rest is not rounded. -/
theorem divRound_mul (n : Nat) {den : Nat} (hden : 0 < den) : divRound (n * den) den = n := by
  unfold divRound
  rw [Nat.mul_mod_left, Nat.mul_div_cancel n hden]
  exact if_pos hden

/-! ## Rounding a quotient to a rank -/

/-- The quotient `num / den` lies in the interval of a rank.  The ends belong to it if the rank is
even. -/
def Rounds (rank num den : Nat) : Prop :=
  (magnitude (rank - 1) + magnitude rank) * den ≤ 2 * (num * unit)
    ∧ 2 * (num * unit) ≤ (magnitude rank + magnitude (rank + 1)) * den
    ∧ (rank % 2 = 1 →
      (magnitude (rank - 1) + magnitude rank) * den < 2 * (num * unit)
        ∧ 2 * (num * unit) < (magnitude rank + magnitude (rank + 1)) * den)

variable {rank rank' num den : Nat}

/-- What lies between two numbers of an interval lies in it. -/
theorem Rounds.between {low high : Nat} (hlow : Rounds rank low den) (hhigh : Rounds rank high den)
    (hleft : low ≤ num) (hright : num ≤ high) : Rounds rank num den := by
  have hleft := Nat.mul_le_mul_right unit hleft
  have hright := Nat.mul_le_mul_right unit hright
  unfold Rounds at *
  omega

/-- The intervals of two ranks have no number in common. -/
theorem Rounds.unique (hden : 0 < den) (h : Rounds rank num den) (h' : Rounds rank' num den) :
    rank = rank' := by
  -- Of two ranks one has the interval that begins where the other ends, or later.
  have hapart : ∀ {rank rank' : Nat}, Rounds rank num den → Rounds rank' num den →
      ¬ rank < rank' := by
    intro rank rank' h h' hlt
    have hbelow : magnitude rank ≤ magnitude (rank' - 1) :=
      magnitude_strictMono.monotone (by omega)
    have habove : magnitude (rank + 1) ≤ magnitude rank' :=
      magnitude_strictMono.monotone (by omega)
    have hends := Nat.mul_le_mul_right den (Nat.add_le_add hbelow habove)
    -- They can only share an end, and then both are even, with another rank between them.
    have hgap : rank + 1 < rank' := by
      unfold Rounds at h h'
      omega
    have hbelow : magnitude rank < magnitude (rank' - 1) := magnitude_strictMono (by omega)
    have hends := Nat.mul_lt_mul_of_pos_right (Nat.add_lt_add_of_lt_of_le hbelow habove) hden
    unfold Rounds at h h'
    omega
  have := hapart h h'
  have := hapart h' h
  omega

/-- The exponent that a quotient is rounded with. -/
def roundingExponent (num den : Nat) : Nat := Nat.log2 (num * unit / den) - 52

/-- The exponent is the one of the binade of the quotient. -/
theorem roundingExponent_spec (num : Nat) {den : Nat} (hden : 0 < den) :
    num * unit < 2 ^ 53 * (den * 2 ^ roundingExponent num den)
      ∧ (roundingExponent num den = 0
        ∨ 2 ^ 52 * (den * 2 ^ roundingExponent num den) ≤ num * unit) := by
  generalize hexponent : roundingExponent num den = exponent
  unfold roundingExponent at hexponent
  generalize num * unit = n at *
  -- The logarithm puts the quotient between two powers of two, unless it is too small for that.
  have hlow : exponent = 0 ∨ 2 ^ (52 + exponent) ≤ n / den := by
    by_cases hzero : n / den = 0
    · rw [hzero] at hexponent
      exact .inl hexponent.symm
    · have := Nat.log2_self_le hzero
      by_cases h : exponent = 0
      · exact .inl h
      · rw [show 52 + exponent = Nat.log2 (n / den) by omega]
        exact .inr this
  have hhigh : n / den < 2 ^ (53 + exponent) := by
    refine Nat.lt_of_lt_of_le Nat.lt_log2_self (Nat.pow_le_pow_right (by decide) ?_)
    omega
  constructor
  · rw [Nat.div_lt_iff_lt_mul hden, Nat.pow_add] at hhigh
    calc n < 2 ^ 53 * 2 ^ exponent * den := hhigh
      _ = 2 ^ 53 * (den * 2 ^ exponent) := by ring
  · refine hlow.imp_right fun hlow => ?_
    rw [Nat.le_div_iff_mul_le hden, Nat.pow_add] at hlow
    calc 2 ^ 52 * (den * 2 ^ exponent) = 2 ^ 52 * 2 ^ exponent * den := by ring
      _ ≤ n := hlow

/-- The significand that a quotient is rounded to. -/
def roundedSignificand (num den : Nat) : Nat :=
  divRound (num * unit) (den * 2 ^ roundingExponent num den)

theorem roundedRank_eq (num den : Nat) : roundedRank num den
    = roundingExponent num den * 2 ^ 52 + roundedSignificand num den := rfl

/-- The rounded significand is one of the binade, or the first one of the next. -/
theorem roundedSignificand_bounds (num : Nat) {den : Nat} (hden : 0 < den) :
    roundedSignificand num den ≤ 2 ^ 53
      ∧ (roundingExponent num den = 0 ∨ 2 ^ 52 ≤ roundedSignificand num den) := by
  obtain ⟨hhigh, hlow⟩ := roundingExponent_spec num hden
  have hpos : 0 < den * 2 ^ roundingExponent num den := Nat.mul_pos hden (Nat.two_pow_pos _)
  have hround := divRound_spec (num * unit) hpos
  unfold roundedSignificand
  generalize roundingExponent num den = exponent at *
  generalize divRound (num * unit) (den * 2 ^ exponent) = s at *
  -- A significand out of its bounds is a whole step away from the quotient.
  constructor
  · by_contra hgt
    have := Nat.mul_le_mul_right (den * 2 ^ exponent) (show 2 ^ 53 + 1 ≤ s by omega)
    rw [Nat.add_mul] at this
    omega
  · refine hlow.imp_right fun hlow => ?_
    by_contra hlt
    have := Nat.mul_le_mul_right (den * 2 ^ exponent) (show s + 1 ≤ 2 ^ 52 by omega)
    rw [Nat.add_mul] at this
    omega

theorem magnitude_roundedRank (num : Nat) {den : Nat} (hden : 0 < den) :
    magnitude (roundedRank num den)
      = roundedSignificand num den * 2 ^ roundingExponent num den := by
  obtain ⟨hle, hnormal⟩ := roundedSignificand_bounds num hden
  rw [roundedRank_eq, magnitude_parts hle hnormal]

/-- A quotient lies in the interval of the rank that it is rounded to. -/
theorem rounds_roundedRank (num : Nat) {den : Nat} (hden : 0 < den) :
    Rounds (roundedRank num den) num den := by
  obtain ⟨hle, hnormal⟩ := roundedSignificand_bounds num hden
  have hlow := (roundingExponent_spec num hden).2
  have hpos : 0 < den * 2 ^ roundingExponent num den := Nat.mul_pos hden (Nat.two_pow_pos _)
  have hround := divRound_spec (num * unit) hpos
  rw [show divRound (num * unit) (den * 2 ^ roundingExponent num den)
    = roundedSignificand num den from rfl] at hround
  rw [roundedRank_eq]
  generalize roundedSignificand num den = s at *
  generalize roundingExponent num den = exponent at *
  have hparity : (exponent * 2 ^ 52 + s) % 2 = s % 2 := by omega
  have hmagnitude : magnitude (exponent * 2 ^ 52 + s) * den = s * (den * 2 ^ exponent) := by
    rw [magnitude_parts hle hnormal]
    ring
  have habove : s * (den * 2 ^ exponent) + den * 2 ^ exponent
      ≤ magnitude (exponent * 2 ^ 52 + s + 1) * den := by
    have hscale : exponent ≤ scale (exponent * 2 ^ 52 + s) := by
      rw [scale_eq]
      omega
    have hstep := Nat.mul_le_mul_right den (Nat.pow_le_pow_right Nat.two_pos hscale)
    rw [magnitude_succ, Nat.add_mul, hmagnitude, Nat.mul_comm den]
    omega
  have hbelow : magnitude (exponent * 2 ^ 52 + s - 1) * den ≤ s * (den * 2 ^ exponent) := by
    rw [← hmagnitude]
    exact Nat.mul_le_mul_right den (magnitude_strictMono.monotone (Nat.sub_le _ _))
  unfold Rounds
  rw [Nat.add_mul, Nat.add_mul, hmagnitude, hparity]
  by_cases hfirst : s = 0 ∨ (s = 2 ^ 52 ∧ exponent ≠ 0)
  -- No number of the binade lies below the first significand, which is even.
  · obtain rfl | ⟨rfl, hne⟩ := hfirst
    · omega
    · have := hlow.resolve_left hne
      omega
  -- The rank below has the significand below.
  · have hprevious : magnitude (exponent * 2 ^ 52 + s - 1) * den + den * 2 ^ exponent
        = s * (den * 2 ^ exponent) := by
      obtain ⟨r, rfl⟩ : ∃ r, s = r + 1 := ⟨s - 1, by omega⟩
      rw [← Nat.add_assoc, Nat.add_sub_cancel, magnitude_parts (by omega) (by omega)]
      ring
    omega

/-- Rounding is to the nearest, and ties go to even. -/
theorem rounds_iff (hden : 0 < den) : Rounds rank num den ↔ roundedRank num den = rank := by
  constructor
  · intro h
    exact (rounds_roundedRank num hden).unique hden h
  · rintro rfl
    exact rounds_roundedRank num hden

/-- Whether a number on a decimal grid rounds to a rank is whether it lies in its interval. -/
theorem roundsTo_iff {n : Nat} {place : Int} : roundsTo rank n place = true
    ↔ Rounds rank (n * 10 ^ place.toNat) (10 ^ (-place).toNat) := by
  have htwice : 2 * n * unit * Nat.pow 10 place.toNat = 2 * (n * 10 ^ place.toNat * unit) := by
    rw [Nat.pow_eq]
    ring
  unfold roundsTo Rounds
  dsimp only
  rw [htwice, Nat.pow_eq]
  split
  · simp only [Bool.and_eq_true, decide_eq_true_eq]
    omega
  · simp only [Bool.and_eq_true, decide_eq_true_eq]
    omega

end QueryReport.Decimal
