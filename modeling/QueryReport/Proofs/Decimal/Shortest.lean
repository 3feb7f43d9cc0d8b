import Mathlib.Data.List.TakeWhile
import Mathlib.Tactic.Ring
import QueryReport.Decimal.Layout
import QueryReport.Proofs.Decimal.Numeral
import QueryReport.Proofs.Decimal.Rounding

/-!
# `QueryReport.Proofs.Decimal.Shortest`: the shortest digits of a whole number

A whole number is stored as the nearest double, which is a whole number as well (`exists_whole`) but
perhaps another one.  Its shortest digits spell a third: of all numbers that are stored as this
double the one with the fewest significant digits, and of those the nearest.

* `significantDigits_le_iff`: a number has at most `s` significant digits if it is a multiple of a
  power of ten by a factor of at most `s` digits.
* `gridNeighbour?_eq_none`, `gridNeighbour?_eq_some`: on one decimal grid the search finds the
  nearest number that rounds to the rank, if there is one.
* `exists_shortestFrom`: the coarsest grid with such a number is found.
* `exists_shortest` is the result.
-/

set_option autoImplicit false

namespace QueryReport.Decimal

open Binary64

/-! ## Significant digits -/

/-- How many digits a number has up to the last one that is not zero. -/
def significantDigits (n : Nat) : Nat :=
  ((Nat.toDigits 10 n).reverse.dropWhile (· = '0')).length

/-- Ten times a number has a zero more. -/
theorem toDigits_mul_pow {m : Nat} (hm : 0 < m) (places : Nat) :
    Nat.toDigits 10 (m * 10 ^ places) = Nat.toDigits 10 m ++ List.replicate places '0' := by
  induction places with
  | zero => simp
  | succ places ih =>
      have hpos : 0 < m * 10 ^ places := Nat.mul_pos hm (Nat.pow_pos (by decide))
      have hstep : m * 10 ^ (places + 1) = m * 10 ^ places * 10 := by ring
      rw [hstep, Nat.toDigits_of_base_le (by decide) (by omega), Nat.mul_div_cancel _ (by decide),
        Nat.mul_mod_left, ih, List.replicate_succ', List.append_assoc]
      rfl

/-- Digits are those up to the last one that is not zero, and zeros. -/
theorem kept_append_zeros (digits : List Char) :
    (digits.reverse.dropWhile (· = '0')).reverse
      ++ List.replicate (digits.length - (digits.reverse.dropWhile (· = '0')).length) '0'
      = digits := by
  have hsplit := List.takeWhile_append_dropWhile (p := fun c => decide (c = '0'))
    (l := digits.reverse)
  have hzeros : digits.reverse.takeWhile (· = '0')
      = List.replicate (digits.reverse.takeWhile (· = '0')).length '0' := by
    refine List.eq_replicate_iff.mpr ⟨rfl, fun c hc => ?_⟩
    simpa using List.mem_takeWhile_imp hc
  have hlength := congrArg List.length hsplit
  rw [List.length_append, List.length_reverse] at hlength
  rw [show digits.length - (digits.reverse.dropWhile (· = '0')).length
    = (digits.reverse.takeWhile (· = '0')).length by omega]
  have hreverse := congrArg List.reverse hsplit
  rw [List.reverse_append, List.reverse_reverse, hzeros, List.reverse_replicate] at hreverse
  exact hreverse

/-- Digits are a number of at most as many places. -/
theorem ofDigitChars_lt {digits : List Char} (h : ∀ c ∈ digits, c.isDigit) :
    Nat.ofDigitChars 10 digits 0 < 10 ^ digits.length := by
  induction digits with
  | nil => decide
  | cons c digits ih =>
      rw [List.forall_mem_cons] at h
      have hdigit : c.toNat - '0'.toNat ≤ 9 := by
        have hrange : 48 ≤ c.toNat ∧ c.toNat ≤ 57 := Char.isDigit_iff_toNat.mp h.1
        show c.toNat - 48 ≤ 9
        omega
      have hfirst := Nat.mul_le_mul_left (10 ^ digits.length) hdigit
      have hrest := ih h.2
      rw [Nat.ofDigitChars_cons, Nat.mul_zero, Nat.zero_add,
        Nat.ofDigitChars_eq_ofDigitChars_zero, List.length_cons, Nat.pow_succ]
      omega

/-- A number has few significant digits if a factor of few digits and a power of ten make it up. -/
theorem significantDigits_le_iff {n s : Nat} : significantDigits n ≤ s
    ↔ ∃ factor places, n = factor * 10 ^ places ∧ factor < 10 ^ s := by
  constructor
  · intro h
    have hdigits : ∀ c ∈ ((Nat.toDigits 10 n).reverse.dropWhile (· = '0')).reverse, c.isDigit := by
      intro c hc
      have hmem := (List.dropWhile_sublist _).subset (List.mem_reverse.mp hc)
      exact isDigit_toDigits (List.mem_reverse.mp hmem)
    -- Without its zeros at the end the number is the factor, and they are the power of ten.
    have hvalue := congrArg (fun digits => Nat.ofDigitChars 10 digits 0)
      (kept_append_zeros (Nat.toDigits 10 n))
    simp only [Nat.ofDigitChars_append, Nat.ofDigitChars_replicate_zero,
      Nat.ofDigitChars_ten_toDigits] at hvalue
    refine ⟨_, _, hvalue.symm.trans (Nat.mul_comm _ _), ?_⟩
    refine Nat.lt_of_lt_of_le (ofDigitChars_lt hdigits) (Nat.pow_le_pow_right (by decide) ?_)
    rw [List.length_reverse]
    exact h
  · rintro ⟨factor, places, rfl, hlt⟩
    obtain rfl | hpos := Nat.eq_zero_or_pos factor
    · rw [Nat.zero_mul]
      exact Nat.zero_le s
    · have hs : 0 < s := by
        by_contra hzero
        obtain rfl : s = 0 := by omega
        omega
      -- Zeros that the factor ends with are dropped as well, so no more than its digits are left.
      have hlength := (Nat.length_toDigits_le_iff (by decide) hs).mpr hlt
      unfold significantDigits
      rw [toDigits_mul_pow hpos, List.reverse_append, List.reverse_replicate,
        List.dropWhile_append_of_pos (by simp)]
      refine Nat.le_trans (List.dropWhile_sublist _).length_le ?_
      rw [List.length_reverse]
      exact hlength

/-! ## Whole numbers -/

/-- A whole number is stored as it is if the zeros at its end make up for the bits that the
significand has not. -/
theorem magnitude_of_exponent_le {s zeros : Nat}
    (h : roundingExponent (s * 2 ^ zeros) 1 ≤ zeros + unitPlace) :
    magnitude (roundedRank (s * 2 ^ zeros) 1) = s * 2 ^ zeros * unit := by
  have hunit : s * 2 ^ zeros * unit
      = s * 2 ^ (zeros + unitPlace - roundingExponent (s * 2 ^ zeros) 1)
        * (1 * 2 ^ roundingExponent (s * 2 ^ zeros) 1) := by
    rw [Nat.one_mul, Nat.mul_assoc, Nat.mul_assoc, ← Nat.pow_add, Nat.sub_add_cancel h, unit_eq,
      ← Nat.pow_add]
  have hpos : 0 < 1 * 2 ^ roundingExponent (s * 2 ^ zeros) 1 :=
    Nat.mul_pos Nat.one_pos (Nat.two_pow_pos _)
  rw [magnitude_roundedRank _ Nat.one_pos, roundedSignificand, hunit, divRound_mul _ hpos,
    Nat.one_mul]

/-- A whole number is stored as a whole number. -/
theorem exists_whole (n : Nat) : ∃ x, magnitude (roundedRank n 1) = x * unit := by
  by_cases h : roundingExponent n 1 ≤ unitPlace
  · have hexact := @magnitude_of_exponent_le n 0 (by simpa using h)
    rw [Nat.pow_zero, Nat.mul_one] at hexact
    exact ⟨n, hexact⟩
  · refine ⟨roundedSignificand n 1 * 2 ^ (roundingExponent n 1 - unitPlace), ?_⟩
    rw [magnitude_roundedRank n Nat.one_pos, Nat.mul_assoc, unit_eq, ← Nat.pow_add,
      Nat.sub_add_cancel (Nat.le_of_not_le h)]

/-- Whole numbers of 53 bits, with any zeros behind them, are stored as they are. -/
theorem magnitude_exact {s : Nat} (hs : s < 2 ^ 53) (zeros : Nat) :
    magnitude (roundedRank (s * 2 ^ zeros) 1) = s * 2 ^ zeros * unit := by
  refine magnitude_of_exponent_le ?_
  by_contra hgt
  obtain hzero | hlow := (roundingExponent_spec (s * 2 ^ zeros) Nat.one_pos).2
  · omega
  · have hpow : 2 ^ (zeros + unitPlace + 1) ≤ 2 ^ roundingExponent (s * 2 ^ zeros) 1 :=
      Nat.pow_le_pow_right Nat.two_pos (by omega)
    have hbits := Nat.mul_lt_mul_of_pos_right hs (Nat.two_pow_pos (zeros + unitPlace))
    rw [unit_eq, Nat.mul_assoc, ← Nat.pow_add] at hlow
    rw [Nat.pow_succ] at hpow
    omega

section Grid

variable {rank x : Nat}

/-- A magnitude lies in its own interval. -/
theorem rounds_self (hx : magnitude rank = x * unit) : Rounds rank x 1 := by
  have hbelow : magnitude (rank - 1) ≤ magnitude rank :=
    magnitude_strictMono.monotone (Nat.sub_le rank 1)
  have habove : magnitude rank < magnitude (rank + 1) := magnitude_strictMono (Nat.lt_succ_self _)
  have hodd : rank % 2 = 1 → magnitude (rank - 1) < magnitude rank :=
    fun h => magnitude_strictMono (by omega)
  unfold Rounds
  omega

/-- The first magnitude above zero is a unit, so zero rounds to no other rank than its own. -/
theorem not_rounds_zero (hx : magnitude rank = x * unit) (hpos : 0 < x) : ¬ Rounds rank 0 1 := by
  have := Nat.mul_pos hpos unit_pos
  unfold Rounds
  omega

theorem rank_ne_zero (hx : magnitude rank = x * unit) (hpos : 0 < x) : rank ≠ 0 := by
  rintro rfl
  have hzero : magnitude 0 = 0 := rfl
  have := Nat.mul_pos hpos unit_pos
  omega

/-- What is nearer than half of the way to the rank below rounds to the rank. -/
theorem rounds_of_near (hx : magnitude rank = x * unit) (hpos : 0 < x) {v distance step : Nat}
    (hv : v = x + distance ∨ x = v + distance) (hhalf : 2 * distance ≤ step)
    (hstep : step * unit < 2 ^ scale (rank - 1)) : Rounds rank v 1 := by
  have hprevious := magnitude_succ (rank - 1)
  rw [Nat.sub_add_cancel (Nat.pos_of_ne_zero (rank_ne_zero hx hpos))] at hprevious
  have hnext := magnitude_succ rank
  have hscale := Nat.pow_le_pow_right Nat.two_pos (scale_mono (Nat.sub_le rank 1))
  have hle := Nat.mul_le_mul_right unit hhalf
  have hunits : v * unit = x * unit + distance * unit ∨ x * unit = v * unit + distance * unit := by
    obtain rfl | rfl := hv
    · exact .inl (Nat.add_mul _ _ _)
    · exact .inr (Nat.add_mul _ _ _)
  rw [Nat.mul_assoc] at hle
  unfold Rounds
  omega

/-- A whole number that is stored lies on no midpoint of a grid whose steps round to it. -/
theorem not_midpoint (hx : magnitude rank = x * unit) {places factor : Nat}
    (hround : Rounds rank ((factor + 1) * 10 ^ places) 1) {rest : Nat}
    (hsplit : x = factor * 10 ^ places + rest) : 2 * rest ≠ 10 ^ places := by
  intro htie
  -- Half a step is at most half a unit of the binade.
  have hunit : 10 ^ places * unit ≤ 2 ^ scale rank := by
    have hend := hround.2.1
    have hleft : (factor + 1) * 10 ^ places = x + rest := by
      rw [Nat.add_mul]
      omega
    rw [hleft, Nat.mul_one, magnitude_succ, hx] at hend
    rw [← htie]
    have hdistribute : (x + rest) * unit = x * unit + rest * unit := Nat.add_mul x rest unit
    have hdouble : 2 * rest * unit = 2 * (rest * unit) := Nat.mul_assoc 2 rest unit
    omega
  -- So the number is a multiple of as many twos as a step has, and so would half a step be.
  have hscale : places + unitPlace ≤ scale rank := by
    have htwo : 2 ^ places ≤ 10 ^ places := Nat.pow_le_pow_left (by decide) places
    have hle := Nat.le_trans (Nat.mul_le_mul_right unit htwo) hunit
    rw [unit_eq, ← Nat.pow_add] at hle
    exact (Nat.pow_le_pow_iff_right (by decide)).mp hle
  have hnumber : 2 ^ places ∣ x := by
    have hdvd : 2 ^ (places + unitPlace) ∣ x * 2 ^ unitPlace := by
      rw [← unit_eq, ← hx, magnitude_eq]
      exact Nat.dvd_mul_left_of_dvd (Nat.pow_dvd_pow 2 hscale) _
    rw [Nat.pow_add] at hdvd
    exact Nat.dvd_of_mul_dvd_mul_right (Nat.two_pow_pos _) hdvd
  have hten : 10 ^ places = 2 ^ places * 5 ^ places := Nat.mul_pow 2 5 places
  have hrest : 2 ^ places ∣ rest := by
    have hfactor : 2 ^ places ∣ factor * 10 ^ places :=
      Nat.dvd_mul_left_of_dvd (hten ▸ Nat.dvd_mul_right _ _) _
    rw [hsplit] at hnumber
    exact (Nat.dvd_add_right hfactor).mp hnumber
  obtain ⟨half, rfl⟩ := hrest
  have hfive : 2 * half = 5 ^ places := by
    refine Nat.eq_of_mul_eq_mul_left (Nat.two_pow_pos places) ?_
    rw [← hten, ← htie]
    ring
  have hodd : 5 ^ places % 2 = 1 := by
    rw [Nat.pow_mod]
    simp
  omega

/-! ## One grid -/

theorem roundsTo_grid {factor places : Nat} :
    roundsTo rank factor places = true ↔ Rounds rank (factor * 10 ^ places) 1 := by
  rw [roundsTo_iff, Int.toNat_natCast, Int.toNat_neg_natCast, Nat.pow_zero]

/-- The search on a grid tries the points of the grid on both sides of the number.  If both round to
the rank, the nearer one is found. -/
theorem gridNeighbour?_cases (hx : magnitude rank = x * unit) (places : Nat) :
    (gridNeighbour? rank places = none ∧ ¬ Rounds rank (x / 10 ^ places * 10 ^ places) 1
        ∧ ¬ Rounds rank ((x / 10 ^ places + 1) * 10 ^ places) 1)
      ∨ (gridNeighbour? rank places = some (x / 10 ^ places)
        ∧ Rounds rank (x / 10 ^ places * 10 ^ places) 1
        ∧ (Rounds rank ((x / 10 ^ places + 1) * 10 ^ places) 1 →
          2 * (x % 10 ^ places) ≤ 10 ^ places))
      ∨ (gridNeighbour? rank places = some (x / 10 ^ places + 1)
        ∧ Rounds rank ((x / 10 ^ places + 1) * 10 ^ places) 1
        ∧ (Rounds rank (x / 10 ^ places * 10 ^ places) 1 →
          10 ^ places < 2 * (x % 10 ^ places))) := by
  have hquotient : x * unit * 10 ^ 0 / (unit * 10 ^ places) = x / 10 ^ places := by
    rw [Nat.pow_zero, Nat.mul_one, Nat.mul_comm x, Nat.mul_div_mul_left _ _ unit_pos]
  have hrest : x * unit * 10 ^ 0 % (unit * 10 ^ places) = unit * (x % 10 ^ places) := by
    rw [Nat.pow_zero, Nat.mul_one, Nat.mul_comm x, Nat.mul_mod_mul_left]
  have hhalf : 2 * (unit * (x % 10 ^ places)) ≤ unit * 10 ^ places
      ↔ 2 * (x % 10 ^ places) ≤ 10 ^ places := by
    rw [Nat.mul_left_comm, Nat.mul_le_mul_left_iff unit_pos]
  -- The search divides by a power of ten in units of the magnitude, and the unit cancels.
  unfold gridNeighbour?
  simp only [Nat.pow_eq, Int.toNat_natCast, Int.toNat_neg_natCast, hx, hquotient, hrest, hhalf,
    ← roundsTo_grid]
  -- One case for each of the two points that rounds or does not.
  cases roundsTo rank (x / 10 ^ places) places with
  | false => cases roundsTo rank (x / 10 ^ places + 1) places <;> simp
  | true =>
      cases roundsTo rank (x / 10 ^ places + 1) places with
      | false => simp
      | true =>
          by_cases hnear : 2 * (x % 10 ^ places) ≤ 10 ^ places
          · simp [hnear]
          · simp only [if_neg hnear]
            simp
            omega

/-- If a point of a grid rounds to the rank, the one next to the number on its side does. -/
theorem rounds_neighbour (hx : magnitude rank = x * unit) {places factor : Nat}
    (h : Rounds rank (factor * 10 ^ places) 1) :
    (factor ≤ x / 10 ^ places ∧ Rounds rank (x / 10 ^ places * 10 ^ places) 1)
      ∨ (x / 10 ^ places < factor ∧ Rounds rank ((x / 10 ^ places + 1) * 10 ^ places) 1) := by
  have hdivide := Nat.div_add_mod x (10 ^ places)
  have hrest := Nat.mod_lt x (Nat.pow_pos (n := places) (show 0 < 10 by decide))
  rw [Nat.mul_comm] at hdivide
  by_cases hside : factor ≤ x / 10 ^ places
  · have hle := Nat.mul_le_mul_right (10 ^ places) hside
    exact .inl ⟨hside, h.between (rounds_self hx) hle (by omega)⟩
  · have hle := Nat.mul_le_mul_right (10 ^ places) (show x / 10 ^ places + 1 ≤ factor by omega)
    have hup : x ≤ (x / 10 ^ places + 1) * 10 ^ places := by
      rw [Nat.add_mul]
      omega
    exact .inr ⟨by omega, (rounds_self hx).between h hup hle⟩

/-- The search on a grid fails only if nothing on it rounds to the rank. -/
theorem gridNeighbour?_eq_none (hx : magnitude rank = x * unit) {places : Nat}
    (h : gridNeighbour? rank places = none) (factor : Nat) :
    ¬ Rounds rank (factor * 10 ^ places) 1 := by
  intro hround
  obtain ⟨-, hbelow, habove⟩ | ⟨hsome, -⟩ | ⟨hsome, -⟩ := gridNeighbour?_cases hx places
  · obtain ⟨-, hround⟩ | ⟨-, hround⟩ := rounds_neighbour hx hround
    · exact hbelow hround
    · exact habove hround
  · simp [h] at hsome
  · simp [h] at hsome

/-- The search on a grid finds the nearest point of the grid. -/
theorem gridNeighbour?_eq_some (hx : magnitude rank = x * unit) {places factor : Nat}
    (h : gridNeighbour? rank places = some factor) : Rounds rank (factor * 10 ^ places) 1
      ∧ factor ≤ x / 10 ^ places + 1
      ∧ ∀ other, Rounds rank (other * 10 ^ places) 1 → other ≠ factor →
        (((factor * 10 ^ places : Nat) : Int) - x).natAbs
          < (((other * 10 ^ places : Nat) : Int) - x).natAbs := by
  have hdivide := Nat.div_add_mod x (10 ^ places)
  have hrest := Nat.mod_lt x (Nat.pow_pos (n := places) (show 0 < 10 by decide))
  rw [Nat.mul_comm] at hdivide
  obtain ⟨hnone, -⟩ | ⟨hsome, hround, hnear⟩ | ⟨hsome, hround, hnear⟩ :=
    gridNeighbour?_cases hx places
  · simp [h] at hnone
  -- The point below is the nearer one.
  · obtain rfl : x / 10 ^ places = factor := by simpa [h] using hsome.symm
    refine ⟨hround, Nat.le_succ _, fun other hother hne => ?_⟩
    obtain ⟨hside, -⟩ | ⟨hside, habove⟩ := rounds_neighbour hx hother
    · have hstep := Nat.mul_le_mul_right (10 ^ places) (show other + 1 ≤ x / 10 ^ places by omega)
      rw [Nat.add_mul] at hstep
      omega
    · have hle := hnear habove
      have hne := not_midpoint hx habove hdivide.symm
      have hstep := Nat.mul_le_mul_right (10 ^ places) hside
      rw [Nat.succ_mul] at hstep
      omega
  -- The point above is.
  · obtain rfl : x / 10 ^ places + 1 = factor := by simpa [h] using hsome.symm
    refine ⟨hround, Nat.le_refl _, fun other hother hne => ?_⟩
    rw [Nat.add_mul] at *
    obtain ⟨hside, hbelow⟩ | ⟨hside, -⟩ := rounds_neighbour hx hother
    · have hlt := hnear hbelow
      have hstep := Nat.mul_le_mul_right (10 ^ places) hside
      omega
    · have hstep := Nat.mul_le_mul_right (10 ^ places) (show x / 10 ^ places + 2 ≤ other by omega)
      rw [Nat.add_mul] at hstep
      omega

/-! ## All grids -/

/-- Seventeen digits are enough: the steps of that grid are smaller than a unit of the binade. -/
theorem grid_step_lt (hx : magnitude rank = x * unit) (hpos : 0 < x) {places : Nat}
    (h : 10 ^ (places + 16) ≤ x) : 10 ^ places * unit < 2 ^ scale (rank - 1) := by
  have hbinade : x * unit ≤ 2 ^ 53 * 2 ^ scale (rank - 1) := by
    have hprevious := magnitude_succ (rank - 1)
    rw [Nat.sub_add_cancel (Nat.pos_of_ne_zero (rank_ne_zero hx hpos)), hx, magnitude_eq]
      at hprevious
    have hlt := (rank_parts (rank - 1)).2.1
    have hle := Nat.mul_le_mul_right (2 ^ scale (rank - 1)) hlt
    rw [Nat.succ_mul] at hle
    omega
  have hnumber := Nat.mul_le_mul_right unit h
  rw [Nat.pow_add, Nat.mul_right_comm] at hnumber
  have := Nat.mul_pos (Nat.pow_pos (n := places) (show 0 < 10 by decide)) unit_pos
  by_contra hge
  omega

end Grid

/-- The search goes from coarse grids to fine ones, and ends on the first on which it succeeds. -/
theorem exists_shortestFrom {rank count tries last : Nat} {first : Int} (hlast : last < tries)
    (h : gridNeighbour? rank (first - (count + last : Nat)) ≠ none) :
    ∃ c factor, count ≤ c ∧ c ≤ count + last ∧ gridNeighbour? rank (first - c) = some factor
      ∧ (∀ c' < c, count ≤ c' → gridNeighbour? rank (first - c') = none)
      ∧ shortestFrom rank first count tries = (factor, first - c) := by
  induction tries generalizing count last with
  | zero => omega
  | succ tries ih =>
      cases hfound : gridNeighbour? rank (first - count) with
      | some factor =>
          refine ⟨count, factor, Nat.le_refl _, by omega, hfound, fun c' _ _ => by omega, ?_⟩
          rw [shortestFrom, hfound]
      | none =>
          -- This grid has no number for the rank, so the search goes on with the next finer one.
          obtain rfl | hmore := Nat.eq_zero_or_pos last
          · exact absurd hfound h
          · obtain ⟨last, rfl⟩ := Nat.exists_eq_add_of_lt hmore
            have hrest : count + 1 + last = count + (0 + last + 1) := by omega
            rw [← hrest] at h
            obtain ⟨c, factor, hle, hge, hsome, hnone, hsearch⟩ := ih (by omega) h
            refine ⟨c, factor, by omega, by omega, hsome, fun c' hlt hc' => ?_, ?_⟩
            · obtain rfl | hne := Nat.eq_or_lt_of_le hc'
              · exact hfound
              · exact hnone c' hlt hne
            · rw [shortestFrom, hfound]
              exact hsearch

section Whole

variable {rank x : Nat}

/-- A whole number has as many places as digits. -/
theorem firstPlace_whole (hx : magnitude rank = x * unit) (hpos : 0 < x) :
    firstPlace rank = ((Nat.toDigits 10 x).length : Int) := by
  have hquotient : x * unit * 10 ^ measurePlaces / unit = x * 10 ^ measurePlaces := by
    rw [Nat.mul_right_comm, Nat.mul_div_cancel _ unit_pos]
  unfold firstPlace
  rw [Nat.pow_eq, hx, hquotient, toDigits_mul_pow hpos]
  simp

/-- The number of digits says between which powers of ten a number lies. -/
theorem toDigits_bounds (hpos : 0 < x) : 10 ^ ((Nat.toDigits 10 x).length - 1) ≤ x
    ∧ x < 10 ^ (Nat.toDigits 10 x).length := by
  have hlength : 0 < (Nat.toDigits 10 x).length := Nat.length_toDigits_pos
  refine ⟨?_, (Nat.length_toDigits_le_iff (by decide) hlength).mp (Nat.le_refl _)⟩
  by_contra hlt
  by_cases hone : (Nat.toDigits 10 x).length = 1
  · rw [hone] at hlt
    omega
  · have := (Nat.length_toDigits_le_iff (by decide) (by omega)).mpr (Nat.lt_of_not_le hlt)
    omega

/-- Some grid of at most seventeen digits, and no finer one than that of all digits, has a number
that rounds to the rank. -/
theorem exists_gridNeighbour (hx : magnitude rank = x * unit) (hpos : 0 < x) :
    ∃ c, 1 ≤ c ∧ c ≤ 17 ∧ c ≤ (Nat.toDigits 10 x).length
      ∧ gridNeighbour? rank ((Nat.toDigits 10 x).length - c : Nat) ≠ none := by
  obtain ⟨hlow, -⟩ := toDigits_bounds hpos
  have hlength : 0 < (Nat.toDigits 10 x).length := Nat.length_toDigits_pos
  generalize (Nat.toDigits 10 x).length = length at *
  by_cases hshort : length ≤ 17
  -- All digits are tried, and the number rounds to itself.
  · refine ⟨length, hlength, hshort, Nat.le_refl _, fun hnone => ?_⟩
    rw [Nat.sub_self] at hnone
    refine gridNeighbour?_eq_none hx hnone x ?_
    rw [Nat.pow_zero, Nat.mul_one]
    exact rounds_self hx
  -- The nearer of the points around the number is near enough.
  · refine ⟨17, by decide, Nat.le_refl _, by omega, fun hnone => ?_⟩
    have hwide : 10 ^ (length - 17 + 16) ≤ x := by
      rwa [show length - 17 + 16 = length - 1 by omega]
    have hstep := grid_step_lt hx hpos hwide
    have hdivide := Nat.div_add_mod x (10 ^ (length - 17))
    have hrest := Nat.mod_lt x (Nat.pow_pos (n := length - 17) (show 0 < 10 by decide))
    rw [Nat.mul_comm] at hdivide
    by_cases hhalf : 2 * (x % 10 ^ (length - 17)) ≤ 10 ^ (length - 17)
    · exact gridNeighbour?_eq_none hx hnone _
        (rounds_of_near hx hpos (.inr hdivide.symm) hhalf hstep)
    · have hup : (x / 10 ^ (length - 17) + 1) * 10 ^ (length - 17)
          = x + (10 ^ (length - 17) - x % 10 ^ (length - 17)) := by
        rw [Nat.add_mul]
        omega
      have hhalf : 2 * (10 ^ (length - 17) - x % 10 ^ (length - 17)) ≤ 10 ^ (length - 17) := by
        omega
      exact gridNeighbour?_eq_none hx hnone _ (rounds_of_near hx hpos (.inl hup) hhalf hstep)

/-- What the search has found is written with all its places. -/
theorem positional_shortest {factor places : Nat} (hrank : rank ≠ 0) (hpos : 0 < factor)
    (h : shortestFrom rank (firstPlace rank) 1 17 = (factor, (places : Int))) :
    (shortest rank).positional "" = (factor * 10 ^ places).repr := by
  have hlength : 0 < (Nat.toDigits 10 factor).length := Nat.length_toDigits_pos
  have hkept := kept_append_zeros (Nat.toDigits 10 factor)
  have hle : ((Nat.toDigits 10 factor).reverse.dropWhile (· = '0')).length
      ≤ (Nat.toDigits 10 factor).length := by
    refine Nat.le_trans (List.dropWhile_sublist _).length_le ?_
    rw [List.length_reverse]
  -- The zeros that the digits lost at their end are written again, with those of the grid.
  have hzeros : ((places : Int) + (Nat.toDigits 10 factor).length
      - ((Nat.toDigits 10 factor).reverse.dropWhile (· = '0')).length).toNat
      = (Nat.toDigits 10 factor).length
        - ((Nat.toDigits 10 factor).reverse.dropWhile (· = '0')).length + places := by
    omega
  unfold shortest
  rw [if_neg hrank, h]
  unfold Digits.positional
  dsimp only
  rw [List.length_reverse, if_neg (by omega), if_pos (by omega), hzeros,
    ← List.replicate_append_replicate, ← List.append_assoc, hkept, ← toDigits_mul_pow hpos,
    Nat.repr_eq_ofList_toDigits, String.append_empty]

/-- A number with few significant digits that rounds to the rank lies on a coarse grid, or beyond a
power of ten that does. -/
theorem exists_grid_of_significantDigits (hx : magnitude rank = x * unit) (hpos : 0 < x)
    {other s : Nat} (hother : Rounds rank other 1) (hs : significantDigits other ≤ s) :
    1 ≤ s ∧ ((∃ factor, other = factor * 10 ^ ((Nat.toDigits 10 x).length - s))
      ∨ (other < 10 ^ ((Nat.toDigits 10 x).length - 1)
        ∧ Rounds rank (1 * 10 ^ ((Nat.toDigits 10 x).length - 1)) 1)) := by
  obtain ⟨hlow, -⟩ := toDigits_bounds hpos
  obtain ⟨factor, places, rfl, hfactor⟩ := significantDigits_le_iff.mp hs
  generalize (Nat.toDigits 10 x).length = length at *
  have hspos : 1 ≤ s := by
    by_contra hzero
    obtain rfl : s = 0 := by omega
    obtain rfl : factor = 0 := by omega
    rw [Nat.zero_mul] at hother
    exact not_rounds_zero hx hpos hother
  refine ⟨hspos, ?_⟩
  -- With zeros enough behind its digits the number is on the grid, and with fewer it is shorter.
  by_cases hplaces : length - s ≤ places
  · refine .inl ⟨factor * 10 ^ (places - (length - s)), ?_⟩
    rw [Nat.mul_assoc, ← Nat.pow_add, Nat.sub_add_cancel hplaces]
  · have hlt : factor * 10 ^ places < 10 ^ (length - 1) := by
      calc factor * 10 ^ places < 10 ^ s * 10 ^ places :=
            Nat.mul_lt_mul_of_pos_right hfactor (Nat.pow_pos (by decide))
        _ = 10 ^ (s + places) := (Nat.pow_add 10 s places).symm
        _ ≤ 10 ^ (length - 1) := Nat.pow_le_pow_right (by decide) (by omega)
    rw [Nat.one_mul]
    exact .inr ⟨hlt, hother.between (rounds_self hx) (Nat.le_of_lt hlt) hlow⟩

/-- A neighbour of the number on a grid has as many significant digits as the grid has places, or
fewer. -/
theorem significantDigits_neighbour {c length factor : Nat} (hc : 1 ≤ c) (hle : c ≤ length)
    (hhigh : x < 10 ^ length) (hfactor : factor ≤ x / 10 ^ (length - c) + 1) :
    significantDigits (factor * 10 ^ (length - c)) ≤ c := by
  have hquotient : x / 10 ^ (length - c) < 10 ^ c := by
    rw [Nat.div_lt_iff_lt_mul (Nat.pow_pos (by decide)), ← Nat.pow_add, Nat.add_sub_cancel' hle]
    exact hhigh
  rw [significantDigits_le_iff]
  obtain hlt | rfl := Nat.lt_or_eq_of_le (show factor ≤ 10 ^ c by omega)
  · exact ⟨factor, length - c, rfl, hlt⟩
  -- One more than the nines is a power of ten.
  · exact ⟨1, c + (length - c), by rw [Nat.pow_add, Nat.one_mul],
      Nat.one_lt_pow (by omega) (by decide)⟩

/-- The search finds a number on the coarsest grid that has one for the rank. -/
theorem exists_coarsest (hx : magnitude rank = x * unit) (hpos : 0 < x) :
    ∃ c factor, 1 ≤ c ∧ c ≤ (Nat.toDigits 10 x).length
      ∧ (shortest rank).positional "" = (factor * 10 ^ ((Nat.toDigits 10 x).length - c)).repr
      ∧ gridNeighbour? rank ((Nat.toDigits 10 x).length - c : Nat) = some factor
      ∧ ∀ c' < c, 1 ≤ c' → gridNeighbour? rank ((Nat.toDigits 10 x).length - c' : Nat) = none := by
  have hfirst := firstPlace_whole hx hpos
  obtain ⟨last, hone, hlast, hle, hsome⟩ := exists_gridNeighbour hx hpos
  generalize (Nat.toDigits 10 x).length = length at *
  -- The grids that are tried are those of the places from the first digit down.
  have hplace : ∀ c ≤ last, firstPlace rank - c = ((length - c : Nat) : Int) := by
    intro c hc
    rw [hfirst]
    omega
  rw [← hplace last (Nat.le_refl _), ← Nat.add_sub_cancel' hone] at hsome
  obtain ⟨c, factor, hc, hclast, hfound, hnone, hsearch⟩ :=
    exists_shortestFrom (show last - 1 < 17 by omega) hsome
  rw [hplace c (by omega)] at hfound hsearch
  -- Zero does not round to the rank, so the digits that are found are not zero.
  have hfactor : 0 < factor := by
    by_contra hzero
    obtain rfl : factor = 0 := by omega
    have hround := (gridNeighbour?_eq_some hx hfound).1
    rw [Nat.zero_mul] at hround
    exact not_rounds_zero hx hpos hround
  refine ⟨c, factor, hc, by omega, positional_shortest (rank_ne_zero hx hpos) hfactor hsearch,
    hfound, fun c' hlt hc' => ?_⟩
  rw [← hplace c' (by omega)]
  exact hnone c' hlt hc'

/-- The shortest digits of a whole number spell the number with the fewest significant digits that
rounds to the same rank, and of those the nearest. -/
theorem exists_shortest (hx : magnitude rank = x * unit) (hpos : 0 < x) :
    ∃ v, (shortest rank).positional "" = v.repr ∧ Rounds rank v 1
      ∧ ∀ other, Rounds rank other 1 → other ≠ v → significantDigits v < significantDigits other
        ∨ (significantDigits v = significantDigits other
          ∧ ((v : Int) - x).natAbs < ((other : Int) - x).natAbs) := by
  obtain ⟨hlow, hhigh⟩ := toDigits_bounds hpos
  have hgrid {other s : Nat} := @exists_grid_of_significantDigits _ _ hx hpos other s
  obtain ⟨c, factor, hc, hle, hwritten, hfound, hnone⟩ := exists_coarsest hx hpos
  generalize (Nat.toDigits 10 x).length = length at *
  obtain ⟨hround, hfactor, hnearest⟩ := gridNeighbour?_eq_some hx hfound
  have hcoarse : ∀ c' < c, 1 ≤ c' → ∀ factor, ¬ Rounds rank (factor * 10 ^ (length - c')) 1 :=
    fun c' hlt hc' => gridNeighbour?_eq_none hx (hnone c' hlt hc')
  refine ⟨_, hwritten, hround, fun other hother hne => ?_⟩
  have hfew := significantDigits_neighbour hc hle hhigh hfactor
  -- Fewer digits than those of the grid would have been found before.
  have hmany : c ≤ significantDigits other := by
    by_contra hlt
    obtain ⟨hs, ⟨factor', heq⟩ | ⟨-, hpower⟩⟩ := hgrid hother (Nat.le_refl _)
    · rw [heq] at hother
      exact hcoarse _ (Nat.lt_of_not_le hlt) hs factor' hother
    · exact hcoarse 1 (by omega) (Nat.le_refl _) 1 hpower
  by_cases hequal : significantDigits (factor * 10 ^ (length - c)) < significantDigits other
  · exact .inl hequal
  · refine .inr ⟨by omega, ?_⟩
    obtain ⟨-, ⟨factor', rfl⟩ | ⟨hlt, hpower⟩⟩ := hgrid hother (show _ ≤ c by omega)
    · exact hnearest factor' hother fun heq => hne (by rw [heq])
    -- The power of ten between is on the grid, and nearer.
    · obtain rfl : c = 1 := by
        by_contra hmore
        exact hcoarse 1 (by omega) (Nat.le_refl _) 1 hpower
      have hpowerNearest : (((factor * 10 ^ (length - 1) : Nat) : Int) - x).natAbs
          ≤ (((1 * 10 ^ (length - 1) : Nat) : Int) - x).natAbs := by
        by_cases heq : 1 = factor
        · rw [heq]
        · exact Nat.le_of_lt (hnearest 1 hpower heq)
      omega

end Whole

end QueryReport.Decimal
