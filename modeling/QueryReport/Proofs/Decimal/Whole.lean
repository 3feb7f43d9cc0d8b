import QueryReport.Proofs.Decimal.Shortest
import QueryReport.Proofs.Text.Split

/-!
# `QueryReport.Proofs.Decimal.Whole`: integers that pass through a double

An integer of 64 bits may become a double and be written again, and then it need not be the same
integer: every double from `2 ^ 53` on is the nearest one of several integers.

* `text_eq_toString_iff`: an integer is written as itself exactly if it is `IsShortest`, that is, if
  no other integer with the same double has fewer significant digits, or as many and is nearer.
* `exists_text`: what is written instead is the integer with the same double that is.
* `isShortest_of_le`: up to `2 ^ 53` every integer is.
* `int64?_toString`, `readNumber?_toString`: the text of an integer is read as it, and as its double.
-/

set_option autoImplicit false

namespace QueryReport.Decimal

open Binary64

/-- How far an integer is from a finite number, in units of `2 ^ -1074`. -/
def Binary64.distance (x : Binary64) (n : Int) : Nat :=
  match x.units? with
  | some units => (n * unit - units).natAbs
  | none => 0

/-- Of the integers that are stored as the same double, this one has the fewest significant digits,
and it is the nearest of those that have as few. -/
def IsShortest (n : Int) : Prop :=
  ∀ k, ofInt k = ofInt n → k ≠ n →
    significantDigits n.natAbs < significantDigits k.natAbs
      ∨ (significantDigits n.natAbs = significantDigits k.natAbs
        ∧ (ofInt n).distance n < (ofInt n).distance k)

/-- Of two integers with the same double at most one is the shortest. -/
theorem IsShortest.unique {n k : Int} (hn : IsShortest n) (hk : IsShortest k)
    (h : ofInt k = ofInt n) : k = n := by
  by_contra hne
  have hless := hn k h hne
  have hmore := hk n h.symm (Ne.symm hne)
  rw [h] at hmore
  omega

/-! ## Integers of 64 bits -/

/-- The largest magnitude of an integer of 64 bits is far from the end of the ranks. -/
theorem roundedRank_lt {n : Nat} (h : n ≤ 2 ^ 63) : roundedRank n 1 < rankLimit := by
  have hplace : unitPlace = 1074 := by rw [unitPlace]
  -- From `2 ^ 63` on the last bit of a significand stands for `2 ^ 11`.
  have hexponent : roundingExponent n 1 ≤ unitPlace + 11 := by
    obtain hzero | hlow := (roundingExponent_spec n Nat.one_pos).2
    · omega
    · have hle : 2 ^ (52 + roundingExponent n 1) ≤ 2 ^ (63 + unitPlace) := by
        calc 2 ^ (52 + roundingExponent n 1)
            = 2 ^ 52 * (1 * 2 ^ roundingExponent n 1) := by rw [Nat.pow_add, Nat.one_mul]
          _ ≤ n * unit := hlow
          _ ≤ 2 ^ 63 * unit := Nat.mul_le_mul_right unit h
          _ = 2 ^ (63 + unitPlace) := by rw [unit_eq, Nat.pow_add]
      have := (Nat.pow_le_pow_iff_right (by decide)).mp hle
      omega
  have hsignificand := (roundedSignificand_bounds n Nat.one_pos).1
  rw [roundedRank_eq, rankLimit, Nat.pow_eq]
  omega

theorem natAbs_le_of_fitsInt64 {n : Int} (h : fitsInt64 n) : n.natAbs ≤ 2 ^ 63 := by
  have hpower : Int.pow 2 63 = 9223372036854775808 := by decide +kernel
  simp only [fitsInt64, hpower, Bool.and_eq_true, decide_eq_true_eq] at h
  omega

variable {n k : Int}

theorem ofInt_eq (h : n.natAbs ≤ 2 ^ 63) :
    ofInt n = .finite (n < 0) ⟨roundedRank n.natAbs 1, roundedRank_lt h⟩ :=
  dif_pos (roundedRank_lt h)

/-- Integers are stored as the same double if they have the same sign and lie in the same interval. -/
theorem ofInt_eq_iff (h : n.natAbs ≤ 2 ^ 63) : ofInt k = ofInt n
    ↔ (k < 0 ↔ n < 0) ∧ Rounds (roundedRank n.natAbs 1) k.natAbs 1 := by
  rw [rounds_iff Nat.one_pos, ofInt_eq h]
  unfold ofInt ofRatio ofRank
  split
  · simp
  · next hlimit =>
    constructor
    · nofun
    · rintro ⟨-, hrank⟩
      exact absurd (roundedRank_lt h) (hrank ▸ hlimit)

/-- Zero is the only integer that is stored as zero. -/
theorem magnitude_pos (h : n ≠ 0) : 0 < magnitude (roundedRank n.natAbs 1) := by
  have hround := rounds_roundedRank n.natAbs Nat.one_pos
  generalize roundedRank n.natAbs 1 = rank at *
  have hrank : 0 < rank := by
    by_contra hzero
    obtain rfl : rank = 0 := by omega
    have hfirst : magnitude (0 - 1) + magnitude 0 = 0 := rfl
    have hend : magnitude 0 + magnitude (0 + 1) = 1 := rfl
    have hunits := Nat.mul_pos (Int.natAbs_pos.mpr h) unit_pos
    have := hround.2.1
    omega
  exact Nat.lt_of_le_of_lt (Nat.zero_le _) (magnitude_strictMono hrank)

/-- The distance from a double that is a whole number is that of the magnitudes. -/
theorem distance_ofInt (h : n.natAbs ≤ 2 ^ 63) {x : Nat}
    (hx : magnitude (roundedRank n.natAbs 1) = x * unit) (hsign : k < 0 ↔ n < 0) :
    (ofInt n).distance k = ((k.natAbs : Int) - x).natAbs * unit := by
  rw [ofInt_eq h]
  unfold distance units?
  simp only [hx]
  generalize unit = one
  -- Both have the same sign, so that it can be taken out of the difference.
  by_cases hn : n < 0
  · have hk : k = -(k.natAbs : Int) := by omega
    have hdifference : k * one - -((x * one : Nat) : Int) = -((k.natAbs - x : Int) * one) := by
      rw [hk, Int.natAbs_neg, Int.natAbs_natCast]
      push_cast
      ring
    simp only [hn, decide_true, if_true]
    rw [hdifference, Int.natAbs_neg, Int.natAbs_mul, Int.natAbs_natCast]
  · have hk : k = (k.natAbs : Int) := by omega
    have hdifference : k * one - ((x * one : Nat) : Int) = (k.natAbs - x : Int) * one := by
      rw [hk, Int.natAbs_natCast]
      push_cast
      ring
    simp only [hn, decide_false, Bool.false_eq_true, if_false]
    rw [hdifference, Int.natAbs_mul, Int.natAbs_natCast]

/-! ## Writing -/

theorem isShortest_zero : IsShortest 0 := by
  intro k hk hne
  have hzero : magnitude (roundedRank 0 1) = 0 := by decide +kernel
  have hpos := magnitude_pos hne
  have hrank := (rounds_iff Nat.one_pos).mp ((ofInt_eq_iff (by decide)).mp hk).2
  rw [hrank] at hpos
  exact absurd hzero (Nat.ne_of_gt hpos)

/-- An integer that passes through a double is written as the shortest integer with that double. -/
theorem exists_text (h : n.natAbs ≤ 2 ^ 63) :
    ∃ k, Layout.plain.text (ofInt n) = toString k ∧ ofInt k = ofInt n ∧ IsShortest k := by
  by_cases hn : n = 0
  · subst hn
    exact ⟨0, by decide +kernel, rfl, isShortest_zero⟩
  · obtain ⟨x, hx⟩ := exists_whole n.natAbs
    have hpos : 0 < x := by
      have := hx ▸ magnitude_pos hn
      exact Nat.pos_of_mul_pos_right this
    obtain ⟨v, htext, hround, hshortest⟩ := exists_shortest hx hpos
    have hv : v ≠ 0 := by
      rintro rfl
      exact not_rounds_zero hx hpos hround
    obtain ⟨k, hsign, rfl⟩ : ∃ k : Int, (k < 0 ↔ n < 0) ∧ k.natAbs = v := by
      by_cases hn : n < 0
      · exact ⟨-v, by omega, by omega⟩
      · exact ⟨v, by omega, by omega⟩
    have hsame := (ofInt_eq_iff h).mpr ⟨hsign, hround⟩
    -- The search has compared magnitudes; integers with the same double have the same sign.
    refine ⟨k, ?_, hsame, fun other hother hne => ?_⟩
    · rw [ofInt_eq h, ← sign_append_repr, ← htext]
      simp [Layout.text, Layout.plain, hsign]
    · rw [hsame] at hother ⊢
      obtain ⟨hothersign, hotherround⟩ := (ofInt_eq_iff h).mp hother
      rw [distance_ofInt h hx hsign, distance_ofInt h hx hothersign,
        Nat.mul_lt_mul_right unit_pos]
      exact hshortest other.natAbs hotherround (by omega)

/-- An integer that passes through a double is written as itself exactly if it is the shortest. -/
theorem text_eq_toString_iff (h : n.natAbs ≤ 2 ^ 63) :
    Layout.plain.text (ofInt n) = toString n ↔ IsShortest n := by
  obtain ⟨k, htext, hsame, hk⟩ := exists_text h
  constructor
  · intro hn
    rwa [← toString_injective (htext.symm.trans hn)]
  · intro hn
    rw [htext, hn.unique hk hsame]

/-! ## Small integers -/

/-- Of the numbers up to `2 ^ 53` only the last has its double in common with another. -/
theorem eq_of_rounds {a b : Nat} (ha : a ≤ 2 ^ 53) (h : Rounds (roundedRank a 1) b 1)
    (hne : b ≠ a) : a = 2 ^ 53 ∧ b = 2 ^ 53 + 1 := by
  have hbound : magnitude (roundedRank (2 ^ 53) 1) = 2 ^ 53 * unit := by
    simpa using @magnitude_exact 1 (by decide) 53
  have hbeyond : magnitude (roundedRank (2 ^ 53 + 2) 1) = (2 ^ 53 + 2) * unit := by
    have hexact := @magnitude_exact (2 ^ 52 + 1) (by decide) 1
    rwa [show (2 ^ 52 + 1) * 2 ^ 1 = 2 ^ 53 + 2 by decide] at hexact
  have hsmall : ∀ {m}, m ≤ 2 ^ 53 → magnitude (roundedRank m 1) = m * unit := by
    intro m hm
    obtain hlt | rfl := Nat.lt_or_eq_of_le hm
    · simpa using magnitude_exact hlt 0
    · exact hbound
  -- Two numbers that are both stored as they are have two doubles.
  have hstored : ∀ {m}, magnitude (roundedRank m 1) = m * unit →
      Rounds (roundedRank a 1) m 1 → m = a := by
    intro m hm hround
    rw [(rounds_iff Nat.one_pos).mp hround, hsmall ha] at hm
    exact (Nat.eq_of_mul_eq_mul_right unit_pos hm).symm
  have hself := rounds_self (hsmall ha)
  have hlarge : 2 ^ 53 < b := by
    by_contra hle
    exact hne (hstored (hsmall (Nat.le_of_not_lt hle)) h)
  have hlast := hstored hbound (hself.between h ha (Nat.le_of_lt hlarge))
  refine ⟨hlast.symm, ?_⟩
  by_contra hfar
  have := hstored hbeyond (hself.between h (by omega) (by omega))
  omega

theorem isShortest_of_le (h : n.natAbs ≤ 2 ^ 53) : IsShortest n := by
  intro k hk hne
  have hfits : n.natAbs ≤ 2 ^ 63 := by omega
  obtain ⟨hsign, hround⟩ := (ofInt_eq_iff hfits).mp hk
  obtain ⟨hn, hk⟩ := eq_of_rounds h hround (by omega)
  have hx : magnitude (roundedRank n.natAbs 1) = 2 ^ 53 * unit := by
    rw [hn]
    simpa using @magnitude_exact 1 (by decide) 53
  -- The other number is as long, but one off, while `2 ^ 53` is its own double.
  refine .inr ⟨by rw [hn, hk]; decide +kernel, ?_⟩
  rw [distance_ofInt hfits hx Iff.rfl, distance_ofInt hfits hx hsign, hn, hk,
    Nat.mul_lt_mul_right unit_pos]
  decide

/-! ## Reading -/

theorem natural?_toDigits (m : Nat) : natural? (Nat.toDigits 10 m) = some m :=
  natural?_eq_some.mpr ⟨Nat.toDigits_ne_nil,
    fun _ hc => isDigit_toDigits hc, digitsValue_toDigits m⟩

theorem splitSign_toString (n : Int) :
    splitSign (toString n).toList = (decide (n < 0), Nat.toDigits 10 n.natAbs) := by
  cases n with
  | ofNat n =>
      rw [toList_ofNat]
      have hsign : ∀ sign more, Nat.toDigits 10 n = sign :: more → sign.isDigit := by
        intro sign more heq
        exact isDigit_toDigits (heq ▸ List.mem_cons_self)
      -- The first digit is no sign, so nothing is split off.
      unfold splitSign
      split
      · next heq => exact absurd (hsign _ _ heq) (by decide)
      · next heq => exact absurd (hsign _ _ heq) (by decide)
      · simp
  | negSucc n =>
      rw [toList_negSucc, decide_eq_true (Int.negSucc_lt_zero n)]
      rfl

/-- The text of an integer of 64 bits is read as it. -/
theorem int64?_toString (h : fitsInt64 n) : int64? (toString n).toList = some n := by
  have hvalue : (if n < 0 then -(n.natAbs : Int) else n.natAbs) = n := by
    split <;> omega
  unfold int64?
  rw [splitSign_toString]
  simp only [natural?_toDigits, Option.bind_eq_bind, Option.bind_some, decide_eq_true_eq, hvalue, h,
    if_true]

theorem toLower_of_isDigit {c : Char} (h : c.isDigit) : c.toLower = c := by
  have hdigit : 48 ≤ c.toNat ∧ c.toNat ≤ 57 := Char.isDigit_iff_toNat.mp h
  unfold Char.toLower
  refine dif_neg fun hupper => ?_
  have hletter : 65 ≤ c.toNat := hupper.1
  omega

theorem scaled_zero (negative : Bool) (m : Nat) : scaled negative m 0 = ofRatio negative m 1 := by
  have hzero : roundedRank 0 1 = 0 := by decide +kernel
  unfold scaled
  by_cases hm : m = 0
  · rw [if_pos hm, hm, ofRatio, hzero]
  · rw [if_neg hm]
    simp

/-- Digits are read as the double nearest to the number that they spell. -/
theorem magnitude?_toDigits (negative : Bool) (m : Nat) :
    magnitude? negative (Nat.toDigits 10 m) = some (ofRatio negative m 1) := by
  have hdigits : ∀ c ∈ Nat.toDigits 10 m, c.isDigit :=
    fun _ hc => isDigit_toDigits hc
  have hwhole : (Nat.toDigits 10 m).takeWhile Char.isDigit = Nat.toDigits 10 m := by
    simpa using @Text.takeWhile_run _ _ _ [] hdigits nofun
  have hrest : (Nat.toDigits 10 m).dropWhile Char.isDigit = [] := by
    simpa using @Text.dropWhile_run _ _ _ [] hdigits nofun
  have hlower : (Nat.toDigits 10 m).map Char.toLower = Nat.toDigits 10 m := by
    rw [List.map_congr_left fun c hc => toLower_of_isDigit (hdigits c hc), List.map_id']
  have hname : ∀ name, String.ofList (Nat.toDigits 10 m) = name →
      ∀ c ∈ name.toList, c.isDigit := by
    rintro _ rfl
    rwa [String.toList_ofList]
  unfold magnitude?
  rw [hlower]
  -- The names of the values that are not finite are no digits.
  split
  · next heq => exact absurd (hname _ heq 'i' (by decide)) (by decide)
  · next heq => exact absurd (hname _ heq 'i' (by decide)) (by decide)
  · next heq => exact absurd (hname _ heq 'n' (by decide)) (by decide)
  · simp only [hwhole, hrest, List.append_nil, List.isEmpty_eq_false_iff.mpr Nat.toDigits_ne_nil,
      Bool.false_and, Bool.false_eq_true, if_false, exponent?, Option.map_some,
      digitsValue_toDigits, List.length_nil]
    exact congrArg some (scaled_zero negative m)

/-- The text of an integer is read as the double nearest to it. -/
theorem readNumber?_toString (n : Int) : readNumber? (toString n).toList = some (ofInt n) := by
  unfold readNumber?
  rw [splitSign_toString]
  exact magnitude?_toDigits (n < 0) n.natAbs

end QueryReport.Decimal
