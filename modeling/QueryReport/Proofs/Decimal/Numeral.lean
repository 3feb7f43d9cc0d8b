import QueryReport.Decimal.Layout
import QueryReport.Decimal.Read

/-!
# `QueryReport.Proofs.Decimal.Numeral`: what a number looks like without an exponent

Natural numbers are written with their digits, the first of which is no zero (`head_toDigits`), and
read from digits alone (`natural?_eq_some`).  Integers have a sign (`sign_append_repr`), and no two of
them are written alike (`toString_injective`).
`IsNumeral s`: the text is digits, and perhaps a point with digits after it.  Natural numbers are
written so (`isNumeral_repr`), and every finite magnitude with all its places
(`isNumeral_positional`).
-/

set_option autoImplicit false

namespace QueryReport.Decimal

/-! ## Digits -/

theorem isDigit_toDigits {n : Nat} {c : Char} (hc : c ∈ Nat.toDigits 10 n) : c.isDigit = true :=
  Nat.isDigit_of_mem_toDigits (by decide) (by decide) hc

/-- The digits of a number spell it. -/
theorem digitsValue_toDigits (n : Nat) : digitsValue (Nat.toDigits 10 n) = n := by
  have hvalue := @Nat.ofDigitChars_ten_toDigits n
  rw [Nat.ofDigitChars_eq_foldl] at hvalue
  exact hvalue

/-- Natural numbers are read from digits alone. -/
theorem natural?_eq_some {cs : List Char} {n : Nat} :
    natural? cs = some n ↔ cs ≠ [] ∧ (∀ c ∈ cs, c.isDigit) ∧ digitsValue cs = n := by
  unfold natural?
  split
  · next h =>
    simp only [Bool.and_eq_true, Bool.not_eq_true', List.isEmpty_eq_false_iff,
      List.all_eq_true] at h
    simp only [Option.some.injEq]
    exact ⟨fun hn => ⟨h.1, h.2, hn⟩, fun hn => hn.2.2⟩
  · next h =>
    simp only [Bool.and_eq_true, Bool.not_eq_true', List.isEmpty_eq_false_iff,
      List.all_eq_true] at h
    exact ⟨nofun, fun hn => absurd ⟨hn.1, hn.2.1⟩ h⟩

/-- Only zero is written with a zero in front. -/
theorem head_toDigits {n : Nat} (h : n ≠ 0) : (Nat.toDigits 10 n).head? ≠ some '0' := by
  induction n using Nat.strongRecOn with
  | ind n ih =>
  by_cases hn : n < 10
  · rw [Nat.toDigits_of_lt_base hn]
    have hdigit : ∀ n < 10, n ≠ 0 → [n.digitChar].head? ≠ some '0' := by decide
    exact hdigit n hn h
  · have hfront := ih (n / 10) (by omega) (by omega)
    rw [Nat.toDigits_of_base_le (by decide) (Nat.le_of_not_lt hn), List.head?_append]
    cases hdigits : Nat.toDigits 10 (n / 10) with
    | nil => exact absurd hdigits Nat.toDigits_ne_nil
    | cons c cs =>
        rw [hdigits] at hfront
        exact hfront

/-! ## Signs -/

theorem toList_ofNat (n : Nat) : (toString (Int.ofNat n)).toList = Nat.toDigits 10 n :=
  Nat.toList_repr

theorem toList_negSucc (n : Nat) :
    (toString (Int.negSucc n)).toList = '-' :: Nat.toDigits 10 (n + 1) := by
  show ("-" ++ (n + 1).repr).toList = _
  rw [String.toList_append, Nat.toList_repr]
  rfl

/-- An integer is written with its sign and its digits. -/
theorem sign_append_repr (n : Int) :
    (if n < 0 then "-" else "") ++ n.natAbs.repr = toString n := by
  cases n with
  | ofNat n =>
      rw [if_neg (by simp), String.empty_append]
      rfl
  | negSucc n =>
      rw [if_pos (Int.negSucc_lt_zero n)]
      rfl

/-- The text of an integer is digits, and perhaps a minus sign. -/
theorem mem_toString {n : Int} {c : Char} (hc : c ∈ (toString n).toList) :
    c = '-' ∨ c.isDigit = true := by
  cases n with
  | ofNat n =>
      rw [toList_ofNat] at hc
      exact .inr (isDigit_toDigits hc)
  | negSucc n =>
      rw [toList_negSucc, List.mem_cons] at hc
      exact hc.imp_right isDigit_toDigits

theorem toString_injective {n k : Int} (h : toString n = toString k) : n = k := by
  have hlist := congrArg String.toList h
  -- A minus sign is no digit, so the signs are the same.
  have hminus : ∀ a b : Nat, Nat.toDigits 10 a ≠ '-' :: Nat.toDigits 10 b := by
    intro a b heq
    have hmem : '-' ∈ Nat.toDigits 10 a := heq ▸ List.mem_cons_self
    have hdigit := isDigit_toDigits hmem
    revert hdigit
    decide
  cases n with
  | ofNat n =>
      cases k with
      | ofNat k =>
          rw [toList_ofNat, toList_ofNat] at hlist
          rw [← digitsValue_toDigits n, hlist, digitsValue_toDigits]
      | negSucc k =>
          rw [toList_ofNat, toList_negSucc] at hlist
          exact absurd hlist (hminus _ _)
  | negSucc n =>
      cases k with
      | ofNat k =>
          rw [toList_ofNat, toList_negSucc] at hlist
          exact absurd hlist.symm (hminus _ _)
      | negSucc k =>
          rw [toList_negSucc, toList_negSucc] at hlist
          have hdigits := congrArg digitsValue (List.cons.inj hlist).2
          rw [digitsValue_toDigits, digitsValue_toDigits] at hdigits
          rw [Nat.succ.inj hdigits]

/-! ## Numerals -/

/-- Digits, and perhaps a point and the digits of a fraction. -/
def IsNumeral (s : String) : Prop :=
  ∃ whole fraction : List Char, whole ≠ [] ∧ (∀ c ∈ whole, c.isDigit) ∧ (∀ c ∈ fraction, c.isDigit)
    ∧ (s.toList = whole ∨ s.toList = whole ++ '.' :: fraction)

/-- A numeral begins with a digit, which a digit or the point follows. -/
theorem IsNumeral.exists_cons {s : String} (hs : IsNumeral s) :
    ∃ c cs, s.toList = c :: cs ∧ c.isDigit ∧ ∀ d ∈ cs.head?, d.isDigit ∨ d = '.' := by
  obtain ⟨whole, fraction, hwhole, hdigits, hfraction, hs⟩ := hs
  cases whole with
  | nil => exact absurd rfl hwhole
  | cons c whole =>
      rw [List.forall_mem_cons] at hdigits
      obtain hs | hs := hs
      · refine ⟨c, whole, hs, hdigits.1, fun d hd => .inl ?_⟩
        exact hdigits.2 d (List.mem_of_mem_head? hd)
      · refine ⟨c, whole ++ '.' :: fraction, hs, hdigits.1, fun d hd => ?_⟩
        cases whole with
        | nil =>
            cases hd
            exact .inr rfl
        | cons e whole =>
            cases hd
            exact .inl (hdigits.2 d List.mem_cons_self)

theorem isNumeral_of_digits {s : String} (hs : s ≠ "") (h : ∀ c ∈ s.toList, c.isDigit) :
    IsNumeral s :=
  ⟨s.toList, [], by simpa using hs, h, nofun, .inl rfl⟩

theorem isNumeral_repr (n : Nat) : IsNumeral n.repr := by
  refine isNumeral_of_digits (fun hempty => ?_) fun c hc => ?_
  · have hlist := congrArg String.toList hempty
    rw [Nat.toList_repr] at hlist
    exact Nat.toDigits_ne_nil hlist
  · rw [Nat.toList_repr] at hc
    exact isDigit_toDigits hc

/-- Digits with all their places are a numeral, also if there are none before the point. -/
theorem Digits.isNumeral_positional {d : Digits} (h : ∀ c ∈ d.digits, c.isDigit) :
    IsNumeral (d.positional "") := by
  have hzeros : ∀ n, ∀ c ∈ List.replicate n '0', c.isDigit := fun n c hc => by
    rw [List.eq_of_mem_replicate hc]
    decide
  unfold Digits.positional
  dsimp only
  split
  -- All digits stand behind the point.
  · next hpoint =>
    refine ⟨['0'], List.replicate (-d.point).toNat '0' ++ d.digits, nofun,
      List.forall_mem_singleton.mpr rfl, ?_, .inr ?_⟩
    · exact List.forall_mem_append.mpr ⟨hzeros _, h⟩
    · rw [String.toList_ofList]
      rfl
  · next hpoint =>
    split
    -- All digits stand before the point.
    · next hlength =>
      refine ⟨d.digits ++ List.replicate (d.point - d.digits.length).toNat '0', [], ?_, ?_, nofun,
        .inl ?_⟩
      · intro hempty
        have := congrArg List.length hempty
        simp only [List.length_append, List.length_replicate, List.length_nil] at this
        omega
      · exact List.forall_mem_append.mpr ⟨h, hzeros _⟩
      · rw [String.append_empty, String.toList_ofList]
    -- The point stands among the digits.
    · next hlength =>
      refine ⟨d.digits.take d.point.toNat, d.digits.drop d.point.toNat, ?_, ?_, ?_, .inr ?_⟩
      · intro hempty
        have := congrArg List.length hempty
        simp only [List.length_take, List.length_nil] at this
        omega
      · exact fun c hc => h c (List.mem_of_mem_take hc)
      · exact fun c hc => h c (List.mem_of_mem_drop hc)
      · rw [String.toList_ofList]

theorem isDigit_of_mem_shortest {rank : Nat} {c : Char} (hc : c ∈ (shortest rank).digits) :
    c.isDigit := by
  unfold shortest at hc
  split at hc
  · rw [List.mem_singleton.mp hc]
    decide
  · have hkept := List.mem_reverse.mp hc
    have hreversed := (List.dropWhile_sublist _).subset hkept
    exact isDigit_toDigits (List.mem_reverse.mp hreversed)

/-- A finite magnitude with all its places. -/
theorem isNumeral_positional (rank : Nat) : IsNumeral ((shortest rank).positional "") :=
  Digits.isNumeral_positional fun _ => isDigit_of_mem_shortest

end QueryReport.Decimal
