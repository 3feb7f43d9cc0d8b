import Mathlib.Algebra.Group.Nat.Defs
import QueryReport.Proofs.Decimal.Numeral
import QueryReport.Report.Basic

/-!
# `QueryReport.Proofs.Sql.Paging`: the counts that paging clauses state

`LIMIT` and `OFFSET` may hold any expression, but a report takes only literal counts.

* `Decimal.Spells64` says of a text that it is the digits of a number below `2 ^ 64`;
  `nat64?_eq_some` says that `nat64?` reads exactly these.
* `MaybeExpr.States` says of a clause which count it states, if any; `statedCount_eq_ok` says that
  `statedCount` comes to exactly that.
* `states_countClause`: the clause that is made of a count states it.
-/

set_option autoImplicit false

namespace QueryReport

/-! ## Digits -/

namespace Decimal

/-- The characters are the digits of a number below `2 ^ 64`.  A plus sign may stand before them. -/
def Spells64 (cs : List Char) (n : Nat) : Prop :=
  ∃ digits, (cs = digits ∨ cs = '+' :: digits) ∧ digits ≠ [] ∧ (∀ c ∈ digits, c.isDigit)
    ∧ digitsValue digits = n ∧ n < 2 ^ 64

theorem nat64?_eq_some {cs : List Char} {n : Nat} : nat64? cs = some n ↔ Spells64 cs n := by
  -- What is left of the digits once a sign is taken off.
  have hread : ∀ digits, (do let n ← natural? digits; if fitsNat64 n then some n else none) = some n
      ↔ digits ≠ [] ∧ (∀ c ∈ digits, c.isDigit) ∧ digitsValue digits = n ∧ n < 2 ^ 64 := by
    intro digits
    simp only [fitsNat64, decide_eq_true_eq, bind, Option.bind_eq_some_iff,
      Option.ite_none_right_eq_some, natural?_eq_some, Option.some.injEq]
    constructor
    · rintro ⟨m, ⟨hne, hdigits, hvalue⟩, hm, rfl⟩
      exact ⟨hne, hdigits, hvalue, hm⟩
    · rintro ⟨hne, hdigits, hvalue, hn⟩
      exact ⟨n, ⟨hne, hdigits, hvalue⟩, hn, rfl⟩
  unfold nat64?
  split
  · next rest =>
    rw [hread]
    constructor
    · intro h
      exact ⟨rest, .inr rfl, h⟩
    · rintro ⟨digits, heq | heq, hne, hdigits, hvalue⟩
      -- A plus sign is no digit.
      · have hplus := hdigits '+' (heq ▸ List.mem_cons_self)
        exact absurd hplus (by decide)
      · cases heq
        exact ⟨hne, hdigits, hvalue⟩
  · next hplus =>
    rw [hread]
    constructor
    · intro h
      exact ⟨cs, .inl rfl, h⟩
    · rintro ⟨digits, heq | heq, hread⟩
      · rw [heq]
        exact hread
      · exact absurd heq (hplus digits)

/-- A number spells itself. -/
theorem spells64_toString {n : Nat} (h : n < 2 ^ 64) : Spells64 (toString n).toList n := by
  have hdigits : (toString n).toList = Nat.toDigits 10 n := by
    simp
  refine ⟨Nat.toDigits 10 n, .inl hdigits, Nat.toDigits_ne_nil, fun c hc => ?_,
    digitsValue_toDigits n, h⟩
  exact isDigit_toDigits hc

end Decimal

/-! ## Clauses -/

namespace Sql

/-- The clause is absent, or it is an unsigned integer literal below `2 ^ 64`. -/
inductive MaybeExpr.States : MaybeExpr → Option Nat → Prop where
  | absent : States MaybeExpr.none Option.none
  | count {text : String} {long : Bool} {n : Nat} (h : Decimal.Spells64 text.toList n) :
      States (MaybeExpr.some (.literal (.number text long))) (Option.some n)

theorem MaybeExpr.States.fits {n : Nat} {clause : MaybeExpr}
    (h : clause.States (Option.some n)) : n < 2 ^ 64 := by
  cases h with
  | count h =>
      obtain ⟨_, _, _, _, _, hfits⟩ := h
      exact hfits

theorem Expr.count?_eq_some {e : Expr} {n : Nat} :
    e.count? = some n ↔ (MaybeExpr.some e).States (some n) := by
  constructor
  · intro h
    unfold Expr.count? at h
    split at h
    · exact .count (Decimal.nat64?_eq_some.mp h)
    · cases h
  · rintro ⟨⟩
    exact Decimal.nat64?_eq_some.mpr ‹_›

theorem statedCount_eq_ok {clause : String} {e : MaybeExpr} {n : Option Nat} :
    Report.statedCount clause e = .ok n ↔ e.States n := by
  cases e with
  | none =>
      constructor
      · rintro ⟨⟩
        exact .absent
      · rintro ⟨⟩
        rfl
  | some e =>
      constructor
      · intro h
        simp only [Report.statedCount] at h
        split at h
        · next m hcount =>
            cases h
            exact Expr.count?_eq_some.mp hcount
        · cases h
      · intro h
        cases h with
        | @count _ long _ h =>
            have hcount := Expr.count?_eq_some.mpr (@MaybeExpr.States.count _ long _ h)
            simp only [Report.statedCount, hcount]

theorem Expr.ofCount_inj {n m : Nat} (h : Expr.ofCount n = Expr.ofCount m) : n = m := by
  simp only [Expr.ofCount, Expr.literal.injEq, Literal.number.injEq, and_true] at h
  have hdigits : Nat.toDigits 10 n = Nat.toDigits 10 m := by
    simpa using congrArg String.toList h
  rw [← Decimal.digitsValue_toDigits n, hdigits, Decimal.digitsValue_toDigits]

/-- A clause is made of a count exactly if the count is there and not zero. -/
theorem Query.countClause_eq_some {count : Option Nat} {n : Nat} :
    Query.countClause count = .some (.ofCount n) ↔ count = some n ∧ 0 < n := by
  cases count with
  | none => exact ⟨nofun, nofun⟩
  | some m =>
      by_cases hzero : m = 0
      · rw [Query.countClause, if_pos hzero]
        refine ⟨nofun, ?_⟩
        rintro ⟨⟨⟩, hpos⟩
        omega
      · rw [Query.countClause, if_neg hzero, MaybeExpr.some.injEq, Option.some.injEq]
        constructor
        · intro heq
          obtain rfl := Expr.ofCount_inj heq
          exact ⟨rfl, Nat.pos_of_ne_zero hzero⟩
        · rintro ⟨rfl, -⟩
          rfl

/-- There is no clause exactly if there is no count but zero. -/
theorem Query.countClause_eq_none {count : Option Nat} :
    Query.countClause count = .none ↔ ∀ n ∈ count, n = 0 := by
  cases count with
  | none => exact ⟨fun _ => nofun, fun _ => rfl⟩
  | some m =>
      by_cases hzero : m = 0
      · rw [Query.countClause, if_pos hzero]
        exact ⟨fun _ n hn => Option.some.inj hn ▸ hzero, fun _ => rfl⟩
      · rw [Query.countClause, if_neg hzero]
        exact ⟨nofun, fun h => absurd (h m rfl) hzero⟩

/-- The clause of a count states it, if the count fits.  Zero makes no clause. -/
theorem states_countClause {limit : Option Nat} (h : ∀ n ∈ limit, n < 2 ^ 64) :
    (Query.countClause limit).States (limit.filter (· ≠ 0)) := by
  cases limit with
  | none => exact .absent
  | some n =>
      by_cases hzero : n = 0
      · subst hzero
        exact .absent
      · have hn : (some n).filter (· ≠ 0) = some n := by simp [hzero]
        rw [hn]
        simp only [Query.countClause, if_neg hzero]
        exact .count (Decimal.spells64_toString (h n rfl))

end Sql

end QueryReport
