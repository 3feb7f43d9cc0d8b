import Mathlib.Control.Monad.Basic
import QueryReport.Filter.Condition
import QueryReport.Proofs.Decimal.Whole
import QueryReport.Proofs.Text.Split

/-!
# `QueryReport.Proofs.Filter.IntegerLiteral`: integers in conditions of a numeric type

A condition of a numeric type takes an integer as a value or as its text (`Value.Spells`).  Both
forms are coerced alike (`toInt?_of_spells`, `toNumber?_of_spells`), but the two types go different
ways: `integer` writes the integer that it has read, `number` makes it a double and writes the
shortest digits of that.

`integer_literal` says what is written, and when it is the integer itself.
-/

set_option autoImplicit false

namespace QueryReport

open Decimal

namespace Value

/-- The value is an integer, or the text of one. -/
def Spells (v : Value) (n : Int) : Prop := v = .int n ∨ v = .text (toString n)

variable {v : Value} {n : Int}

/-- Neither a digit nor the minus sign is a blank. -/
theorem trim_toString (n : Int) : Text.trim (toString n) = toString n := by
  refine Text.trim_of_solid fun c hc => ?_
  have hrange : 45 ≤ c.toNat ∧ c.toNat ≤ 57 := by
    obtain rfl | hdigit := mem_toString hc
    · decide
    · have hrange : 48 ≤ c.toNat ∧ c.toNat ≤ 57 := Char.isDigit_iff_toNat.mp hdigit
      omega
  simp only [Text.isBlank, Bool.or_eq_false_iff, Bool.and_eq_false_iff, decide_eq_false_iff_not]
  omega

theorem toInt?_of_spells (h : v.Spells n) (hn : fitsInt64 n) : v.toInt? = some n := by
  obtain rfl | rfl := h
  · rfl
  · unfold toInt?
    dsimp only
    rw [trim_toString, int64?_toString hn]

theorem toNumber?_of_spells (h : v.Spells n) (hn : fitsInt64 n) :
    v.toNumber? = some (.ofInt n) := by
  have hfinite : toNumber?.finite? (.ofInt n) = some (.ofInt n) := by
    unfold toNumber?.finite?
    rw [ofInt_eq (natAbs_le_of_fitsInt64 hn), Binary64.isFinite, if_pos rfl]
  obtain rfl | rfl := h
  · rw [toNumber?, hfinite]
  · rw [toNumber?, trim_toString, readNumber?_toString, Option.bind_eq_bind, Option.bind_some,
      hfinite]

end Value

namespace Filter.Condition

variable {c : Condition} {v : Value} {n : Int}

theorem isOfType_of_spells {type : DataType} (htype : type.isNumeric) (hn : fitsInt64 n)
    (hv : v.Spells n) : isOfType type v := by
  have hint := Value.toInt?_of_spells hv hn
  have hnumber := Value.toNumber?_of_spells hv hn
  obtain rfl | rfl := hv
  all_goals
    cases type
    case integer => simp only [isOfType, hint, Option.isSome_some]
    case number => simp only [isOfType, hnumber, Option.isSome_some]
    all_goals cases htype

theorem literal_of_spells (hnull : c.operator.isNullTest = false)
    (hpattern : c.operator.isPattern = false) (hv : v.Spells n) :
    c.literal v = typedLiteral c.dataType v := by
  unfold literal
  rw [hnull, hpattern]
  obtain rfl | rfl := hv <;> rfl

/-- A condition of a numeric type takes every integer of 64 bits, and writes an integer with the
same double.  That is the integer itself if the type is `integer`, but with `number` only if no
other integer with this double has shorter digits, or digits as short and is nearer to it; up to
`2 ^ 53` none has. -/
theorem integer_literal (htype : c.dataType.isNumeric) (hnull : c.operator.isNullTest = false)
    (hpattern : c.operator.isPattern = false) (hn : fitsInt64 n) (hv : v.Spells n) :
    isOfType c.dataType v
      ∧ (c.literal v = toString n ↔ c.dataType = .integer ∨ IsShortest n)
      ∧ (n.natAbs ≤ 2 ^ 53 → c.literal v = toString n)
      ∧ ∃ k, c.literal v = toString k ∧ Binary64.ofInt k = Binary64.ofInt n
        ∧ (c.dataType = .number → IsShortest k) := by
  have hbound := natAbs_le_of_fitsInt64 hn
  have hliteral := literal_of_spells hnull hpattern hv
  refine ⟨isOfType_of_spells htype hn hv, ?_⟩
  cases hdata : c.dataType
  -- What was read is written.
  case integer =>
    have hexact : c.literal v = toString n := by
      rw [hliteral, hdata]
      simp only [typedLiteral, Value.toInt?_of_spells hv hn]
    exact ⟨iff_of_true hexact (.inl rfl), fun _ => hexact, n, hexact, rfl, nofun⟩
  -- What was read is rounded, and the double is written.
  case number =>
    have htext : c.literal v = Layout.plain.text (Binary64.ofInt n) := by
      rw [hliteral, hdata]
      simp only [typedLiteral, Value.toNumber?_of_spells hv hn]
    obtain ⟨k, hk, hsame, hshortest⟩ := exists_text hbound
    rw [htext]
    refine ⟨?_, fun hsmall => ?_, k, hk, hsame, fun _ => hshortest⟩
    · rw [text_eq_toString_iff hbound]
      simp
    · exact (text_eq_toString_iff hbound).mpr (isShortest_of_le hsmall)
  all_goals exact absurd (hdata ▸ htype) (by decide)

/-- An upper bound given as text, up to which all integers are written as they are. -/
theorem bound_written_exactly : ∃ c,
    Condition.make "between" [.int (-9007199254740991), .text "9007199254740992"] .number = .ok c
      ∧ c.literal (.text "9007199254740992") = "9007199254740992" := by
  have htext : toString (9007199254740992 : Int) = "9007199254740992" := by decide +kernel
  obtain ⟨-, -, hexact, -⟩ := integer_literal (n := 9007199254740992) (v := .text "9007199254740992")
    (c := ⟨.between, [.int (-9007199254740991), .text "9007199254740992"], .number⟩) rfl rfl rfl
    (by decide +kernel) (.inr (congrArg Value.text htext.symm))
  exact ⟨_, by decide +kernel, (hexact (by decide)).trans htext⟩

/-- One more than `2 ^ 53` is taken as a number in both forms, but another number is written.  As an
integer it is written itself. -/
theorem large_integer_rounded : fitsInt64 9007199254740993
    ∧ (Condition.make "=" [.int 9007199254740993] .number).map literals = .ok ["9007199254740992"]
    ∧ (Condition.make "=" [.text "9007199254740993"] .number).map literals
      = .ok ["9007199254740992"]
    ∧ (Condition.make "=" [.int 9007199254740993] .integer).map literals
      = .ok ["9007199254740993"] := by
  decide +kernel

end Filter.Condition

end QueryReport
