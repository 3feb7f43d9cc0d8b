import QueryReport.Filter.Condition
import QueryReport.Proofs.Sql.Lexing.Numeral
import QueryReport.Proofs.Sql.Reading.Expression

/-!
# `QueryReport.Proofs.Filter.Constant`: the literals of a condition as constants

`Condition.literal` is text.  `Condition.constant` is what the text stands for: nothing, a text, or
a number with its sign.

* `literal_eq_sql`: the literal of a value is its constant as SQL.
* `cut_constant`, `operation_constant`: a constant is cut into its tokens and read as its tree.
-/

set_option autoImplicit false

namespace QueryReport.Filter

open Sql Sql.Parser Decimal

/-- What a value is compared as: null, a text, or a number written with its sign. -/
inductive Constant where
  | null
  | text (value : String)
  | number (negative : Bool) (digits : String)
deriving DecidableEq

namespace Constant

/-- The constant as SQL. -/
def sql : Constant → String
  | null => "NULL"
  | text value => Text.quote value
  | number negative digits => (if negative then "-" else "") ++ digits

def tokens : Constant → List Token
  | null => [keywordToken "NULL"]
  | text value => [.literal (.string value)]
  | number negative digits =>
    (if negative then [.symbol "-"] else []) ++ [.literal (.number digits false)]

def tree : Constant → Expr
  | null => .literal .null
  | text value => .literal (.string value)
  | number true digits => .unary .minus (.literal (.number digits false))
  | number false digits => .literal (.number digits false)

/-- The digits of a number are digits. -/
def WellFormed : Constant → Prop
  | number _ digits => IsNumeral digits
  | _ => True

/-- A finite number with all its places. -/
def ofBinary64 : Binary64 → Constant
  | .finite negative rank => .number negative ((shortest rank).positional "")
  | _ => .null

theorem wellFormed_ofBinary64 (x : Binary64) : (ofBinary64 x).WellFormed := by
  cases x with
  | finite negative rank => exact isNumeral_positional rank
  | _ => trivial

theorem ofBinary64_sql {x : Binary64} (h : x.isFinite) :
    (ofBinary64 x).sql = Layout.plain.text x := by
  cases x with
  | finite negative rank => rfl
  | _ => cases h

/-- An integer. -/
def ofInt (n : Int) : Constant := .number (n < 0) n.natAbs.repr

theorem wellFormed_ofInt (n : Int) : (ofInt n).WellFormed := isNumeral_repr n.natAbs

theorem ofInt_sql (n : Int) : (ofInt n).sql = toString n := by
  rw [← sign_append_repr]
  simp [ofInt, sql]

/-! ## Cutting and reading -/

theorem cut_constant {c : Constant} (hc : c.WellFormed) : Cut c.sql c.tokens := by
  cases c with
  | null =>
      have hkey : Token.ofWord "NULL" = keywordToken "NULL" :=
        ofWord_eq_keywordToken "NULL" (by decide +kernel)
      show Cut "NULL" [keywordToken "NULL"]
      rw [← hkey]
      exact cut_word (by decide +kernel)
  | text value => exact cut_quote value
  | number negative digits =>
      cases negative with
      | false => exact cut_numeral hc
      | true => exact cut_negative hc

theorem operand_constant (c : Constant) (depth : Nat) {rest : List Token} (h : EndsName rest) :
    (grammar (depth + 1)).operand (c.tokens ++ rest) = .ok (c.tree, rest) := by
  have hcollate : keyOf rest.head? ≠ "COLLATE" := fun heq => absurd (heq ▸ h.word.key) (by decide)
  cases c with
  | null =>
      have hkey : Token.ofWord "NULL" = keywordToken "NULL" :=
        ofWord_eq_keywordToken "NULL" (by decide +kernel)
      show Grammar.operand _ (keywordToken "NULL" :: rest) = _
      rw [← hkey]
      exact Grammar.operand_null _ h
  | text value => exact Grammar.operand_literal _ _ hcollate
  | number negative digits =>
      cases negative with
      | false => exact Grammar.operand_literal _ _ hcollate
      | true =>
          -- The sign binds more tightly than what may follow the number.
          have hdigits : Grammar.Reads (grammar depth) Grammar.productStrength
              (.literal (.number digits false) :: rest) (.literal (.number digits false)) rest :=
            .of_operand (Grammar.operand_literal _ _ hcollate)
          refine Grammar.operand_minus _ (hdigits.operation ?_) hcollate
          exact Nat.le_trans (Grammar.strengthOf_endsWord h.word) (by decide)

/-- A constant is read as its tree, if what follows does not bind it. -/
theorem operation_constant (c : Constant) (depth : Nat) {strength : Nat} {rest : List Token}
    (h : EndsName rest) (hrest : Grammar.strengthOf rest ≤ strength) :
    (grammar (depth + 2)).operation strength (c.tokens ++ rest) = .ok (c.tree, rest) :=
  (Grammar.Reads.of_operand (operand_constant c depth h)).operation hrest

end Constant

namespace Condition

/-- A value that is neither null nor a boolean, as a constant of a type. -/
def typedConstant (type : DataType) (v : Value) : Constant :=
  match type with
  | .integer =>
    match v.toInt? with
    | some n => .ofInt n
    | none => .text v.display
  | .number =>
    match v.toNumber? with
    | some x => .ofBinary64 x
    | none => .text v.display
  | _ => .text v.display

/-- The constant that one of the condition's values is compared as. -/
def constant (c : Condition) (v : Value) : Constant :=
  if c.operator.isNullTest then .null
  else match v with
    | .bool true => .text "t"
    | .bool false => .text "f"
    | .null => .null
    | v =>
      if c.operator.isPattern then .text (pattern c.operator v.display)
      else typedConstant c.dataType v

theorem isFinite_of_toNumber? {v : Value} {x : Binary64} (h : v.toNumber? = some x) :
    x.isFinite := by
  have hfinite : ∀ y, Value.toNumber?.finite? y = some x → x.isFinite := by
    intro y hy
    unfold Value.toNumber?.finite? at hy
    split at hy
    · cases hy
      assumption
    · cases hy
  unfold Value.toNumber? at h
  split at h
  · exact hfinite _ h
  · exact hfinite _ h
  · obtain ⟨y, _, hy⟩ := Option.bind_eq_some_iff.mp h
    exact hfinite y hy
  · cases h

theorem typedLiteral_eq_sql (type : DataType) (v : Value) :
    typedLiteral type v = (typedConstant type v).sql := by
  cases type
  case integer =>
    unfold typedLiteral typedConstant
    cases v.toInt? with
    | some n => exact (Constant.ofInt_sql n).symm
    | none => rfl
  case number =>
    unfold typedLiteral typedConstant
    cases hx : v.toNumber? with
    | some x => exact (Constant.ofBinary64_sql (isFinite_of_toNumber? hx)).symm
    | none => rfl
  all_goals rfl

/-- The literal of a value is its constant as SQL. -/
theorem literal_eq_sql (c : Condition) (v : Value) : c.literal v = (c.constant v).sql := by
  -- What is neither null nor a boolean is written the same way, whatever kind of value it is.
  have hvalue : (if c.operator.isPattern then Text.quote (pattern c.operator v.display)
      else typedLiteral c.dataType v)
        = (if c.operator.isPattern then .text (pattern c.operator v.display)
          else typedConstant c.dataType v : Constant).sql := by
    split
    · rfl
    · exact typedLiteral_eq_sql c.dataType v
  unfold literal constant
  split
  · rfl
  · cases v with
    | null => rfl
    | bool b => cases b <;> rfl
    | int n => exact hvalue
    | float x => exact hvalue
    | text s => exact hvalue

theorem pattern_of_not_isPattern {op : Operator} (h : ¬ op.isPattern) (text : String) :
    pattern op text = text := by
  cases op <;> first | rfl | exact absurd rfl h

/-- With the string type a text is compared as it is, or as its pattern. -/
theorem constant_text {c : Condition} (htype : c.dataType = .string)
    (hop : c.operator.isNullTest = false) (text : String) :
    c.constant (.text text) = .text (pattern c.operator text) := by
  unfold constant typedConstant
  rw [if_neg (by simp [hop]), htype]
  by_cases hpattern : c.operator.isPattern
  · simp [hpattern, Value.display]
  · simp [hpattern, Value.display, pattern_of_not_isPattern hpattern]

theorem wellFormed_constant (c : Condition) (v : Value) : (c.constant v).WellFormed := by
  unfold constant typedConstant
  repeat' split
  all_goals first
    | trivial
    | exact Constant.wellFormed_ofInt _
    | exact Constant.wellFormed_ofBinary64 _

end Condition

end QueryReport.Filter
