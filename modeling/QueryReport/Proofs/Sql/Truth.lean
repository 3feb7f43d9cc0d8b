import QueryReport.Sql.Shape

/-!
# `QueryReport.Proofs.Sql.Truth`: conditions in a row

A condition of SQL is true, false or, if a null was compared, neither.  `Expr.truth?` works out
conditions that compare columns with constants, where a row gives the columns their values and texts
are compared by any total order (`TextOrder`).  It has no answer for conditions of other kinds.

* `Truth.and_eq_yes`, `Truth.or_eq_yes`: what it takes for two conditions together to be true.
* `HoldsIff`: a condition can be worked out in a row, and is true there exactly if a statement is.
  The lemmas about it go from the operands to the whole condition.
-/

set_option autoImplicit false

namespace QueryReport.Sql

/-! ## Truth values -/

/-- What a condition comes to. -/
inductive Truth where
  | yes | no | unknown
deriving DecidableEq, Repr

namespace Truth

def ofBool (b : Bool) : Truth := if b then yes else no

/-- One condition that is false decides, and otherwise one that is not known. -/
def and : Truth → Truth → Truth
  | no, _ => no
  | yes, t => t
  | unknown, no => no
  | unknown, _ => unknown

/-- One condition that is true decides, and otherwise one that is not known. -/
def or : Truth → Truth → Truth
  | yes, _ => yes
  | no, t => t
  | unknown, yes => yes
  | unknown, _ => unknown

def not : Truth → Truth
  | yes => no
  | no => yes
  | unknown => unknown

variable {a b : Truth}

@[simp] theorem ofBool_eq_yes {b : Bool} : ofBool b = yes ↔ b = true := by
  cases b <;> simp [ofBool]

@[simp] theorem and_eq_yes : a.and b = yes ↔ a = yes ∧ b = yes := by
  cases a <;> cases b <;> simp [and]

@[simp] theorem or_eq_yes : a.or b = yes ↔ a = yes ∨ b = yes := by
  cases a <;> cases b <;> simp [or]

end Truth

/-! ## Comparing -/

/-- A total order of texts. -/
structure TextOrder where
  le : String → String → Bool
  antisymm : ∀ a b, le a b → le b a → a = b
  trans : ∀ a b c, le a b → le b c → le a c
  total : ∀ a b, le a b ∨ le b a

namespace TextOrder

variable (o : TextOrder) (a b : String)

def compare : Ordering := if a = b then .eq else if o.le a b then .lt else .gt

theorem le_refl : o.le a a := (o.total a a).elim id id

/-- What is not below lies above. -/
theorem le_of_not_le {a b : String} (h : ¬ o.le a b) : o.le b a := (o.total a b).resolve_left h

theorem isLE_compare : (o.compare a b).isLE ↔ o.le a b := by
  unfold compare
  by_cases heq : a = b
  · subst heq
    simp [o.le_refl]
  · by_cases hle : o.le a b <;> simp [heq, hle]

theorem isGE_compare : (o.compare a b).isGE ↔ o.le b a := by
  unfold compare
  by_cases heq : a = b
  · subst heq
    simp [o.le_refl]
  · by_cases hle : o.le a b
    · have hge : ¬ o.le b a := fun hge => heq (o.antisymm a b hle hge)
      simp [heq, hle, hge]
    · simp [heq, hle, o.le_of_not_le hle]

theorem compare_eq_eq : o.compare a b = .eq ↔ a = b := by
  unfold compare
  by_cases heq : a = b
  · simp [heq]
  · by_cases hle : o.le a b <;> simp [heq, hle]

/-- Texts in the order of their characters. -/
def characters : TextOrder where
  le a b := decide (a ≤ b)
  antisymm _ _ hab hba := String.le_antisymm (of_decide_eq_true hab) (of_decide_eq_true hba)
  trans _ _ _ hab hbc :=
    decide_eq_true (String.le_trans (of_decide_eq_true hab) (of_decide_eq_true hbc))
  total a b := (String.le_total a b).imp decide_eq_true decide_eq_true

end TextOrder

/-- What an operand is worth. -/
inductive Cell where
  | null
  | text (value : String)
  | number (value : Nat)
deriving DecidableEq

/-- A text that may be missing. -/
def Cell.ofText? : Option String → Cell
  | none => null
  | some s => text s

/-- How two operands compare in a way that can be read off their order.  A null compares with
nothing, and a text has no order with a number. -/
def Cell.test? (o : TextOrder) (holds : Ordering → Bool) : Cell → Cell → Option Truth
  | .null, _ => some .unknown
  | _, .null => some .unknown
  | .text a, .text b => some (.ofBool (holds (o.compare a b)))
  | .number a, .number b => some (.ofBool (holds (Ord.compare a b)))
  | _, _ => none

/-- The orders in which a comparison holds. -/
def comparison? : String → Option (Ordering → Bool)
  | "=" => some Ordering.isEq
  | "<>" => some Ordering.isNe
  | "<" => some Ordering.isLT
  | ">" => some Ordering.isGT
  | "<=" => some Ordering.isLE
  | ">=" => some Ordering.isGE
  | _ => none

/-! ## Conditions -/

namespace Expr

/-- What an operand is worth in a row. -/
def cell? (row : Path → Option Cell) : Expr → Option Cell
  | .column name => row [name]
  | .path parts => row parts
  | .literal .null => some .null
  | .literal (.string s) => some (.text s)
  | .literal (.number digits long) => (count? (.literal (.number digits long))).map .number
  | .nested inner => inner.cell? row
  | _ => none

/-- Whether a value is among the entries of a list. -/
def among? (o : TextOrder) (row : Path → Option Cell) (a : Cell) : List Expr → Option Truth
  | [] => some .no
  | item :: more => do
    let b ← item.cell? row
    let same ← Cell.test? o Ordering.isEq a b
    let later ← among? o row a more
    some (same.or later)

/-- What a condition comes to in a row. -/
def truth? (o : TextOrder) (row : Path → Option Cell) : Expr → Option Truth
  | .nested inner => inner.truth? o row
  | .unary .not operand => Truth.not <$> operand.truth? o row
  | .binary left .and right => do
    let a ← left.truth? o row
    let b ← right.truth? o row
    some (a.and b)
  | .binary left .or right => do
    let a ← left.truth? o row
    let b ← right.truth? o row
    some (a.or b)
  | .binary left (.symbol op) right => do
    let holds ← comparison? op
    let a ← left.cell? row
    let b ← right.cell? row
    Cell.test? o holds a b
  | .nullTest operand negated => do
    let a ← operand.cell? row
    some (.ofBool ((a == .null) != negated))
  | .between operand negated low high => do
    let a ← operand.cell? row
    let above ← Cell.test? o Ordering.isGE a (← low.cell? row)
    let below ← Cell.test? o Ordering.isLE a (← high.cell? row)
    some (if negated then (above.and below).not else above.and below)
  | .inList operand negated items => do
    let a ← operand.cell? row
    let found ← among? o row a items.toList
    some (if negated then found.not else found)
  | _ => none

/-- A condition can be worked out in a row, and is true there exactly if a statement is. -/
def HoldsIff (o : TextOrder) (row : Path → Option Cell) (e : Expr) (P : Prop) : Prop :=
  ∃ t, e.truth? o row = some t ∧ (t = .yes ↔ P)

section HoldsIff

variable {o : TextOrder} {row : Path → Option Cell} {e e₁ e₂ operand : Expr} {P P₁ P₂ : Prop}
  {x : Option String}

theorem HoldsIff.congr {Q : Prop} (h : e.HoldsIff o row P) (hiff : P ↔ Q) :
    e.HoldsIff o row Q := by
  obtain ⟨t, ht, hyes⟩ := h
  exact ⟨t, ht, hyes.trans hiff⟩

theorem HoldsIff.nested (h : e.HoldsIff o row P) : (Expr.nested e).HoldsIff o row P := by
  obtain ⟨t, ht, hyes⟩ := h
  refine ⟨t, ?_, hyes⟩
  rw [truth?, ht]

theorem HoldsIff.or (h₁ : e₁.HoldsIff o row P₁) (h₂ : e₂.HoldsIff o row P₂) :
    (Expr.binary e₁ .or e₂).HoldsIff o row (P₁ ∨ P₂) := by
  obtain ⟨t₁, ht₁, hyes₁⟩ := h₁
  obtain ⟨t₂, ht₂, hyes₂⟩ := h₂
  refine ⟨t₁.or t₂, ?_, ?_⟩
  · rw [truth?, ht₁, ht₂]
    rfl
  · rw [Truth.or_eq_yes, hyes₁, hyes₂]

/-- One of several conditions, joined from the left. -/
theorem HoldsIff.any {α : Type} {f : α → Expr} {Q : α → Prop} (as : List α)
    (hfirst : e.HoldsIff o row P) (hmore : ∀ a ∈ as, (f a).HoldsIff o row (Q a)) :
    (as.foldl (fun e a => .binary e .or (f a)) e).HoldsIff o row (P ∨ ∃ a ∈ as, Q a) := by
  induction as generalizing e P with
  | nil =>
      refine hfirst.congr ?_
      simp
  | cons a as ih =>
      rw [List.forall_mem_cons] at hmore
      have hjoined := ih (hfirst.or hmore.1) hmore.2
      refine hjoined.congr ?_
      simp [or_assoc]

/-- A text that may be missing against one that is there. -/
theorem test?_ofText (holds : Ordering → Bool) (v : String) :
    ∃ t, Cell.test? o holds (.ofText? x) (.text v) = some t
      ∧ (t = .yes ↔ ∃ s, x = some s ∧ holds (o.compare s v)) := by
  cases x with
  | none => exact ⟨.unknown, rfl, by simp⟩
  | some s => exact ⟨.ofBool (holds (o.compare s v)), rfl, by simp⟩

theorem HoldsIff.compare {op : String} {holds : Ordering → Bool} (hop : comparison? op = some holds)
    (hoperand : operand.cell? row = some (.ofText? x)) (v : String) :
    (Expr.binary operand (.symbol op) (.literal (.string v))).HoldsIff o row
      (∃ s, x = some s ∧ holds (o.compare s v)) := by
  obtain ⟨t, ht, hyes⟩ := test?_ofText (o := o) (x := x) holds v
  refine ⟨t, ?_, hyes⟩
  rw [truth?, hop, hoperand]
  exact ht

theorem HoldsIff.isNull (hoperand : operand.cell? row = some (.ofText? x)) :
    (Expr.nullTest operand false).HoldsIff o row (x = none) := by
  refine ⟨.ofBool (Cell.ofText? x == .null), ?_, ?_⟩
  · rw [truth?, hoperand]
    simp
  · cases x <;> simp [Cell.ofText?]

theorem HoldsIff.notNull (hoperand : operand.cell? row = some (.ofText? x)) :
    (Expr.nullTest operand true).HoldsIff o row (x ≠ none) := by
  refine ⟨.ofBool (Cell.ofText? x != .null), ?_, ?_⟩
  · rw [truth?, hoperand]
    simp [bne]
  · cases x <;> simp [Cell.ofText?]

theorem HoldsIff.between (hoperand : operand.cell? row = some (.ofText? x)) (low high : String) :
    (Expr.between operand false (.literal (.string low)) (.literal (.string high))).HoldsIff o row
      (∃ s, x = some s ∧ o.le low s ∧ o.le s high) := by
  obtain ⟨above, habove, hlow⟩ := test?_ofText (o := o) (x := x) Ordering.isGE low
  obtain ⟨below, hbelow, hhigh⟩ := test?_ofText (o := o) (x := x) Ordering.isLE high
  refine ⟨above.and below, ?_, ?_⟩
  · simp [truth?, hoperand, cell?, habove, hbelow]
  · rw [Truth.and_eq_yes, hlow, hhigh]
    cases x <;> simp [TextOrder.isGE_compare, TextOrder.isLE_compare]

/-- A text is among texts. -/
theorem among?_texts (o : TextOrder) (row : Path → Option Cell) (x : Option String)
    (vs : List String) :
    ∃ t, among? o row (.ofText? x) (vs.map fun v => .literal (.string v)) = some t
      ∧ (t = .yes ↔ ∃ v ∈ vs, x = some v) := by
  induction vs with
  | nil => exact ⟨.no, rfl, by simp⟩
  | cons v vs ih =>
      obtain ⟨later, hlater, hmore⟩ := ih
      obtain ⟨same, hsame, hfirst⟩ := test?_ofText (o := o) (x := x) Ordering.isEq v
      refine ⟨same.or later, ?_, ?_⟩
      · simp [among?, cell?, hlater, hsame]
      · rw [Truth.or_eq_yes, hfirst, hmore]
        simp [TextOrder.compare_eq_eq]

theorem HoldsIff.inList (hoperand : operand.cell? row = some (.ofText? x)) (vs : List String) :
    (Expr.inList operand false (.ofList (vs.map fun v => .literal (.string v)))).HoldsIff o row
      (∃ v ∈ vs, x = some v) := by
  obtain ⟨t, ht, hyes⟩ := among?_texts o row x vs
  refine ⟨t, ?_, hyes⟩
  rw [truth?, hoperand, Exprs.toList_ofList]
  show (among? o row _ _ >>= _) = _
  rw [ht]
  rfl

end HoldsIff

end Expr

end QueryReport.Sql
