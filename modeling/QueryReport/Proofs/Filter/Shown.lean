import QueryReport.Proofs.Filter.Rendering
import QueryReport.Proofs.Text.Template

/-!
# `QueryReport.Proofs.Filter.Shown`: the values that a filter names and tests

A parameter is read out as a phrase and run as a predicate.  The two are written apart, so whether
they speak of the same values is a question of its own.

* `Names` and `Tests`: the places of the values that the phrase names, and of those whose literals
  the predicate compares with, in the order in which they stand there.
* `names_named`, `tests_tested`: the phrase and the predicate, one operator after the other.
* `Built.names_tests_iff`: both speak of the same values, unless `match_or_null` is asked for any of
  several.  Then the phrase names them all, and the predicate compares with the first alone.

That a number of values is there to be looked up is what the check of the condition is good for.
-/

set_option autoImplicit false

namespace QueryReport.Filter

open Text

/-! ## Renderings -/

theorem orList_concat (init : List String) (last : String) :
    orList (init ++ [last])
      = if init = [] then last else ", ".intercalate init ++ " or " ++ last := by
  unfold orList
  rw [List.getLast?_concat, List.dropLast_concat]
  cases init <;> rfl

section Written

variable {write : Value → String}

/-- What is written for as many values as there are. -/
def written (write : Value → String) (n : Nat) (value : Nat → Value) : List String :=
  ((List.range n).map value).map write

theorem written_eq_map (n : Nat) (value : Nat → Value) :
    written write n value = (List.range n).map fun i => write (value i) :=
  List.map_map

theorem isEmpty_written (n : Nat) (value : Nat → Value) :
    (written write n value).isEmpty = (n == 0) := by
  cases n <;> simp [written]

theorem shows_nth {n i : Nat} (h : i < n) :
    Shows write (fun value => Parameter.nth (written write n value) i) [i] := by
  refine (Shows.value i).congr fun value => ?_
  simp [Parameter.nth, written_eq_map, h]

theorem shows_list (lead between : String) (n : Nat) :
    Shows write (fun value => between.intercalate ((written write n value).map (lead ++ ·)))
      (List.range n) := by
  refine (Shows.intercalate lead between (List.range n)).congr fun value => ?_
  rw [written_eq_map, List.map_map]
  rfl

theorem shows_join (between : String) (n : Nat) :
    Shows write (fun value => between.intercalate (written write n value)) (List.range n) :=
  (shows_list "" between n).congr fun _ => by simp

/-- An empty list may be rendered in its own way, as it has no values to show. -/
theorem shows_unless_empty {n : Nat} {text : (Nat → Value) → String}
    (h : Shows write text (List.range n)) (empty : String) :
    Shows write (fun value => if (written write n value).isEmpty then empty else text value)
      (List.range n) := by
  cases n with
  | zero => exact .const empty
  | succ n =>
      refine h.congr fun value => ?_
      rw [isEmpty_written]
      rfl

/-- A list that is read out shows its values in order. -/
theorem shows_orList (n : Nat) :
    Shows write (fun value => orList (written write n value)) (List.range n) := by
  match n with
  | 0 => exact Shows.const ""
  | 1 => exact Shows.value 0
  | n + 2 =>
    have hinit : Shows write (fun value => ", ".intercalate
        ((List.range (n + 1)).map fun i => "" ++ write (value i))) (List.range (n + 1)) :=
      Shows.intercalate "" ", " (List.range (n + 1))
    have hlist := (hinit.after " or ").append (.value (n + 1))
    rw [← List.range_succ] at hlist
    refine hlist.congr fun value => ?_
    rw [written_eq_map, List.range_succ, List.map_append, List.map_singleton, orList_concat,
      if_neg (by simp)]
    simp

end Written

namespace Parameter

variable (p : Parameter)

/-- The same parameter with other values, as many as it has. -/
def withValues (value : Nat → Value) : Parameter :=
  { p with condition := { p.condition with
      values := (List.range p.condition.values.length).map value } }

/-- The phrase names the values at some places and nothing else of the values. -/
def Names (shown : List Nat) : Prop :=
  Shows Value.display (fun value => (p.withValues value).phrase) shown

/-- The predicate compares with the values at some places and holds nothing else of the values. -/
def Tests (shown : List Nat) : Prop :=
  Shows p.condition.literal (fun value => (p.withValues value).sql) shown

/-- The places of the values that the phrase speaks of. -/
def named : List Nat :=
  match p.condition.operator with
  | .isNull | .notNull => []
  | .between => [0, 1]
  | .isIn | .inOrNull => List.range p.condition.values.length
  | _ => if p.orRange then List.range p.condition.values.length else [0]

/-- The places of the values that the predicate speaks of. -/
def tested : List Nat :=
  match p.condition.operator with
  | .matchOrNull => [0]
  | _ => p.named

variable {p}

theorem literals_withValues (value : Nat → Value) :
    (p.withValues value).condition.literals
      = written p.condition.literal p.condition.values.length value :=
  rfl

theorem names_named (h : p.condition.check = .ok ()) : p.Names p.named := by
  have hlength := Condition.arity_le_length h
  obtain ⟨column, ⟨op, values, type⟩, orRange⟩ := p
  have hnth : ∀ i < values.length, Shows Value.display
      (fun value => nth (written Value.display values.length value) i) [i] := fun _ => shows_nth
  have hlist : ∀ lead : String, Shows Value.display
      (fun value => lead ++ orList (written Value.display values.length value))
      (List.range values.length) := fun lead => (shows_orList values.length).before lead
  cases op
  all_goals dsimp only [Names, phrase, columnName, withValues, named]
  case isNull | notNull => exact .const _
  case between =>
    have hlow := hnth 0 (Nat.lt_of_succ_lt hlength)
    exact ((hlow.before _).after " and ").append (hnth 1 hlength)
  case isIn | inOrNull => exact shows_unless_empty (hlist _) _
  -- The others look up the first value, unless they are asked for any.
  all_goals
    cases orRange with
    | false => exact (hnth 0 hlength).before _
    | true => exact hlist _

theorem tests_tested (h : p.condition.check = .ok ()) : p.Tests p.tested := by
  have hlength := Condition.arity_le_length h
  unfold Tests sql
  simp only [literals_withValues]
  obtain ⟨column, ⟨op, values, type⟩, orRange⟩ := p
  have hnth : ∀ i < values.length, Shows (Condition.literal ⟨op, values, type⟩)
      (fun value => nth (written (Condition.literal ⟨op, values, type⟩) values.length value) i)
      [i] := fun _ => shows_nth
  have hlist : ∀ lead after : String, Shows (Condition.literal ⟨op, values, type⟩)
      (fun value => lead ++ ", ".intercalate (written (Condition.literal ⟨op, values, type⟩)
        values.length value) ++ after) (List.range values.length) :=
    fun lead after => ((shows_join ", " values.length).before lead).after after
  cases op
  all_goals dsimp only [withValues, named, tested]
  case isNull | notNull => exact .const _
  case between =>
    have hlow := hnth 0 (Nat.lt_of_succ_lt hlength)
    exact ((hlow.before _).after " AND ").append (hnth 1 hlength)
  case isIn => exact shows_unless_empty (hlist _ _) _
  case inOrNull => exact shows_unless_empty (((hlist _ _).after column).after " IS NULL)") _
  case matchOrNull =>
    -- Here alone it makes no difference whether any of the values is asked for.
    have hfirst := (hnth 0 hlength).before ("(" ++ column ++ " = ")
    exact ((hfirst.after " OR ").after column).after " IS NULL)"
  all_goals
    cases orRange with
    | false => exact (hnth 0 hlength).before _
    | true => exact ((shows_list _ " OR " _).before "(").after ")"

/-- The phrase names one sequence of values: texts are read out as they are. -/
theorem Names.unique {shown shown' : List Nat} (h : p.Names shown) (h' : p.Names shown') :
    shown = shown' :=
  Shows.unique (u := .text "a") (v := .text "b") (a := 'a') (b := 'b') rfl rfl (by decide) h h'

/-- So does the predicate test one, unless it is a test for null: nulls are written differently from
booleans. -/
theorem Tests.unique (hop : ¬ p.condition.operator.isNullTest) {shown shown' : List Nat}
    (h : p.Tests shown) (h' : p.Tests shown') : shown = shown' := by
  have hnull : p.condition.literal .null = "NULL" := if_neg hop
  have htrue : p.condition.literal (.bool true) = "'t'" := if_neg hop
  refine Shows.unique (u := .null) (v := .bool true) (a := 'N') (b := '\'') ?_ ?_ (by decide) h h'
  · rw [hnull]
    decide +kernel
  · rw [htrue]
    decide +kernel

theorem tested_of_isNullTest (h : p.condition.operator.isNullTest) : p.tested = p.named := by
  unfold tested
  revert h
  cases p.condition.operator <;> simp [Operator.isNullTest]

/-- What looks up one value speaks of all of them, if it is asked for any. -/
theorem named_of_orRange (hrange : p.orRange) (hop : p.condition.operator.arity = 1) :
    p.named = List.range p.condition.values.length := by
  unfold named
  rw [hrange]
  revert hop
  cases p.condition.operator <;> simp [Operator.arity]

theorem tested_eq_named_iff (h : p.condition.check = .ok ()) :
    p.tested = p.named ↔
      ¬ (p.condition.operator = .matchOrNull ∧ p.orRange ∧ 1 < p.condition.values.length) := by
  have hlength := Condition.arity_le_length h
  unfold tested named
  cases hop : p.condition.operator
  -- Only this operator names every value but tests no more than the first.
  case matchOrNull =>
    rw [hop] at hlength
    have hpos : 1 ≤ p.condition.values.length := hlength
    cases p.orRange with
    | false => simp
    | true =>
        show [0] = List.range p.condition.values.length ↔ _
        constructor
        · intro heq
          have hone := congrArg List.length heq
          rw [List.length_singleton, List.length_range] at hone
          omega
        · intro hmany
          have hone : p.condition.values.length = 1 := by
            have hle : ¬ 1 < p.condition.values.length := fun hlt => hmany ⟨rfl, rfl, hlt⟩
            omega
          rw [hone]
          rfl
  all_goals simp

/-- The phrase and the predicate speak of the same values in the same order, unless `match_or_null`
is asked for any of several values.  A comparison that is asked for any of its values names and tests
them all. -/
theorem Built.names_tests_iff (hp : p.Built) :
    ((∃ shown, p.Names shown ∧ p.Tests shown) ↔
      ¬ (p.condition.operator = .matchOrNull ∧ p.orRange ∧ 1 < p.condition.values.length))
    ∧ (p.orRange → p.condition.operator.arity = 1 → p.condition.operator ≠ .matchOrNull →
      p.Names (List.range p.condition.values.length)
        ∧ p.Tests (List.range p.condition.values.length)) := by
  have hcheck := hp.made.check
  have hnames := names_named hcheck
  have htests := tests_tested hcheck
  refine ⟨?_, fun hrange harity hop => ?_⟩
  · rw [← tested_eq_named_iff hcheck]
    constructor
    · rintro ⟨shown, hnames', htests'⟩
      -- A test for null has no values to find the places by.
      by_cases hnull : p.condition.operator.isNullTest
      · exact tested_of_isNullTest hnull
      · rw [htests.unique hnull htests', hnames.unique hnames']
    · intro heq
      exact ⟨p.named, hnames, heq ▸ htests⟩
  · have hnamed := named_of_orRange hrange harity
    have htested : p.tested = p.named :=
      (tested_eq_named_iff hcheck).mpr fun hmatch => hop hmatch.1
    rw [← hnamed]
    exact ⟨hnames, htested ▸ htests⟩

/-- Asked for any of three beginnings, the phrase names all three and the predicate tests them. -/
theorem any_of_three_shown :
    ∃ p : Parameter, p.Built ∧ p.phrase = "status starts with a, b or c"
      ∧ p.Names [0, 1, 2] ∧ p.Tests [0, 1, 2] := by
  let c : Condition := ⟨.startsWith, [.text "a", .text "b", .text "c"], .string⟩
  have hmade : c.Made := Condition.made_iff.mpr rfl
  have hbuilt : Built ⟨"t.status", c, true⟩ := .orRange (.new "t.status" hmade)
  exact ⟨_, hbuilt, by decide +kernel, hbuilt.names_tests_iff.2 rfl rfl (by decide)⟩

/-- Asked for either of two values or none, the phrase names both and the predicate tests the first
alone. -/
theorem second_value_not_tested :
    ∃ p : Parameter, p.Built ∧ p.orRange ∧ p.condition.values = [.text "a", .text "b"]
      ∧ p.phrase = "c is blank or equals a or b" ∧ p.sql = "(c = 'a' OR c IS NULL)"
      ∧ ¬ ∃ shown, p.Names shown ∧ p.Tests shown := by
  let c : Condition := ⟨.matchOrNull, [.text "a", .text "b"], .string⟩
  let p : Parameter := ⟨"c", c, true⟩
  have hcheck : c.check = .ok () := rfl
  have hbuilt : p.Built := .orRange (.new "c" (Condition.made_iff.mpr hcheck))
  refine ⟨p, hbuilt, rfl, rfl, by decide +kernel, by decide +kernel, ?_⟩
  rintro ⟨shown, hnames, htests⟩
  have hboth : shown = [0, 1] := hnames.unique (names_named hcheck)
  have hone : shown = [0] := htests.unique (by decide) (tests_tested hcheck)
  cases hboth.symm.trans hone

end Parameter

end QueryReport.Filter
