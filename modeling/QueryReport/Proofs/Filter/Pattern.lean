import QueryReport.Filter.Condition
import QueryReport.Proofs.Sql.Lexing.Pieces
import QueryReport.Proofs.Text.Like

/-!
# `QueryReport.Proofs.Filter.Pattern`: what the pattern operators find

`starts_with`, `ends_with` and `contains` write the text of a value between percent signs and
compare by `LIKE`.  The text goes into the pattern as it is, so a wildcard in it is a wildcard of
the pattern.

* `Operator.Finds`: what the operators ask of a text, without a word about patterns.
* `pattern_finds_iff`: the pattern of a value finds what the operator asks for exactly if there are
  no wildcards in the value.
* `percent_found_as_anything`: a value with a percent sign finds a text that it does not begin.
-/

set_option autoImplicit false

namespace QueryReport.Filter

open Sql Text

/-- What a pattern operator asks of a text. -/
def Operator.Finds (op : Operator) (value text : String) : Prop :=
  match op with
  | .startsWith => value.toList <+: text.toList
  | .endsWith => value.toList <:+ text.toList
  | .contains => value.toList <:+: text.toList
  | _ => False

namespace Condition

variable {c : Condition}

theorem literal_pattern (hop : c.operator.isPattern) (value : String) :
    c.literal (.text value) = quote (pattern c.operator value) := by
  have hnull : c.operator.isNullTest = false := by
    revert hop
    cases c.operator <;> simp [Operator.isPattern, Operator.isNullTest]
  simp [literal, hnull, hop, Value.display]

/-- Every text can be asked about, so a statement about texts is one about lists of characters. -/
theorem forall_text {P : List Char → Prop} : (∀ s : String, P s.toList) ↔ ∀ s, P s := by
  constructor
  · intro h s
    simpa using h (String.ofList s)
  · exact fun h s => h s.toList

/-- The literal of a value denotes a pattern, and that matches what the operator asks for exactly if
no character of the value is a wildcard. -/
theorem pattern_finds_iff (hop : c.operator.isPattern) (value : String) :
    ∃ pattern : String, tokens (c.literal (.text value)) = .ok [.literal (.string pattern)]
      ∧ ((∀ text : String,
          like pattern.toList text.toList = true ↔ c.operator.Finds value text)
        ↔ Bare value.toList) := by
  refine ⟨pattern c.operator value, ?_, ?_⟩
  · rw [literal_pattern hop]
    exact (cut_quote _).tokens_eq
  · -- Each operator puts percent signs where the text may go on.
    cases hcase : c.operator with
    | startsWith =>
        simp only [pattern, Operator.Finds, String.toList_append]
        exact (forall_text (P := fun s => like _ s = true ↔ _ <+: s)).trans like_prefix_iff
    | endsWith =>
        simp only [pattern, Operator.Finds, String.toList_append]
        exact (forall_text (P := fun s => like _ s = true ↔ _ <:+ s)).trans like_suffix_iff
    | contains =>
        simp only [pattern, Operator.Finds, String.toList_append]
        exact (forall_text (P := fun s => like _ s = true ↔ _ <:+: s)).trans like_infix_iff
    | _ =>
        rw [hcase] at hop
        cases hop

/-- A text with a quote in it is found wherever it stands. -/
theorem quoted_text_found :
    ∃ (c : Condition) (pattern : String), make "contains" [.text "it's"] .string = .ok c
      ∧ tokens (c.literal (.text "it's")) = .ok [.literal (.string pattern)]
      ∧ ∀ text : String, like pattern.toList text.toList = true ↔ "it's".toList <:+: text.toList := by
  let c : Condition := ⟨.contains, [.text "it's"], .string⟩
  have hmake : make "contains" [.text "it's"] .string = .ok c := by decide +kernel
  obtain ⟨pattern, htokens, hfinds⟩ :=
    pattern_finds_iff (show c.operator.isPattern from rfl) "it's"
  exact ⟨c, pattern, hmake, htokens, hfinds.mpr (by decide +kernel)⟩

/-- The percent sign of `50%` stands for any run of characters, so that `starts_with` finds `500`. -/
theorem percent_found_as_anything :
    ∃ (c : Condition) (pattern : String), make "starts_with" [.text "50%"] .string = .ok c
      ∧ tokens (c.literal (.text "50%")) = .ok [.literal (.string pattern)]
      ∧ like pattern.toList "500".toList = true ∧ ¬ c.operator.Finds "50%" "500" := by
  let c : Condition := ⟨.startsWith, [.text "50%"], .string⟩
  refine ⟨c, "50%%", by decide +kernel, by decide +kernel, by decide +kernel, ?_⟩
  show ¬ "50%".toList <+: "500".toList
  decide +kernel

end Condition

end QueryReport.Filter
