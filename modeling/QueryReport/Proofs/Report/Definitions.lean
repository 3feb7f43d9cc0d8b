import QueryReport.Proofs.Filter.Lifecycle
import QueryReport.Proofs.Report.Outcome

/-!
# `QueryReport.Proofs.Report.Definitions`: the definitions that reports hold

A report is given definitions one by one or takes them from a saved form, and each of them has been
checked.  `Report.Composed` are the reports that come about as long as only definitions are added
that were attained themselves; saved forms may be any.

* `attained_definitions` is the step: what comes in is given or restored, and nothing is changed.
* `Composed.attained` is the run lemma.
* `sound_of_held` is the result: the definitions of such a report are as sound as any by themselves.
-/

set_option autoImplicit false

namespace QueryReport.Report

open Sql QueryReport.Filter

variable {r next : Report}

/-! ## Loading -/

theorem restoreColumns_definitions {saved : List (String × Attributes)}
    (h : r.restoreColumns saved = .ok next) : next.definitions = r.definitions := by
  induction saved generalizing r with
  | nil =>
      cases h
      rfl
  | cons entry saved ih =>
      unfold restoreColumns at h
      split at h
      · cases h
      -- Changing a column leaves the definitions alone.
      · exact (ih h).trans rfl

/-- A saved definition is added as it is restored. -/
theorem attained_restoreDefinitions {saved : List Definition}
    (hr : ∀ d ∈ r.definitions, d.Attained) (h : r.restoreDefinitions saved = .ok next) :
    ∀ d ∈ next.definitions, d.Attained := by
  induction saved generalizing r with
  | nil =>
      cases h
      exact hr
  | cons definition saved ih =>
      obtain ⟨d, hd, h⟩ := bind_eq_ok.mp h
      obtain ⟨added, hadded, h⟩ := bind_eq_ok.mp h
      obtain ⟨-, rfl⟩ := addDefinition_eq_ok hadded
      refine ih ?_ h
      intro d' hd'
      rcases List.mem_append.mp hd' with hd' | hd'
      · exact hr d' hd'
      · exact List.mem_singleton.mp hd' ▸ .restored hd

theorem restoredQuery_definitions {previous : List Column} {saved : Saved.Report}
    (h : restoredQuery previous saved = .ok next) : next.definitions = [] := by
  unfold restoredQuery at h
  by_cases hblank : Text.isBlankText saved.sql = true
  · rw [if_pos hblank] at h
    cases h
    rfl
  · rw [if_neg hblank] at h
    obtain ⟨_, _, _, _, _, _, _, _, rfl⟩ := setSql_eq_ok.mp h
    rfl

/-- Whatever the saved form, the definitions of a loaded report have passed their check. -/
theorem attained_load {saved : Saved.Report} (h : r.load saved = .ok next) :
    ∀ d ∈ next.definitions, d.Attained := by
  obtain ⟨settings, restored, -, hrestored, rfl⟩ := load_eq_ok.mp h
  obtain ⟨queried, hqueried, hrestored⟩ := bind_eq_ok.mp hrestored
  obtain ⟨overlaid, hoverlaid, hrestored⟩ := bind_eq_ok.mp hrestored
  have hnone : ∀ d ∈ overlaid.definitions, d.Attained := by
    rw [restoreColumns_definitions hoverlaid, restoredQuery_definitions hqueried]
    exact fun d hd => nomatch hd
  show ∀ d ∈ restored.definitions, d.Attained
  exact attained_restoreDefinitions hnone hrestored

/-! ## Every run -/

/-- The reports that come about by calls, whether they fail or not, and by assignments, where each
definition that is added was attained. -/
inductive Composed : Report → Prop where
  | empty : Composed {}
  | call {r : Report} (op : Operation) (given : ∀ d, op = .addDefinition d → d.Attained)
      (h : Composed r) : Composed (op.change.outcome r).2
  | assign {r next : Report} (hstep : Step r next) (same : next.definitions = r.definitions)
      (h : Composed r) : Composed next

/-- An operation that succeeds keeps the definitions, adds the one it is given or restores those of
a saved form. -/
theorem attained_definitions {op : Operation} (given : ∀ d, op = .addDefinition d → d.Attained)
    (hr : ∀ d ∈ r.definitions, d.Attained) (h : op.change.result r = .ok next) :
    ∀ d ∈ next.definitions, d.Attained := by
  cases op with
  | addDefinition d =>
      obtain ⟨-, rfl⟩ := addDefinition_eq_ok h
      intro d' hd'
      rcases List.mem_append.mp hd' with hd' | hd'
      · exact hr d' hd'
      · exact given d' (List.mem_singleton.mp hd' ▸ rfl)
  | load saved => exact attained_load h
  -- The other operations leave the definitions as they are.
  | setSql text =>
      obtain ⟨_, _, _, _, _, _, _, _, rfl⟩ := setSql_eq_ok.mp h
      exact hr
  | removeColumns names =>
      obtain ⟨_, _, _, _, rfl⟩ := removeColumns_eq_ok.mp h
      exact hr
  | convertToArray name names =>
      obtain ⟨_, _, _, _, _, _, _, _, rfl⟩ := convertToArray_eq_ok.mp h
      exact hr
  | applyParams params =>
      obtain ⟨_, _, _, _, rfl⟩ := applyParams_eq_ok.mp h
      exact hr
  | replaceFilter params =>
      obtain ⟨_, _, _, _, rfl⟩ := replaceFilter_eq_ok.mp h
      exact hr
  | setOrder text =>
      obtain ⟨_, _, rfl⟩ := setOrder_eq_ok.mp h
      exact hr

theorem Composed.attained (h : Composed r) : ∀ d ∈ r.definitions, d.Attained := by
  induction h with
  | empty => exact fun d hd => nomatch hd
  | @call r op given _ ih =>
      rw [Operation.outcome_change]
      cases hresult : op.change.result r with
      | error e => exact ih
      | ok changed => exact attained_definitions given ih hresult
  | assign _ same _ ih =>
      rw [same]
      exact ih

/-- Definitions by themselves and in reports, made by calls or loaded, are sound. -/
theorem sound_of_held {d : Definition}
    (h : d.Attained ∨ ∃ r : Report, r.Composed ∧ d ∈ r.definitions) : d.Sound := by
  rcases h with h | ⟨r, hr, hd⟩
  · exact h.sound
  · exact (hr.attained d hd).sound

/-- The list of a report's only definition comes from a query with an order, its default is not a
number and its options were found by a resolver; deleting rows for it has been refused. -/
theorem ordered_list_sound : ∃ r : Report, r.Composed ∧ ∃ d, r.definitions = [d]
    ∧ d.source = some (.query "SELECT name FROM updates Order\t By name") ∧ d.ordered = true
    ∧ d.defaultValue = .float .nan ∧ d.options = [⟨"1", .int 1⟩] ∧ d.Sound := by
  have hbare := Definition.Attained.described "status" "Status" .number .list 1 (.float .nan)
    (.new "status")
  have hsourced := hbare.call
    (.setSource (some (.query "SELECT name FROM updates Order\t By name")))
  have hbuilt := hsourced.call (.buildWith fun _ => .ok (.rows [[], [.int 1]]))
  have hrefused := hbuilt.call (.setSource (some (.query "SELECT 1; DELETE FROM updates")))
  have hreport := Composed.empty.call (.addDefinition _) (by rintro _ ⟨⟩; exact hrefused)
  refine ⟨_, hreport, _, rfl, ?_, ?_, ?_, ?_, sound_of_held (.inr ⟨_, hreport, .head _⟩)⟩
  all_goals decide +kernel

end QueryReport.Report
