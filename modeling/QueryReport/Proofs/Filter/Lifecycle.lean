import QueryReport.Proofs.Filter.Definition
import QueryReport.Proofs.Filter.ListQuery

/-!
# `QueryReport.Proofs.Filter.Lifecycle`: what holds of a definition at any time

`Definition.Attained` are the definitions that calls lead to, whether the calls fail or not, and
those that are restored from a saved form.  Each of them is `Sound`: its list source cannot change
data, the list is ordered exactly if the source says so, a call that fails leaves it alone, and it
comes back from its saved form as it is.

* `Call.outcome_edit` is the step: a call comes to a changed definition or to no change.
* `Attained.made` takes failed calls out of a run, so that what is known of `Made` holds.
* `Attained.sound` is the result.
-/

set_option autoImplicit false

namespace QueryReport.Filter.Definition

variable {d changed : Definition}

/-! ## Calls -/

/-- A call of one of the operations that change a definition in place, with its argument. -/
inductive Call where
  | setSource (source : Option ListSource)
  | build
  | buildWith (resolve : ListSource → Except Error Resolved)

namespace Call

/-- The steps of a call. -/
def edit : Call → Edit Unit
  | setSource source => Edit.setSource source
  | build => Edit.build
  | buildWith resolve => Edit.buildWith resolve

/-- A call comes to its result, or to no change. -/
theorem outcome_edit (call : Call) (d : Definition) :
    call.edit.outcome d = Edit.commit d (call.edit.result d) := by
  have allOrNothing : ∃ x, call.edit.outcome d = Edit.commit d x := by
    cases call with
    | setSource source => exact ⟨_, Edit.outcome_setSource source d⟩
    | build => exact ⟨_, Edit.outcome_build d⟩
    | buildWith resolve => exact ⟨_, Edit.outcome_buildWith resolve d⟩
  obtain ⟨x, hx⟩ := allOrNothing
  rw [Edit.result_of_outcome hx]
  exact hx

/-- A call that fails leaves the definition as it was. -/
theorem unchanged_of_error {call : Call} {e : Error}
    (h : call.edit.outcome d = (.error e, changed)) : changed = d := by
  rw [outcome_edit] at h
  cases hresult : call.edit.result d with
  | ok next =>
      rw [hresult] at h
      cases h
  | error f =>
      rw [hresult] at h
      cases h
      rfl

end Call

/-! ## Runs -/

/-- The definitions that can come about: from a bare one, by describing it and by calls that may
fail, or from a saved form. -/
inductive Attained : Definition → Prop where
  | new (column : String) : Attained (.new column)
  | described {d : Definition} (column caption : String) (dataType : DataType) (control : Control)
      (priority : Int) (defaultValue : Value) (h : Attained d) :
      Attained { d with column, caption, dataType, control, priority, defaultValue }
  | call {d : Definition} (call : Call) (h : Attained d) : Attained (call.edit.outcome d).2
  | restored {saved next : Definition} (hnext : saved.restore = .ok next) : Attained next

/-- A failed call is no step, so calls that succeed lead to all of them. -/
theorem Attained.made (h : d.Attained) : d.Made := by
  induction h with
  | new column => exact .new column
  | described column caption dataType control priority defaultValue _ ih =>
      exact .described column caption dataType control priority defaultValue ih
  | @call d call _ ih =>
      rw [Call.outcome_edit]
      cases hresult : call.edit.result d with
      | error e => exact ih
      | ok next =>
          cases call with
          | setSource source => exact .sourced source ih hresult
          | build => exact .built ih hresult
          | buildWith resolve => exact .resolved resolve ih hresult
  | restored hnext => exact .restored hnext

/-! ## What holds -/

/-- What can be relied on in a definition:

- `harmless`: no query that its list comes from holds a word of a statement that changes data;
- `ordered_iff`: the list is ordered exactly if it comes from a query with `ORDER BY`;
- `kept`: a call that fails leaves the definition as it is;
- `restored`: it comes back from its saved form as it is. -/
structure Sound (d : Definition) : Prop where
  harmless : ∀ sql, d.source = some (.query sql) →
    ∀ word ∈ ["insert", "update", "delete"], ¬ ListSource.HoldsWord word.toList sql.toList
  ordered_iff : d.ordered = true ↔ ∃ sql, d.source = some (.query sql)
    ∧ ListSource.HoldsPair "order".toList "by".toList sql.toList
  kept : ∀ (call : Call) (e : Error) (changed : Definition),
    call.edit.outcome d = (.error e, changed) → changed = d
  restored : d.restore = .ok d

theorem Settled.harmless (h : d.Settled) {sql : String} (hsource : d.source = some (.query sql))
    {word : String} (hword : word ∈ ["insert", "update", "delete"]) :
    ¬ ListSource.HoldsWord word.toList sql.toList := by
  intro hholds
  have hmem : word.toList ∈ ListSource.changingWords := List.mem_map_of_mem (f := String.toList) hword
  have hchanges : ListSource.changesData sql = true :=
    ListSource.changesData_iff.mpr ⟨_, hmem, hholds⟩
  have haccepts : ListSource.changesData sql = false := by
    have haccepts := h.accepts
    rw [hsource] at haccepts
    exact haccepts
  rw [hchanges] at haccepts
  cases haccepts

theorem Settled.ordered_iff (h : d.Settled) : d.ordered = true ↔
    ∃ sql, d.source = some (.query sql)
      ∧ ListSource.HoldsPair "order".toList "by".toList sql.toList := by
  rw [h.ordered]
  constructor
  · intro hordered
    match hsource : d.source with
    | none =>
        rw [hsource] at hordered
        cases hordered
    | some (.values _) =>
        rw [hsource] at hordered
        cases hordered
    | some (.mapping _) =>
        rw [hsource] at hordered
        cases hordered
    | some (.query sql) =>
        rw [hsource] at hordered
        exact ⟨sql, rfl, ListSource.ordersRows_iff.mp hordered⟩
  · rintro ⟨sql, hsource, hpair⟩
    rw [hsource]
    exact ListSource.ordersRows_iff.mpr hpair

theorem Attained.sound (h : d.Attained) : d.Sound where
  harmless _ hsource _ hword := h.made.settled.harmless hsource hword
  ordered_iff := h.made.settled.ordered_iff
  kept _ _ _ herror := Call.unchanged_of_error herror
  restored := h.made.restore

end QueryReport.Filter.Definition
