import QueryReport.Report.Saving

/-!
# `QueryReport.Proofs.Report.Commit`: an operation changes all of a report or nothing

The operations of `QueryReport.Report.Change` assign to a report step by step, so a step that fails
late could leave it half changed. The theorems here show that no operation does:

* `commit` is what an operation with a known result should come to: the new report on success, the
  old one on failure.
* `outcome_setSql`, `outcome_removeColumns`, … run each operation and write what it comes to as a
  `commit`. The reports are given there as values, without any step in between; the other proofs
  about reports start from these equations.
* `failed_operation_keeps_report` is the statement for all operations together.
-/

set_option autoImplicit false

namespace QueryReport

open Sql QueryReport.Filter

/-! ## Running steps -/

namespace Change

variable {α β : Type}

@[simp] theorem outcome_pure (a : α) (r : Report) :
    (pure a : Change α).outcome r = (.ok a, r) := rfl

@[simp] theorem outcome_throw (e : Error) (r : Report) :
    (throw e : Change α).outcome r = (.error e, r) := rfl

@[simp] theorem outcome_get (r : Report) : (get : Change Report).outcome r = (.ok r, r) := rfl

@[simp] theorem outcome_set (s r : Report) :
    (set s : Change PUnit).outcome r = (.ok ⟨⟩, s) := rfl

@[simp] theorem outcome_modify (f : Report → Report) (r : Report) :
    (modify f : Change PUnit).outcome r = (.ok ⟨⟩, f r) := rfl

/-- What is only worked out does not change the report. -/
@[simp] theorem outcome_lift (x : Except Error α) (r : Report) :
    (liftM x : Change α).outcome r = (x, r) := rfl

/-- A later step starts from the report that the earlier one leaves; after a failure there is no
later step. -/
theorem outcome_bind (c : Change α) (f : α → Change β) (r : Report) :
    (c >>= f).outcome r = match c.outcome r with
      | (.ok a, changed) => (f a).outcome changed
      | (.error e, changed) => (.error e, changed) := by
  show (match c r with | (a, s) => ExceptT.bindCont f a s) = _
  unfold outcome
  rcases c r with ⟨_ | a, s⟩ <;> rfl

theorem outcome_bind_ok {c : Change α} {r changed : Report} {a : α}
    (h : c.outcome r = (.ok a, changed)) (f : α → Change β) :
    (c >>= f).outcome r = (f a).outcome changed := by
  rw [outcome_bind, h]

theorem outcome_get_bind (f : Report → Change β) (r : Report) :
    (get >>= f).outcome r = (f r).outcome r :=
  outcome_bind_ok (outcome_get r) f

theorem outcome_modify_bind (g : Report → Report) (f : PUnit → Change β) (r : Report) :
    (modify g >>= f).outcome r = (f ⟨⟩).outcome (g r) :=
  outcome_bind_ok (outcome_modify g r) f

/-- Changes made one after the other for the members of a list add up. -/
theorem outcome_forM_modify (xs : List α) (g : α → Report → Report) (r : Report) :
    (xs.forM fun a => (modify (g a) : Change PUnit)).outcome r
      = (.ok ⟨⟩, xs.foldl (fun r a => g a r) r) := by
  induction xs generalizing r with
  | nil => rfl
  | cons a xs ih =>
      show ((modify (g a) : Change PUnit) >>= fun _ => xs.forM fun a => modify (g a)).outcome r = _
      rw [outcome_modify_bind, ih]
      rfl

/-! ## All or nothing -/

/-- What an operation with a known result comes to if it changes the whole report or nothing. -/
def commit (r : Report) : Except Error Report → Except Error Unit × Report
  | .ok changed => (.ok (), changed)
  | .error e => (.error e, r)

/-- A step that only works something out, before an operation that is all or nothing. -/
theorem outcome_lift_bind {x : Except Error α} {f : α → Change Unit}
    {g : α → Except Error Report} {r : Report}
    (h : ∀ a, x = .ok a → (f a).outcome r = commit r (g a)) :
    (liftM x >>= f).outcome r = commit r (x >>= g) := by
  rw [outcome_bind, outcome_lift]
  cases hx : x with
  | error e => rfl
  | ok a => exact h a hx

theorem result_of_outcome {c : Change Unit} {r : Report} {x : Except Error Report}
    (h : c.outcome r = commit r x) : c.result r = x := by
  unfold result
  rw [h]
  cases x <;> rfl

/-! ## The operations one by one -/

/-- Everything that can fail comes before the first assignment. -/
theorem outcome_setSql (text : String) (r : Report) :
    (setSql text).outcome r = commit r (do
      let q ← Report.selectOf text
      let columns ← r.columnsOf q
      let limit ← Report.statedCount "LIMIT" q.limit
      let offset ← Report.statedCount "OFFSET" q.offset
      pure { r with
        limit, offset, columns
        sql := some text
        baseline := some q
        working := none
        order := Report.statedOrder q }) := by
  unfold setSql
  rw [outcome_get_bind]
  refine outcome_lift_bind fun q _ => ?_
  refine outcome_lift_bind fun columns _ => ?_
  refine outcome_lift_bind fun limit _ => ?_
  refine outcome_lift_bind fun offset _ => ?_
  simp only [outcome_modify_bind, outcome_modify]
  rfl

/-- The sort keys go column by column; only the order of the report changes on the way. -/
theorem foldl_orderWithout (removed : List Column) (r : Report) :
    removed.foldl (fun r c => { r with order := r.order.map (Report.orderWithout · c) }) r
      = { r with order := r.order.map fun keys => removed.foldl Report.orderWithout keys } := by
  induction removed generalizing r with
  | nil => simp
  | cons c removed ih =>
      rw [List.foldl_cons, ih]
      simp [Option.map_map, Function.comp_def]

/-- The sort keys go before the last assignments, but after the last step that can fail. -/
theorem outcome_removeColumns (names : List String) (r : Report) :
    (removeColumns names).outcome r = commit r (do
      let removed ← r.namedColumns names
      let baseline ← r.required
      let baseline := removed.foldl Report.withoutColumn baseline
      pure { r with
        sql := some baseline.text
        baseline := some baseline
        working := r.working.map fun q => removed.foldl Report.withoutColumn q
        columns := r.columns.filter fun c => !names.contains c.name
        order := (r.order.map fun keys => removed.foldl Report.orderWithout keys).filter
          (!·.isEmpty) }) := by
  unfold removeColumns
  rw [outcome_get_bind]
  refine outcome_lift_bind fun removed _ => ?_
  refine outcome_lift_bind fun baseline _ => ?_
  rw [outcome_bind_ok (outcome_forM_modify removed _ r), foldl_orderWithout]
  simp only [outcome_modify_bind, outcome_modify]
  rfl

theorem outcome_convertToArray (name : String) (names : List String) (r : Report) :
    (convertToArray name names).outcome r = commit r (do
      let converted ← r.namedColumns names
      let target ← Report.arrayTarget name converted
      let baseline ← r.required
      let baseline := Report.withArray baseline target converted
      let columns ← r.columnsOf baseline
      pure { r with
        columns
        sql := some baseline.text
        baseline := some baseline
        working := none }) := by
  unfold convertToArray
  rw [outcome_get_bind]
  refine outcome_lift_bind fun converted _ => ?_
  refine outcome_lift_bind fun target _ => ?_
  refine outcome_lift_bind fun baseline _ => ?_
  refine outcome_lift_bind fun columns _ => ?_
  simp only [outcome_modify_bind, outcome_modify]
  rfl

theorem outcome_addDefinition (d : Definition) (r : Report) :
    (addDefinition d).outcome r = commit r
      (if (r.definition? d.column).isSome then .error (.duplicateDefinition d.column)
        else .ok { r with definitions := r.definitions ++ [d] }) := by
  unfold addDefinition
  rw [outcome_get_bind]
  by_cases h : (r.definition? d.column).isSome = true
  · simp only [h, if_true]
    rfl
  · simp only [h]
    rfl

theorem outcome_work (q : Query) (params : List Parameter) (r : Report) :
    (work q params).outcome r = commit r (do
      let working ← Report.filtered ((q.withLimit r.limit).withOffset r.offset) params
      pure { r with working := some working }) := by
  unfold work
  rw [outcome_get_bind]
  refine outcome_lift_bind fun working _ => ?_
  rfl

/-- The query that the filters start from is picked first; `work` does the rest. -/
theorem outcome_applyParams (params : List Parameter) (r : Report) :
    (applyParams params).outcome r = commit r (do
      let q ← r.filterBase params
      let working ← Report.filtered ((q.withLimit r.limit).withOffset r.offset) params
      pure { r with working := some working }) := by
  unfold applyParams
  rw [outcome_get_bind]
  exact outcome_lift_bind fun q _ => outcome_work q params r

theorem outcome_replaceFilter (params : List Parameter) (r : Report) :
    (replaceFilter params).outcome r = commit r (do
      let q ← r.required
      let q := q.withFilter none
      let working ← Report.filtered ((q.withLimit r.limit).withOffset r.offset) params
      pure { r with working := some working }) := by
  unfold replaceFilter
  rw [outcome_get_bind]
  exact outcome_lift_bind fun q _ => outcome_work (q.withFilter none) params r

theorem outcome_setOrder (text : Option String) (r : Report) :
    (setOrder text).outcome r = commit r (do
      let order ← Report.readOrder text
      pure { r with order }) := by
  unfold setOrder
  exact outcome_lift_bind fun order _ => outcome_modify _ r

/-- The restored report is complete before it takes the place of the old one. -/
theorem outcome_load (saved : Saved.Report) (r : Report) :
    (load saved).outcome r = commit r (do
      let settings ← Report.savedSettings saved
      let next ← Report.restored r.columns saved
      pure { next with
        settings
        caption := saved.caption
        limit := saved.limit
        offset := saved.offset }) := by
  unfold load
  refine outcome_lift_bind fun settings _ => ?_
  rw [outcome_get_bind]
  exact outcome_lift_bind fun next _ => outcome_set _ r

end Change

/-! ## All operations -/

/-- A call of one of the operations that change a report, with its arguments. -/
inductive Operation where
  | setSql (text : String)
  | removeColumns (names : List String)
  | convertToArray (name : String) (names : List String)
  | addDefinition (d : Definition)
  | applyParams (params : List Parameter)
  | replaceFilter (params : List Parameter)
  | setOrder (text : Option String)
  | load (saved : Saved.Report)

namespace Operation

/-- The steps of a call. -/
def change : Operation → Change Unit
  | .setSql text => Change.setSql text
  | .removeColumns names => Change.removeColumns names
  | .convertToArray name names => Change.convertToArray name names
  | .addDefinition d => Change.addDefinition d
  | .applyParams params => Change.applyParams params
  | .replaceFilter params => Change.replaceFilter params
  | .setOrder text => Change.setOrder text
  | .load saved => Change.load saved

/-- Every operation is all or nothing: the steps come to its result, or to no change. -/
theorem outcome_change (op : Operation) (r : Report) :
    op.change.outcome r = Change.commit r (op.change.result r) := by
  have allOrNothing : ∃ x, op.change.outcome r = Change.commit r x := by
    cases op with
    | setSql text => exact ⟨_, Change.outcome_setSql text r⟩
    | removeColumns names => exact ⟨_, Change.outcome_removeColumns names r⟩
    | convertToArray name names => exact ⟨_, Change.outcome_convertToArray name names r⟩
    | addDefinition d => exact ⟨_, Change.outcome_addDefinition d r⟩
    | applyParams params => exact ⟨_, Change.outcome_applyParams params r⟩
    | replaceFilter params => exact ⟨_, Change.outcome_replaceFilter params r⟩
    | setOrder text => exact ⟨_, Change.outcome_setOrder text r⟩
    | load saved => exact ⟨_, Change.outcome_load saved r⟩
  obtain ⟨x, hx⟩ := allOrNothing
  rw [Change.result_of_outcome hx]
  exact hx

/-- An operation that fails leaves the whole report as it was. -/
theorem failed_operation_keeps_report (op : Operation) (r changed : Report) (e : Error)
    (h : op.change.outcome r = (.error e, changed)) : changed = r := by
  rw [outcome_change] at h
  cases hx : op.change.result r with
  | ok next =>
      rw [hx] at h
      cases h
  | error f =>
      rw [hx] at h
      cases h
      rfl

/-- Taking an unknown column out of a report with paging. -/
theorem unknown_column_keeps_report :
    (Operation.removeColumns ["x"]).change.outcome { limit := some 3 }
        = (.error (.unknownColumn "x"), { limit := some 3 })
      ∧ ({ limit := some 3 } : Report) = { limit := some 3 } :=
  ⟨rfl, failed_operation_keeps_report (.removeColumns ["x"]) { limit := some 3 }
    { limit := some 3 } (.unknownColumn "x") rfl⟩

end Operation

end QueryReport
