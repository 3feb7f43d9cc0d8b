import QueryReport.Filter.Definition
import QueryReport.Proofs.Except

/-!
# `QueryReport.Proofs.Filter.Definition`: definitions that survive being saved

A definition says whether its list is ordered, and that is restored from the list source, which is
checked again.  `Definition.Made` are the definitions that the operations on definitions lead to;
they come back from their saved form unchanged (`Made.restore`), since no operation leaves a source
that the check refuses or an order that does not fit it.

An operation assigns step by step, but works out first what may fail.  `Edit.outcome_work` says what
comes of such a run, and `withSource_eq_ok`, `build_eq_ok` and `buildWith_eq_ok` when there is a
result and which.
-/

set_option autoImplicit false

namespace QueryReport.Filter.Definition

/-- The definitions that can be made: from a bare one, by describing it, giving it a list source and
building its options, or from a saved one. -/
inductive Made : Definition → Prop where
  | new (column : String) : Made (.new column)
  | described {d : Definition} (column caption : String) (dataType : DataType) (control : Control)
      (priority : Int) (defaultValue : Value) (h : Made d) :
      Made { d with column, caption, dataType, control, priority, defaultValue }
  | sourced {d next : Definition} (source : Option ListSource) (h : Made d)
      (hnext : d.withSource source = .ok next) : Made next
  | built {d next : Definition} (h : Made d) (hnext : d.build = .ok next) : Made next
  | resolved {d next : Definition} (resolve : ListSource → Except Error Resolved) (h : Made d)
      (hnext : d.buildWith resolve = .ok next) : Made next
  | restored {saved next : Definition} (hnext : saved.restore = .ok next) : Made next

variable {d next : Definition} {source : Option ListSource}

/-- A source is accepted unless it is a query that could change data. -/
def Accepts : Option ListSource → Prop
  | some (.query sql) => ListSource.changesData sql = false
  | _ => True

/-- Whether a list is ordered that comes from a source. -/
def orderedBy (source : Option ListSource) : Bool := source.elim false ListSource.isOrdered

/-! ## Running edits -/

namespace Edit

/-- What an edit with a known result should come to: the new definition on success, the old one on
failure. -/
def commit (d : Definition) : Except Error Definition → Except Error Unit × Definition
  | .ok changed => (.ok (), changed)
  | .error e => (.error e, d)

/-- An edit that works something out and then makes changes that cannot fail. -/
theorem outcome_work {α : Type} (x : Definition → Except Error α) (f : α → Definition → Definition)
    (d : Definition) :
    (do let a ← x (← get); modify (f a) : Edit Unit).outcome d
      = commit d (do let a ← x d; pure (f a d)) := by
  show ExceptT.bindCont (fun a => (modify (f a) : Edit Unit)) (x d) d = _
  cases x d <;> rfl

theorem result_of_outcome {e : Edit Unit} {d : Definition} {x : Except Error Definition}
    (h : e.outcome d = commit d x) : e.result d = x := by
  unfold result
  rw [h]
  cases x <;> rfl

theorem outcome_setSource (source : Option ListSource) (d : Definition) :
    (setSource source).outcome d = commit d (do
      let ordered ← orderOf d.column source
      pure { d with source, ordered, options := [] }) :=
  outcome_work (fun d => orderOf d.column source)
    (fun ordered d => { d with source, ordered, options := [] }) d

theorem outcome_build (d : Definition) :
    build.outcome d = commit d (do
      let options ← d.literalOptions
      pure { d with options }) :=
  outcome_work literalOptions (fun options d => { d with options }) d

theorem outcome_buildWith (resolve : ListSource → Except Error Resolved) (d : Definition) :
    (buildWith resolve).outcome d = commit d (do
      let options ← d.resolvedOptions resolve
      pure { d with options }) :=
  outcome_work (resolvedOptions resolve) (fun options d => { d with options }) d

end Edit

theorem orderOf_eq_ok {column : String} {ordered : Bool} :
    orderOf column source = .ok ordered ↔ Accepts source ∧ ordered = orderedBy source := by
  match source with
  | none => exact ⟨fun h => ⟨trivial, (Except.ok.inj h).symm⟩, fun h => congrArg _ h.2.symm⟩
  | some (.values _) =>
      exact ⟨fun h => ⟨trivial, (Except.ok.inj h).symm⟩, fun h => congrArg _ h.2.symm⟩
  | some (.mapping _) =>
      exact ⟨fun h => ⟨trivial, (Except.ok.inj h).symm⟩, fun h => congrArg _ h.2.symm⟩
  | some (.query sql) =>
      show (if ListSource.changesData sql then Except.error (Error.listChangesData column sql)
        else .ok (ListSource.ordersRows sql)) = .ok ordered ↔ _
      cases hchanges : ListSource.changesData sql with
      | true =>
          rw [if_pos rfl]
          refine ⟨nofun, fun h => ?_⟩
          cases hchanges.symm.trans h.1
      | false =>
          rw [if_neg (by decide), Except.ok.injEq, eq_comm]
          exact ⟨fun h => ⟨hchanges, h⟩, fun h => h.2⟩

theorem withSource_eq_ok : d.withSource source = .ok next ↔
    Accepts source ∧ next = { d with source, ordered := orderedBy source, options := [] } := by
  unfold withSource
  rw [Edit.result_of_outcome (Edit.outcome_setSource source d), bind_eq_ok]
  constructor
  · rintro ⟨ordered, hordered, h⟩
    obtain ⟨haccepts, rfl⟩ := orderOf_eq_ok.mp hordered
    cases h
    exact ⟨haccepts, rfl⟩
  · rintro ⟨haccepts, rfl⟩
    exact ⟨_, orderOf_eq_ok.mpr ⟨haccepts, rfl⟩, rfl⟩

theorem build_eq_ok : d.build = .ok next ↔
    ∃ options, d.literalOptions = .ok options ∧ next = { d with options } := by
  unfold build
  rw [Edit.result_of_outcome (Edit.outcome_build d), bind_eq_ok]
  exact exists_congr fun options => and_congr_right fun _ => pure_eq_ok.trans eq_comm

theorem buildWith_eq_ok {resolve : ListSource → Except Error Resolved} :
    d.buildWith resolve = .ok next ↔
      ∃ options, d.resolvedOptions resolve = .ok options ∧ next = { d with options } := by
  unfold buildWith
  rw [Edit.result_of_outcome (Edit.outcome_buildWith resolve d), bind_eq_ok]
  exact exists_congr fun options => and_congr_right fun _ => pure_eq_ok.trans eq_comm

/-! ## What every definition keeps -/

/-- The source is one that the check accepts, and the list is ordered as its source says. -/
structure Settled (d : Definition) : Prop where
  accepts : Accepts d.source
  ordered : d.ordered = orderedBy d.source

theorem settled_withSource (h : d.withSource source = .ok next) : next.Settled := by
  obtain ⟨haccepts, rfl⟩ := withSource_eq_ok.mp h
  exact ⟨haccepts, rfl⟩

theorem settled_restore (h : d.restore = .ok next) : next.Settled := by
  obtain ⟨sourced, hsourced, h⟩ := bind_eq_ok.mp h
  have hsettled := settled_withSource hsourced
  rw [pure_eq_ok] at h
  subst h
  exact ⟨hsettled.accepts, hsettled.ordered⟩

/-- Building options leaves all else alone. -/
theorem settled_withOptions {d : Definition} (h : d.Settled) (options : List ListOption) :
    ({ d with options } : Definition).Settled := ⟨h.accepts, h.ordered⟩

theorem Made.settled (h : d.Made) : d.Settled := by
  induction h with
  | new column => exact ⟨trivial, rfl⟩
  | described _ _ _ _ _ _ _ ih => exact ⟨ih.accepts, ih.ordered⟩
  | sourced _ _ hnext _ => exact settled_withSource hnext
  | built _ hnext ih =>
      obtain ⟨options, -, rfl⟩ := build_eq_ok.mp hnext
      exact settled_withOptions ih options
  | resolved _ _ hnext ih =>
      obtain ⟨options, -, rfl⟩ := buildWith_eq_ok.mp hnext
      exact settled_withOptions ih options
  | restored hnext => exact settled_restore hnext

/-- A definition that was made comes back from its saved form as it was. -/
theorem Made.restore (h : d.Made) : d.restore = .ok d := by
  obtain ⟨haccepts, hordered⟩ := h.settled
  unfold Definition.restore
  rw [withSource_eq_ok.mpr ⟨haccepts, rfl⟩]
  show Except.ok { d with ordered := orderedBy d.source } = _
  rw [← hordered]

end QueryReport.Filter.Definition
