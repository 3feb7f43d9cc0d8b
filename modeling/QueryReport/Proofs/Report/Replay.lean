import QueryReport.Proofs.Column.Rebuild
import QueryReport.Proofs.Report.Outcome

/-!
# `QueryReport.Proofs.Report.Replay`: adopting the query of a report again

Every report that can come about has columns that are derived from its baseline and a baseline whose
paging is literal (`Report.Replayable`).  A text that is read as the baseline is therefore adopted
by any report, and it is known with which columns.

* `replayable_setSql`, `replayable_removeColumns`, … are the steps of the invariant, and
  `Reachable.replayable` says that it holds of all runs.
* `setSql_replay` is the result: what adopting the query again comes to.
-/

set_option autoImplicit false

namespace QueryReport

open Sql QueryReport.Filter

namespace Report

/-- The paging of the query is literal. -/
structure Counted (q : Query) : Prop where
  limit : ∃ n, statedCount "LIMIT" q.limit = .ok n
  offset : ∃ n, statedCount "OFFSET" q.offset = .ok n

/-- What it takes to build the columns of a report again from its baseline. -/
structure Replayable (r : Report) : Prop where
  derived : ∀ c ∈ r.columns, c.Derived
  counted : ∀ q, r.baseline = some q → Counted q

variable {r next : Report} {q : Query}

theorem replayable_empty (mode : ColumnMatch) : ({ columnMatch := mode } : Report).Replayable where
  derived _ h := nomatch h
  counted _ h := nomatch h

/-! ## The query -/

theorem replayable_setSql {text : String} (h : r.setSql text = .ok next) : next.Replayable := by
  obtain ⟨q, columns, limit, offset, _, hcolumns, hlimit, hoffset, rfl⟩ := setSql_eq_ok.mp h
  refine ⟨buildColumns_derived hcolumns, ?_⟩
  rintro _ ⟨⟩
  exact ⟨⟨limit, hlimit⟩, offset, hoffset⟩

theorem counted_mapSelect (h : Counted q) (f : Select → Select) : Counted (q.mapSelect f) := by
  unfold Query.mapSelect
  split
  · exact ⟨h.limit, h.offset⟩
  · exact h

theorem counted_withoutColumn (h : Counted q) (c : Column) : Counted (withoutColumn q c) := by
  have h : Counted (q.withoutTarget c.source) := counted_mapSelect h _
  unfold withoutColumn
  cases c.path with
  | none => exact h
  | some path =>
      have h : Counted ((q.withoutTarget c.source).withoutSortKey path) := ⟨h.limit, h.offset⟩
      exact counted_mapSelect h _

theorem replayable_removeColumns {names : List String} (hr : r.Replayable)
    (h : r.removeColumns names = .ok next) : next.Replayable := by
  obtain ⟨removed, q, _, hq, rfl⟩ := removeColumns_eq_ok.mp h
  refine ⟨fun c hc => hr.derived c (List.mem_filter.mp hc).1, ?_⟩
  rintro _ ⟨⟩
  exact List.foldlRecOn removed withoutColumn (hr.counted q hq)
    fun _ hq c _ => counted_withoutColumn hq c

theorem counted_withArray (h : Counted q) (target : SelectItem) (converted : List Column) :
    Counted (withArray q target converted) := by
  refine counted_mapSelect ?_ _
  exact List.foldlRecOn converted _ h fun _ hq c _ => counted_mapSelect hq _

theorem replayable_convertToArray {name : String} {names : List String} (hr : r.Replayable)
    (h : r.convertToArray name names = .ok next) : next.Replayable := by
  obtain ⟨converted, target, q, columns, _, _, hq, hcolumns, rfl⟩ := convertToArray_eq_ok.mp h
  refine ⟨buildColumns_derived hcolumns, ?_⟩
  rintro _ ⟨⟩
  exact counted_withArray (hr.counted q hq) target converted

/-! ## Columns and saved forms -/

theorem derived_changeFirst {name : String} {a : Attributes} {columns : List Column}
    (h : ∀ c ∈ columns, c.Derived) :
    ∀ c ∈ mapColumn.changeFirst name (·.withAttributes a) columns, c.Derived := by
  induction columns with
  | nil => exact h
  | cons c columns ih =>
      rw [List.forall_mem_cons] at h
      unfold mapColumn.changeFirst
      split
      · exact List.forall_mem_cons.mpr ⟨h.1.withAttributes a, h.2⟩
      · exact List.forall_mem_cons.mpr ⟨h.1, ih h.2⟩

theorem replayable_mapColumn (hr : r.Replayable) (name : String) (a : Attributes) :
    (r.mapColumn name (·.withAttributes a)).Replayable :=
  ⟨derived_changeFirst hr.derived, hr.counted⟩

theorem replayable_restoreColumns {saved : List (String × Attributes)} (hr : r.Replayable)
    (h : r.restoreColumns saved = .ok next) : next.Replayable := by
  induction saved generalizing r with
  | nil =>
      cases h
      exact hr
  | cons entry saved ih =>
      unfold restoreColumns at h
      split at h
      · cases h
      · exact ih (replayable_mapColumn hr entry.1 entry.2) h

theorem replayable_restoreDefinitions {saved : List Definition} (hr : r.Replayable)
    (h : r.restoreDefinitions saved = .ok next) : next.Replayable := by
  induction saved generalizing r with
  | nil =>
      cases h
      exact hr
  | cons definition saved ih =>
      obtain ⟨d, _, h⟩ := bind_eq_ok.mp h
      obtain ⟨added, hadded, h⟩ := bind_eq_ok.mp h
      obtain ⟨-, rfl⟩ := addDefinition_eq_ok hadded
      have hr : ({ r with definitions := r.definitions ++ [d] } : Report).Replayable :=
        ⟨hr.derived, hr.counted⟩
      exact ih hr h

theorem replayable_load {saved : Saved.Report} (h : r.load saved = .ok next) :
    next.Replayable := by
  obtain ⟨settings, restored, _, hrestored, rfl⟩ := load_eq_ok.mp h
  obtain ⟨queried, hqueried, hrestored⟩ := bind_eq_ok.mp hrestored
  obtain ⟨overlaid, hoverlaid, hrestored⟩ := bind_eq_ok.mp hrestored
  -- What is restored begins empty or with a text that is adopted, so nothing is asked of `r`.
  have hr : queried.Replayable := by
    unfold restoredQuery at hqueried
    split at hqueried
    · cases hqueried
      exact replayable_empty saved.columnMatch
    · exact replayable_setSql hqueried
  have hr := replayable_restoreDefinitions (replayable_restoreColumns hr hoverlaid) hrestored
  exact ⟨hr.derived, hr.counted⟩

/-! ## Every run -/

theorem replayable_result {op : Operation} (hr : r.Replayable)
    (h : op.change.result r = .ok next) : next.Replayable := by
  cases op with
  | setSql text => exact replayable_setSql h
  | removeColumns names => exact replayable_removeColumns hr h
  | convertToArray name names => exact replayable_convertToArray hr h
  | addDefinition d =>
      obtain ⟨-, rfl⟩ := addDefinition_eq_ok h
      exact ⟨hr.derived, hr.counted⟩
  | applyParams params =>
      obtain ⟨_, _, _, _, rfl⟩ := applyParams_eq_ok.mp h
      exact ⟨hr.derived, hr.counted⟩
  | replaceFilter params =>
      obtain ⟨_, _, _, _, rfl⟩ := replaceFilter_eq_ok.mp h
      exact ⟨hr.derived, hr.counted⟩
  | setOrder text =>
      obtain ⟨_, _, rfl⟩ := setOrder_eq_ok.mp h
      exact ⟨hr.derived, hr.counted⟩
  | load saved => exact replayable_load h

theorem Step.replayable (hr : r.Replayable) (h : Step r next) : next.Replayable := by
  cases h with
  | call op =>
      rw [Operation.outcome_change]
      cases hresult : op.change.result r with
      | ok changed => exact replayable_result hr hresult
      | error e => exact hr
  | column name a => exact replayable_mapColumn hr name a
  | _ => exact ⟨hr.derived, hr.counted⟩

/-- What an operation that succeeds comes to can come about. -/
theorem Reachable.result {op : Operation} (hr : Reachable r) (h : op.change.result r = .ok next) :
    Reachable next := by
  have hstep := hr.step (.call op)
  rw [Operation.outcome_change, h] at hstep
  exact hstep

theorem Reachable.replayable (h : Reachable r) : r.Replayable := by
  induction h with
  | empty => exact replayable_empty .name
  | step _ hstep ih => exact hstep.replayable ih

/-! ## Adopting the query again -/

/-- A text is one `SELECT` if it is read as one query whose body is a `SELECT`. -/
theorem selectOf_eq_ok {text : String} :
    selectOf text = .ok q ↔ parse text = .ok [.query q] ∧ q.select?.isSome := by
  unfold selectOf
  cases hparse : parse text with
  | error f => exact ⟨nofun, fun h => nomatch h.1⟩
  | ok statements =>
      simp only [liftFault, bind, Except.bind, Except.ok.injEq]
      split
      · split
        · next hselect =>
          rw [pure_eq_ok]
          constructor
          · rintro rfl
            exact ⟨rfl, hselect⟩
          · rintro ⟨⟨⟩, -⟩
            rfl
        · next hselect =>
          refine ⟨nofun, ?_⟩
          rintro ⟨⟨⟩, h⟩
          exact absurd h hselect
      -- A single statement that is no query, and then no or several statements.
      · next hquery =>
        refine ⟨nofun, ?_⟩
        rintro ⟨⟨⟩, -⟩
        exact (hquery q rfl).elim
      · next hmany =>
        refine ⟨nofun, ?_⟩
        rintro ⟨rfl, -⟩
        exact (hmany _ rfl).elim

/-- The columns that a report gets from a query with the targets of another report's columns. -/
theorem columnsOf_lists (hr : Reachable r) (hq : q.Lists (r.columns.map Column.source))
    (other : Report) :
    other.columnsOf q = .ok (rebuilt other.columnMatch other.columns 1 r.columns) := by
  unfold columnsOf
  rw [hq.targets_eq]
  exact buildColumns_sources_of_derived hr.replayable.derived hr.consistent.names_distinct
    fun _ _ hmem => nomatch hmem

theorem columnsOf_baseline (hr : Reachable r) (hq : r.baseline = some q) (other : Report) :
    other.columnsOf q = .ok (rebuilt other.columnMatch other.columns 1 r.columns) :=
  columnsOf_lists hr (hr.consistent.baseline_lists q hq) other

/-- Any report adopts a text that is read as the baseline of some report, and gets that report's
columns with what it has itself to pass on to them. -/
theorem setSql_replay {text : String} (hr : Reachable r) (hq : r.baseline = some q)
    (hread : selectOf text = .ok q) (other : Report) : ∃ limit offset,
    other.setSql text = .ok { other with
      limit, offset
      columns := rebuilt other.columnMatch other.columns 1 r.columns
      sql := some text
      baseline := some q
      working := none
      order := statedOrder q } := by
  obtain ⟨⟨limit, hlimit⟩, offset, hoffset⟩ := hr.replayable.counted q hq
  exact ⟨limit, offset, setSql_eq_ok.mpr ⟨q, _, limit, offset, hread,
    columnsOf_baseline hr hq other, hlimit, hoffset, rfl⟩⟩

end Report

end QueryReport
