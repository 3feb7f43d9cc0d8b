import Mathlib.Data.List.Nodup
import QueryReport.Proofs.Column.Build
import QueryReport.Proofs.Report.Commit
import QueryReport.Proofs.Sql.Targets

/-!
# `QueryReport.Proofs.Report.Agreement`: text, baseline, working copy and columns agree

A report holds the same query four times over: as text, as baseline, as working copy and as
columns.  `Report.Agrees` says what has to hold between them, and `reachable_agrees` that it does
hold in every report that operations and assignments lead to from the empty report.

* `Report.Consistent` is the invariant.  Beyond `Agrees` it knows that each column has the name of
  its target; that is why taking out the columns of some names and the first targets equal to theirs
  comes to the same thing (`erase_sources`).
* `consistent_setSql`, `consistent_removeColumns`, … are the steps, one for each operation.
-/

set_option autoImplicit false

namespace QueryReport

open Sql QueryReport.Filter

namespace Report

/-- Text, baseline, working copy and columns agree, and definitions are for different columns. -/
structure Agrees (r : Report) : Prop where
  text_iff_baseline : r.sql.isSome ↔ r.baseline.isSome
  columns_need_baseline : r.baseline = none → r.columns = []
  working_needs_baseline : r.baseline = none → r.working = none
  baseline_lists : ∀ q, r.baseline = some q → q.Lists (r.columns.map Column.source)
  working_lists : ∀ q, r.working = some q → q.Lists (r.columns.map Column.source)
  names_nonempty : ∀ c ∈ r.columns, c.name ≠ ""
  names_distinct : (r.columns.map Column.name).Nodup
  no_wildcard : ∀ q, r.baseline = some q ∨ r.working = some q →
    ∀ item ∈ q.targets, item.expr.isStar = false
  definitions_distinct : (r.definitions.map Definition.column).Nodup

/-- What every operation keeps. -/
structure Consistent (r : Report) : Prop where
  text_iff_baseline : r.sql.isSome ↔ r.baseline.isSome
  columns_need_baseline : r.baseline = none → r.columns = []
  working_needs_baseline : r.baseline = none → r.working = none
  baseline_lists : ∀ q, r.baseline = some q → q.Lists (r.columns.map Column.source)
  working_lists : ∀ q, r.working = some q → q.Lists (r.columns.map Column.source)
  built : ∀ c ∈ r.columns, c.Built
  names_distinct : (r.columns.map Column.name).Nodup
  definitions_distinct : (r.definitions.map Definition.column).Nodup

theorem Consistent.agrees {r : Report} (h : r.Consistent) : r.Agrees where
  text_iff_baseline := h.text_iff_baseline
  columns_need_baseline := h.columns_need_baseline
  working_needs_baseline := h.working_needs_baseline
  baseline_lists := h.baseline_lists
  working_lists := h.working_lists
  names_nonempty c hc := (h.built c hc).nonempty
  names_distinct := h.names_distinct
  no_wildcard q hq item hitem := by
    have hlists : q.Lists (r.columns.map Column.source) :=
      hq.elim (h.baseline_lists q) (h.working_lists q)
    rw [hlists.targets_eq] at hitem
    obtain ⟨c, hc, rfl⟩ := List.mem_map.mp hitem
    exact (h.built c hc).single
  definitions_distinct := h.definitions_distinct

theorem consistent_empty : ({} : Report).Consistent where
  text_iff_baseline := Iff.rfl
  columns_need_baseline _ := rfl
  working_needs_baseline _ := rfl
  baseline_lists _ h := nomatch h
  working_lists _ h := nomatch h
  built _ h := nomatch h
  names_distinct := List.nodup_nil
  definitions_distinct := List.nodup_nil

theorem required_eq_ok {r : Report} {q : Query} : r.required = .ok q ↔ r.baseline = some q := by
  unfold required
  cases r.baseline with
  | none => exact ⟨nofun, nofun⟩
  | some q' => exact ⟨fun h => by cases h; rfl, fun h => by cases h; rfl⟩

theorem liftFault_eq_ok {α : Type} {x : Except Fault α} {a : α} :
    liftFault x = .ok a ↔ x = .ok a := by
  cases x with
  | error f => exact ⟨nofun, nofun⟩
  | ok b => exact ⟨fun h => congrArg _ (Except.ok.inj h), fun h => congrArg _ (Except.ok.inj h)⟩

/-! ## Adopting a query -/

theorem selectOf_select? {text : String} {q : Query} (h : selectOf text = .ok q) :
    q.select?.isSome := by
  unfold selectOf at h
  obtain ⟨statements, _, h⟩ := bind_eq_ok.mp h
  split at h
  · split at h
    case isTrue hselect =>
      cases h
      exact hselect
    case isFalse => cases h
  · cases h
  · cases h

/-- A report that takes a query with the columns built from it is consistent, whatever it held
before; only the definitions are left from then. -/
theorem consistent_adopt {r next : Report} {q : Query} {columns : List Column}
    (hq : q.select?.isSome) (hcolumns : r.columnsOf q = .ok columns)
    (hdefinitions : (next.definitions.map Definition.column).Nodup)
    (htext : next.sql.isSome) (hbaseline : next.baseline = some q)
    (hworking : next.working = none) (hnext : next.columns = columns) : next.Consistent where
  text_iff_baseline := by
    rw [hbaseline]
    exact iff_of_true htext rfl
  columns_need_baseline h := by
    rw [hbaseline] at h
    cases h
  working_needs_baseline _ := hworking
  baseline_lists q' hq' := by
    rw [hbaseline] at hq'
    cases hq'
    rw [hnext, buildColumns_sources hcolumns]
    exact Query.lists_targets hq
  working_lists q' hq' := by
    rw [hworking] at hq'
    cases hq'
  built := by
    rw [hnext]
    exact buildColumns_built hcolumns
  names_distinct := by
    rw [hnext]
    exact (buildColumns_names hcolumns).1
  definitions_distinct := hdefinitions

theorem consistent_setSql {r next : Report} {text : String}
    (hdefinitions : (r.definitions.map Definition.column).Nodup)
    (h : r.setSql text = .ok next) : next.Consistent := by
  unfold setSql at h
  rw [Change.result_of_outcome (Change.outcome_setSql text r)] at h
  obtain ⟨q, hq, h⟩ := bind_eq_ok.mp h
  obtain ⟨columns, hcolumns, h⟩ := bind_eq_ok.mp h
  obtain ⟨limit, _, h⟩ := bind_eq_ok.mp h
  obtain ⟨offset, _, h⟩ := bind_eq_ok.mp h
  cases h
  exact consistent_adopt (selectOf_select? hq) hcolumns hdefinitions rfl rfl rfl rfl

/-! ## Removing columns -/

variable {columns : List Column}

theorem namedColumns_mem {r : Report} {names : List String} {removed : List Column}
    (h : r.namedColumns names = .ok removed) {c : Column} (hc : c ∈ removed) :
    c ∈ r.columns ∧ c.name ∈ names := by
  obtain ⟨name, hname, hfound⟩ := mapM_ok_mem h hc
  cases hcolumn : r.column? name with
  | none =>
      rw [hcolumn] at hfound
      cases hfound
  | some found =>
      rw [hcolumn] at hfound
      cases hfound
      have hn : c.name = name := by simpa using List.find?_some hcolumn
      exact ⟨List.mem_of_find?_eq_some hcolumn, hn ▸ hname⟩

theorem mem_namedColumns {r : Report} {names : List String} {removed : List Column}
    (h : r.namedColumns names = .ok removed) {name : String} (hname : name ∈ names) :
    ∃ c ∈ removed, c.name = name := by
  obtain ⟨c, hc, hfound⟩ := mem_mapM_ok h hname
  cases hcolumn : r.column? name with
  | none =>
      rw [hcolumn] at hfound
      cases hfound
  | some found =>
      rw [hcolumn] at hfound
      cases hfound
      exact ⟨c, hc, by simpa using List.find?_some hcolumn⟩

/-- The target of a column goes exactly when the column of that name goes: no other column has an
equal target, since it would have the same name. -/
theorem erase_source (hbuilt : ∀ c ∈ columns, c.Built)
    (hdistinct : (columns.map Column.name).Nodup) (removed : Column) :
    (columns.map Column.source).erase removed.source
      = (columns.filter fun c => c.source ≠ removed.source).map Column.source := by
  induction columns with
  | nil => rfl
  | cons c columns ih =>
      rw [List.map_cons, List.nodup_cons] at hdistinct
      rw [List.forall_mem_cons] at hbuilt
      have ih := ih hbuilt.2 hdistinct.2
      rw [List.map_cons]
      by_cases heq : c.source = removed.source
      -- This target goes, and none further on is equal to it.
      · have hrest : ∀ d ∈ columns, decide (d.source ≠ removed.source) = true := by
          intro d hd
          rw [decide_eq_true_eq]
          intro hsame
          have hname := hbuilt.1.name_eq (hbuilt.2 d hd) (heq.trans hsame.symm)
          exact hdistinct.1 (hname ▸ List.mem_map_of_mem hd)
        rw [heq, List.erase_cons_head, List.filter_cons_of_neg (by simp [heq]),
          List.filter_eq_self.mpr hrest]
      · rw [List.erase_cons_tail (by simpa using heq), ih,
          List.filter_cons_of_pos (by simpa using heq), List.map_cons]

/-- Taking out the targets of several columns one after the other. -/
theorem erase_sources (hbuilt : ∀ c ∈ columns, c.Built)
    (hdistinct : (columns.map Column.name).Nodup) (removed : List Column) :
    removed.foldl (fun items c => items.erase c.source) (columns.map Column.source)
      = (columns.filter fun c => c.source ∉ removed.map Column.source).map Column.source := by
  induction removed generalizing columns with
  | nil =>
      rw [List.filter_eq_self.mpr fun c _ => by simp]
      rfl
  | cons c removed ih =>
      rw [List.foldl_cons, erase_source hbuilt hdistinct c]
      have hkept : ∀ d ∈ columns.filter fun d => d.source ≠ c.source, d.Built :=
        fun d hd => hbuilt d (List.mem_filter.mp hd).1
      have hsub : ((columns.filter fun d => d.source ≠ c.source).map Column.name).Nodup :=
        hdistinct.sublist (List.filter_sublist.map Column.name)
      -- What is left after one removal is left to the others.
      rw [ih hkept hsub, List.filter_filter]
      congr 2
      funext d
      rw [List.map_cons, ← Bool.decide_and, decide_eq_decide, List.mem_cons, not_or, and_comm]

theorem lists_withoutColumn {q : Query} {items : List SelectItem} (h : q.Lists items)
    (c : Column) : (withoutColumn q c).Lists (items.erase c.source) := by
  have h := Query.lists_withoutTarget h c.source
  unfold withoutColumn
  cases c.path with
  | none => exact h
  | some path => exact Query.lists_withoutGroupKey (Query.lists_withoutSortKey h path) path

theorem lists_foldl_withoutColumn {q : Query} {items : List SelectItem} (h : q.Lists items)
    (removed : List Column) : (removed.foldl withoutColumn q).Lists
      (removed.foldl (fun items c => items.erase c.source) items) := by
  induction removed generalizing q items with
  | nil => exact h
  | cons c removed ih => exact ih (lists_withoutColumn h c)

/-- The columns that were found under some names are those with these names. -/
theorem source_mem_named {r : Report} (hr : r.Consistent) {names : List String}
    {removed : List Column} (h : r.namedColumns names = .ok removed) {c : Column}
    (hc : c ∈ r.columns) : c.source ∈ removed.map Column.source ↔ c.name ∈ names := by
  constructor
  · intro hsource
    obtain ⟨d, hd, heq⟩ := List.mem_map.mp hsource
    obtain ⟨hmem, hname⟩ := namedColumns_mem h hd
    rw [(hr.built c hc).name_eq (hr.built d hmem) heq.symm]
    exact hname
  · intro hname
    obtain ⟨d, hd, heq⟩ := mem_namedColumns h hname
    have hmem := (namedColumns_mem h hd).1
    rw [← List.inj_on_of_nodup_map hr.names_distinct hmem hc heq]
    exact List.mem_map_of_mem hd

/-- A query without the columns of some names lists the targets of the columns that are left. -/
theorem lists_removed {r : Report} (hr : r.Consistent) {names : List String}
    {removed : List Column} (h : r.namedColumns names = .ok removed) {q : Query}
    (hq : q.Lists (r.columns.map Column.source)) : (removed.foldl withoutColumn q).Lists
      ((r.columns.filter fun c => !names.contains c.name).map Column.source) := by
  have hlists := lists_foldl_withoutColumn hq removed
  rw [erase_sources hr.built hr.names_distinct removed] at hlists
  have hfilter : (r.columns.filter fun c => c.source ∉ removed.map Column.source)
      = r.columns.filter fun c => !names.contains c.name := by
    refine List.filter_congr fun c hc => ?_
    rw [decide_not, decide_eq_decide.mpr (source_mem_named hr h hc), List.contains_eq_mem]
  rw [hfilter] at hlists
  exact hlists

theorem consistent_removeColumns {r next : Report} {names : List String} (hr : r.Consistent)
    (h : r.removeColumns names = .ok next) : next.Consistent := by
  unfold removeColumns at h
  rw [Change.result_of_outcome (Change.outcome_removeColumns names r)] at h
  obtain ⟨removed, hremoved, h⟩ := bind_eq_ok.mp h
  obtain ⟨baseline, hrequired, h⟩ := bind_eq_ok.mp h
  have hbaseline := required_eq_ok.mp hrequired
  cases h
  refine ⟨Iff.rfl, nofun, nofun, ?_, ?_, ?_, ?_, hr.definitions_distinct⟩
  · rintro q ⟨⟩
    exact lists_removed hr hremoved (hr.baseline_lists baseline hbaseline)
  · intro q hq
    obtain ⟨working, hworking, rfl⟩ := Option.map_eq_some_iff.mp hq
    exact lists_removed hr hremoved (hr.working_lists working hworking)
  · exact fun c hc => hr.built c (List.mem_filter.mp hc).1
  · exact hr.names_distinct.sublist (List.filter_sublist.map Column.name)

/-! ## Arrays and definitions -/

theorem lists_withArray {q : Query} {items : List SelectItem} (h : q.Lists items)
    (target : SelectItem) (converted : List Column) :
    (withArray q target converted).select?.isSome := by
  have hlists : (converted.foldl (fun q c => q.withoutTarget c.source) q).Lists
      (converted.foldl (fun items c => items.erase c.source) items) := by
    induction converted generalizing q items with
    | nil => exact h
    | cons c converted ih => exact ih (Query.lists_withoutTarget h c.source)
  exact (Query.lists_withLeadingTarget hlists target).isSelect

theorem consistent_convertToArray {r next : Report} {name : String} {names : List String}
    (hr : r.Consistent) (h : r.convertToArray name names = .ok next) : next.Consistent := by
  unfold convertToArray at h
  rw [Change.result_of_outcome (Change.outcome_convertToArray name names r)] at h
  obtain ⟨converted, _, h⟩ := bind_eq_ok.mp h
  obtain ⟨target, _, h⟩ := bind_eq_ok.mp h
  obtain ⟨baseline, hrequired, h⟩ := bind_eq_ok.mp h
  obtain ⟨columns, hcolumns, h⟩ := bind_eq_ok.mp h
  have hlists := hr.baseline_lists baseline (required_eq_ok.mp hrequired)
  cases h
  exact consistent_adopt (lists_withArray hlists target converted) hcolumns
    hr.definitions_distinct rfl rfl rfl rfl

/-- A definition is added only if no other one is for the same column. -/
theorem addDefinition_eq_ok {r next : Report} {d : Definition} (h : r.addDefinition d = .ok next) :
    d.column ∉ r.definitions.map Definition.column
      ∧ next = { r with definitions := r.definitions ++ [d] } := by
  unfold addDefinition at h
  rw [Change.result_of_outcome (Change.outcome_addDefinition d r)] at h
  by_cases hfound : (r.definition? d.column).isSome = true
  · rw [if_pos hfound] at h
    cases h
  · rw [if_neg hfound] at h
    refine ⟨?_, (Except.ok.inj h).symm⟩
    intro hmem
    obtain ⟨d', hd', hcolumn⟩ := List.mem_map.mp hmem
    refine hfound (List.find?_isSome.mpr ⟨d', hd', ?_⟩)
    rw [hcolumn]
    exact beq_self_eq_true _

theorem consistent_addDefinition {r next : Report} {d : Definition} (hr : r.Consistent)
    (h : r.addDefinition d = .ok next) : next.Consistent := by
  obtain ⟨hnew, rfl⟩ := addDefinition_eq_ok h
  refine { hr with definitions_distinct := ?_ }
  rw [List.map_append, List.nodup_append]
  refine ⟨hr.definitions_distinct, List.nodup_singleton _, ?_⟩
  rintro column hcolumn _ hd rfl
  exact hnew (List.mem_singleton.mp hd ▸ hcolumn)

/-! ## Filters and order -/

theorem lists_filtered {q filter : Query} {params : List Parameter} {items : List SelectItem}
    (hq : q.Lists items) (h : filtered q params = .ok filter) : filter.Lists items := by
  unfold filtered at h
  split at h
  · cases h
    exact hq
  · obtain ⟨e, _, h⟩ := bind_eq_ok.mp h
    cases h
    exact Query.lists_withFilter hq e

/-- The query that parameters are added to is there only if the baseline is. -/
theorem filterBase_lists {r : Report} {q : Query} {params : List Parameter} (hr : r.Consistent)
    (h : r.filterBase params = .ok q) :
    ∃ baseline, r.baseline = some baseline ∧ q.Lists (r.columns.map Column.source) := by
  have of_required : r.required = .ok q →
      ∃ baseline, r.baseline = some baseline ∧ q.Lists (r.columns.map Column.source) := by
    intro hrequired
    have hbaseline := required_eq_ok.mp hrequired
    exact ⟨q, hbaseline, hr.baseline_lists q hbaseline⟩
  unfold filterBase at h
  cases hworking : r.working with
  | none =>
      rw [hworking] at h
      exact of_required h
  | some working =>
      -- Only without parameters is the working copy itself filtered on.
      rw [hworking] at h
      dsimp only at h
      by_cases hnone : params.isEmpty = true
      · rw [if_pos hnone] at h
        cases h
        cases hbaseline : r.baseline with
        | none => cases hworking.symm.trans (hr.working_needs_baseline hbaseline)
        | some baseline => exact ⟨baseline, rfl, hr.working_lists q hworking⟩
      · rw [if_neg hnone] at h
        exact of_required h

/-- A working copy made from a query with the report's targets. -/
theorem consistent_working {r : Report} {q working baseline : Query} {params : List Parameter}
    (hr : r.Consistent) (hbaseline : r.baseline = some baseline)
    (hq : q.Lists (r.columns.map Column.source))
    (h : filtered ((q.withLimit r.limit).withOffset r.offset) params = .ok working) :
    ({ r with working := some working } : Report).Consistent := by
  refine { hr with working_needs_baseline := ?_, working_lists := ?_ }
  · intro hnone
    rw [hbaseline] at hnone
    cases hnone
  · rintro q' ⟨⟩
    exact lists_filtered (Query.lists_withOffset (Query.lists_withLimit hq _) _) h

theorem consistent_applyParams {r next : Report} {params : List Parameter} (hr : r.Consistent)
    (h : r.applyParams params = .ok next) : next.Consistent := by
  unfold applyParams at h
  rw [Change.result_of_outcome (Change.outcome_applyParams params r)] at h
  obtain ⟨q, hq, h⟩ := bind_eq_ok.mp h
  obtain ⟨working, hworking, h⟩ := bind_eq_ok.mp h
  obtain ⟨baseline, hbaseline, hlists⟩ := filterBase_lists hr hq
  cases h
  exact consistent_working hr hbaseline hlists hworking

theorem consistent_replaceFilter {r next : Report} {params : List Parameter} (hr : r.Consistent)
    (h : r.replaceFilter params = .ok next) : next.Consistent := by
  unfold replaceFilter at h
  rw [Change.result_of_outcome (Change.outcome_replaceFilter params r)] at h
  obtain ⟨baseline, hrequired, h⟩ := bind_eq_ok.mp h
  obtain ⟨working, hworking, h⟩ := bind_eq_ok.mp h
  have hbaseline := required_eq_ok.mp hrequired
  cases h
  exact consistent_working hr hbaseline
    (Query.lists_withFilter (hr.baseline_lists baseline hbaseline) none) hworking

theorem consistent_setOrder {r next : Report} {text : Option String} (hr : r.Consistent)
    (h : r.setOrder text = .ok next) : next.Consistent := by
  unfold setOrder at h
  rw [Change.result_of_outcome (Change.outcome_setOrder text r)] at h
  obtain ⟨order, _, h⟩ := bind_eq_ok.mp h
  cases h
  exact { hr with }

/-! ## Columns and saved forms -/

theorem map_changeFirst {α : Type} {name : String} {f : Column → Column} {g : Column → α}
    (hg : ∀ c, g (f c) = g c) (columns : List Column) :
    (mapColumn.changeFirst name f columns).map g = columns.map g := by
  induction columns with
  | nil => rfl
  | cons c columns ih =>
      unfold mapColumn.changeFirst
      split
      · rw [List.map_cons, List.map_cons, hg]
      · rw [List.map_cons, List.map_cons, ih]

theorem built_changeFirst {name : String} {f : Column → Column}
    (hf : ∀ c : Column, c.Built → (f c).Built) {columns : List Column}
    (h : ∀ c ∈ columns, c.Built) : ∀ c ∈ mapColumn.changeFirst name f columns, c.Built := by
  induction columns with
  | nil => exact h
  | cons c columns ih =>
      rw [List.forall_mem_cons] at h
      unfold mapColumn.changeFirst
      split
      · exact List.forall_mem_cons.mpr ⟨hf c h.1, h.2⟩
      · exact List.forall_mem_cons.mpr ⟨h.1, ih h.2⟩

theorem consistent_mapColumn {r : Report} (hr : r.Consistent) (name : String) (a : Attributes) :
    (r.mapColumn name (·.withAttributes a)).Consistent := by
  have hsources : (r.mapColumn name (·.withAttributes a)).columns.map Column.source
      = r.columns.map Column.source :=
    map_changeFirst (fun c => Column.withAttributes_source c a) r.columns
  have hnames : (r.mapColumn name (·.withAttributes a)).columns.map Column.name
      = r.columns.map Column.name :=
    map_changeFirst (fun c => Column.withAttributes_name c a) r.columns
  -- What is said about columns is said about their sources and names, which stay.
  refine { hr with
    columns_need_baseline := ?_, baseline_lists := ?_, working_lists := ?_, built := ?_
    names_distinct := ?_ }
  · intro hnone
    rw [← List.map_eq_nil_iff (f := Column.name), hnames, List.map_eq_nil_iff]
    exact hr.columns_need_baseline hnone
  · rw [hsources]
    exact hr.baseline_lists
  · rw [hsources]
    exact hr.working_lists
  · exact built_changeFirst (fun c hc => hc.withAttributes a) hr.built
  · rw [hnames]
    exact hr.names_distinct

theorem consistent_restoreColumns {r next : Report} {saved : List (String × Attributes)}
    (hr : r.Consistent) (h : r.restoreColumns saved = .ok next) : next.Consistent := by
  induction saved generalizing r with
  | nil =>
      cases h
      exact hr
  | cons entry saved ih =>
      unfold restoreColumns at h
      split at h
      · cases h
      · exact ih (consistent_mapColumn hr entry.1 entry.2) h

theorem consistent_restoreDefinitions {r next : Report} {saved : List Definition}
    (hr : r.Consistent) (h : r.restoreDefinitions saved = .ok next) : next.Consistent := by
  induction saved generalizing r with
  | nil =>
      cases h
      exact hr
  | cons definition saved ih =>
      obtain ⟨d, _, h⟩ := bind_eq_ok.mp h
      obtain ⟨added, hadded, h⟩ := bind_eq_ok.mp h
      exact ih (consistent_addDefinition hr hadded) h

theorem consistent_restoredQuery {previous : List Column} {saved : Saved.Report} {next : Report}
    (h : restoredQuery previous saved = .ok next) : next.Consistent := by
  unfold restoredQuery at h
  by_cases hblank : Text.isBlankText saved.sql = true
  · rw [if_pos hblank] at h
    cases h
    exact { consistent_empty with }
  · rw [if_neg hblank] at h
    refine consistent_setSql ?_ h
    exact List.nodup_nil

/-- A report is restored from an empty one; nothing of the report before gets into it but
attributes of columns. -/
theorem consistent_restored {previous : List Column} {saved : Saved.Report} {next : Report}
    (h : restored previous saved = .ok next) : next.Consistent := by
  obtain ⟨queried, hqueried, h⟩ := bind_eq_ok.mp h
  obtain ⟨restored, hrestored, h⟩ := bind_eq_ok.mp h
  have hr := consistent_restoredQuery hqueried
  exact consistent_restoreDefinitions (consistent_restoreColumns hr hrestored) h

theorem consistent_load {r next : Report} {saved : Saved.Report} (h : r.load saved = .ok next) :
    next.Consistent := by
  unfold load at h
  rw [Change.result_of_outcome (Change.outcome_load saved r)] at h
  obtain ⟨settings, _, h⟩ := bind_eq_ok.mp h
  obtain ⟨restored, hrestored, h⟩ := bind_eq_ok.mp h
  cases h
  exact { consistent_restored hrestored with }

end Report

/-! ## Every run -/

theorem Operation.consistent_result {op : Operation} {r next : Report} (hr : r.Consistent)
    (h : op.change.result r = .ok next) : next.Consistent := by
  cases op with
  | setSql text => exact Report.consistent_setSql hr.definitions_distinct h
  | removeColumns names => exact Report.consistent_removeColumns hr h
  | convertToArray name names => exact Report.consistent_convertToArray hr h
  | addDefinition d => exact Report.consistent_addDefinition hr h
  | applyParams params => exact Report.consistent_applyParams hr h
  | replaceFilter params => exact Report.consistent_replaceFilter hr h
  | setOrder text => exact Report.consistent_setOrder hr h
  | load saved => exact Report.consistent_load h

namespace Report

/-- One thing that may be done to a report: a call, whether it fails or not, or an assignment to
what is open to assignment in the report or in one of its columns. -/
inductive Step (r : Report) : Report → Prop where
  | call (op : Operation) : Step r (op.change.outcome r).2
  | caption (caption : Option String) : Step r { r with caption }
  | limit (limit : Option Nat) : Step r { r with limit }
  | offset (offset : Option Nat) : Step r { r with offset }
  | settings (settings : Document.Members) : Step r { r with settings }
  | columnMatch (columnMatch : ColumnMatch) : Step r { r with columnMatch }
  | column (name : String) (a : Attributes) : Step r (r.mapColumn name (·.withAttributes a))

/-- The reports that steps lead to from the empty report. -/
inductive Reachable : Report → Prop where
  | empty : Reachable {}
  | step {r next : Report} : Reachable r → Step r next → Reachable next

theorem Step.consistent {r next : Report} (hr : r.Consistent) (h : Step r next) :
    next.Consistent := by
  cases h with
  | call op =>
      rw [Operation.outcome_change]
      cases hresult : op.change.result r with
      | ok changed => exact Operation.consistent_result hr hresult
      | error e => exact hr
  | caption _ => exact { hr with }
  | limit _ => exact { hr with }
  | offset _ => exact { hr with }
  | settings _ => exact { hr with }
  | columnMatch _ => exact { hr with }
  | column name a => exact consistent_mapColumn hr name a

theorem Reachable.consistent {r : Report} (h : Reachable r) : r.Consistent := by
  induction h with
  | empty => exact consistent_empty
  | step _ hstep ih => exact hstep.consistent ih

/-- In every report that can come about, text, baseline, working copy and columns agree. -/
theorem reachable_agrees {r : Report} (h : Reachable r) : r.Agrees :=
  h.consistent.agrees

/-- A report that has got a query and lost a column of it. -/
theorem agrees_after_removal :
    ∃ r, Reachable r ∧ r.columns.map Column.name = ["name"] ∧ r.baseline.isSome ∧ r.Agrees := by
  have h := Reachable.empty.step (.call (.setSql "SELECT id, name FROM t"))
  have h := h.step (.call (.removeColumns ["id"]))
  exact ⟨_, h, by decide +kernel, by decide +kernel, reachable_agrees h⟩

end Report

end QueryReport
