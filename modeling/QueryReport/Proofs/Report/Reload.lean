import QueryReport.Proofs.Filter.Definition
import QueryReport.Proofs.Report.Replay
import QueryReport.Proofs.Report.Viewing
import QueryReport.Proofs.Saved.Form
import QueryReport.Proofs.Sql.Lexing.Blank

/-!
# `QueryReport.Proofs.Report.Reload`: a saved report comes back

A report is restored by adopting the saved SQL, setting the saved attributes of the columns by their
names and adding the saved definitions.  Whatever report the saved form is loaded into, what comes
of it is the report that was saved, without its working copy and in the order of its SQL.

* `restoreColumns_eq`: setting saved attributes is a map over the columns.
* `restoreDefinitions_made`: definitions that were made are all added again.
* `load_save`: loading the saved form of a report.
* `reload` is the result for both ways of loading.
-/

set_option autoImplicit false

namespace QueryReport

open Sql QueryReport.Filter

namespace Report

variable {r next : Report} {q : Query} {columns : List Column}

/-! ## Columns -/

/-- The column with its saved attributes, if there are any. -/
def overlaid (saved : List (String × Attributes)) (c : Column) : Column :=
  match saved.lookup c.name with
  | some a => c.withAttributes a
  | none => c

/-- The attributes are set for the one column of that name, and then those that are left. -/
theorem map_overlaid_changeFirst {name : String} {a : Attributes}
    {saved : List (String × Attributes)} (hdistinct : (columns.map Column.name).Nodup)
    (hnew : name ∉ saved.map Prod.fst) :
    (mapColumn.changeFirst name (·.withAttributes a) columns).map (overlaid saved)
      = columns.map (overlaid ((name, a) :: saved)) := by
  induction columns with
  | nil => rfl
  | cons c columns ih =>
      rw [List.map_cons, List.nodup_cons] at hdistinct
      unfold mapColumn.changeFirst
      by_cases hname : c.name = name
      · subst hname
        -- Names are saved once, so no later entry overlays this one.
        have hnone : saved.lookup c.name = none := by
          refine List.lookup_eq_none_iff.mpr fun entry hentry => ?_
          rw [bne_iff_ne]
          rintro heq
          exact hnew (heq ▸ List.mem_map_of_mem hentry)
        -- No column further on has this name, so the entry does not reach any of them.
        have hrest : columns.map (overlaid saved)
            = columns.map (overlaid ((c.name, a) :: saved)) := by
          refine List.map_congr_left fun d hd => ?_
          have hne : d.name ≠ c.name := fun heq => hdistinct.1 (heq ▸ List.mem_map_of_mem hd)
          rw [overlaid, overlaid, List.lookup_cons, beq_eq_false_iff_ne.mpr hne]
        rw [if_pos rfl, List.map_cons, List.map_cons, hrest]
        congr 1
        rw [overlaid, overlaid, List.lookup_cons_self, Column.withAttributes_name, hnone]
      · rw [if_neg hname, List.map_cons, List.map_cons, ih hdistinct.2]
        congr 1
        rw [overlaid, overlaid, List.lookup_cons, beq_eq_false_iff_ne.mpr hname]

/-- Saved attributes are set if there is a column for each of them. -/
theorem restoreColumns_eq {saved : List (String × Attributes)}
    (hdistinct : (r.columns.map Column.name).Nodup) (hsaved : (saved.map Prod.fst).Nodup)
    (hnames : ∀ name ∈ saved.map Prod.fst, name ∈ r.columns.map Column.name) :
    r.restoreColumns saved = .ok { r with columns := r.columns.map (overlaid saved) } := by
  induction saved generalizing r with
  | nil =>
      have hnone : r.columns.map (overlaid []) = r.columns := List.map_id _
      rw [hnone]
      rfl
  | cons entry saved ih =>
      obtain ⟨name, a⟩ := entry
      rw [List.map_cons, List.nodup_cons] at hsaved
      rw [List.map_cons, List.forall_mem_cons] at hnames
      obtain ⟨c, hc, hname⟩ := List.mem_map.mp hnames.1
      have hfound : (r.column? name).isSome :=
        List.find?_isSome.mpr ⟨c, hc, beq_iff_eq.mpr hname⟩
      obtain ⟨found, hfound⟩ := Option.isSome_iff_exists.mp hfound
      have hkept : (r.mapColumn name (·.withAttributes a)).columns.map Column.name
          = r.columns.map Column.name :=
        map_changeFirst (fun c => Column.withAttributes_name c a) r.columns
      -- Setting attributes keeps the names, so the other entries still find their columns.
      have hrest := @ih (r.mapColumn name (·.withAttributes a)) (by rwa [hkept]) hsaved.2
        (by rw [hkept]; exact hnames.2)
      unfold restoreColumns
      rw [hfound]
      show (r.mapColumn name (·.withAttributes a)).restoreColumns saved = _
      rw [hrest]
      have hcolumns : (r.mapColumn name (·.withAttributes a)).columns.map (overlaid saved)
          = r.columns.map (overlaid ((name, a) :: saved)) :=
        map_overlaid_changeFirst hdistinct hsaved.1
      rw [hcolumns]
      rfl

/-- The columns of a report in their saved form. -/
def savedColumns (r : Report) : List (String × Attributes) :=
  r.columns.map fun c => (c.name, c.attributes)

theorem savedColumns_names (r : Report) :
    r.savedColumns.map Prod.fst = r.columns.map Column.name := by
  rw [savedColumns, List.map_map]
  rfl

/-- Columns that are built again have all their attributes back when those are set. -/
theorem overlaid_rebuilt (hdistinct : (r.columns.map Column.name).Nodup) (mode : ColumnMatch)
    (previous : List Column) (number : Nat) :
    (rebuilt mode previous number r.columns).map (overlaid (Saved.sortColumns r.savedColumns))
      = r.columns := by
  have hsaved : (r.savedColumns.map Prod.fst).Nodup := by
    rw [savedColumns_names]
    exact hdistinct
  have hown : ∀ c ∈ r.columns, ∀ (n : Nat) (p : Option Column),
      overlaid (Saved.sortColumns r.savedColumns) ((c.fresh n).inherit p) = c := by
    intro c hc n p
    have hlookup : (Saved.sortColumns r.savedColumns).lookup c.name = some c.attributes :=
      Saved.lookup_sortColumns hsaved (List.mem_map_of_mem hc)
    have hname : ((c.fresh n).inherit p).name = c.name := Column.inherit_name _ _
    rw [overlaid, hname, hlookup]
    -- Attributes are set as a whole: whatever was inherited is gone.
    cases p <;> rfl
  rw [map_rebuilt hown]
  exact List.map_id _

/-! ## Definitions -/

/-- A definition is added if no other one is for the same column. -/
theorem addDefinition_new {d : Definition} (h : d.column ∉ r.definitions.map Definition.column) :
    r.addDefinition d = .ok { r with definitions := r.definitions ++ [d] } := by
  have hnone : ¬ (r.definition? d.column).isSome = true := by
    rw [definition?, List.find?_isSome]
    rintro ⟨d', hd', heq⟩
    exact h (beq_iff_eq.mp heq ▸ List.mem_map_of_mem hd')
  unfold addDefinition
  rw [Change.result_of_outcome (Change.outcome_addDefinition d r), if_neg hnone]

theorem restoreDefinitions_made {definitions : List Definition}
    (hmade : ∀ d ∈ definitions, d.Made)
    (hdistinct : ((r.definitions ++ definitions).map Definition.column).Nodup) :
    r.restoreDefinitions definitions
      = .ok { r with definitions := r.definitions ++ definitions } := by
  induction definitions generalizing r with
  | nil =>
      rw [List.append_nil]
      rfl
  | cons d definitions ih =>
      rw [List.forall_mem_cons] at hmade
      have hnew : d.column ∉ r.definitions.map Definition.column := by
        rw [List.map_append, List.nodup_append] at hdistinct
        exact fun hmem => hdistinct.2.2 _ hmem _ List.mem_cons_self rfl
      -- The induction goes on with a report that has one definition more in front.
      have hassoc : r.definitions ++ d :: definitions = r.definitions ++ [d] ++ definitions :=
        List.append_cons _ _ _
      rw [hassoc] at hdistinct ⊢
      have hrest := @ih { r with definitions := r.definitions ++ [d] } hmade.2 hdistinct
      unfold restoreDefinitions
      rw [hmade.1.restore]
      show (r.addDefinition d >>= _) = _
      rw [addDefinition_new hnew]
      exact hrest

/-! ## Loading -/

/-- The text of the report, if it has one, is read as its baseline. -/
def ReadsBack (r : Report) : Prop :=
  ∀ text q, r.sql = some text → r.baseline = some q → parse text = .ok [.query q]

/-- What adopting the SQL of a saved form comes to, before anything else is restored.  The text may
be any that is read as the baseline. -/
theorem restoredQuery_text (hr : Reachable r) (hq : r.baseline = some q) {text : String}
    (hparse : parse text = .ok [.query q]) (previous : List Column) :
    ∃ limit offset, restoredQuery previous { r.save with sql := text } = .ok {
      limit, offset
      columnMatch := r.columnMatch
      columns := rebuilt r.columnMatch previous 1 r.columns
      sql := some text
      baseline := some q
      order := statedOrder q } := by
  -- A blank text is no statement, so a text that is read as a query is not blank.
  have hblank : ¬ Text.isBlankText text = true := fun h => by
    rw [parse_blank h] at hparse
    cases hparse
  have hselect := (hr.consistent.baseline_lists q hq).isSelect
  obtain ⟨limit, offset, hreplay⟩ := setSql_replay hr hq (selectOf_eq_ok.mpr ⟨hparse, hselect⟩)
    { columnMatch := r.columnMatch, columns := previous }
  refine ⟨limit, offset, ?_⟩
  rw [restoredQuery, if_neg hblank]
  exact hreplay

theorem restoredQuery_save (hr : Reachable r) (hread : r.ReadsBack) (previous : List Column) :
    ∃ limit offset, restoredQuery previous r.save = .ok {
      limit, offset
      columnMatch := r.columnMatch
      columns := rebuilt r.columnMatch previous 1 r.columns
      sql := r.sql
      baseline := r.baseline
      order := r.baseline.bind statedOrder } := by
  have htext := hr.consistent.text_iff_baseline
  cases hsql : r.sql with
  | none =>
      -- Without a text the saved SQL is blank, and nothing is adopted.
      have hbaseline : r.baseline = none := by
        rw [hsql] at htext
        simpa using htext
      have hblank : Text.isBlankText r.save.sql = true := by
        rw [save, hsql]
        rfl
      rw [restoredQuery, if_pos hblank, hbaseline, hr.consistent.columns_need_baseline hbaseline]
      exact ⟨none, none, rfl⟩
  | some text =>
      rw [hsql] at htext
      obtain ⟨q, hq⟩ := Option.isSome_iff_exists.mp (htext.mp rfl)
      have hsave : r.save = { r.save with sql := text } := by
        rw [save, hsql]
        rfl
      rw [hsave, hq]
      exact restoredQuery_text hr hq (hread text q hsql hq) previous

/-- What is restored once the query is: the columns have their attributes again, and the definitions
are all there. -/
theorem load_of_restoredQuery (hr : Reachable r) (hmade : ∀ d ∈ r.definitions, d.Made)
    {other : Report} {text : String} {sql : Option String} {order : Option (List OrderKey)}
    {limit offset : Option Nat}
    (hqueried : restoredQuery other.columns { r.save with sql := text } = .ok {
      limit, offset, sql, order
      columnMatch := r.columnMatch
      columns := rebuilt r.columnMatch other.columns 1 r.columns
      baseline := r.baseline }) :
    other.load { r.save with sql := text } = .ok { r with sql, order, working := none } := by
  have hdistinct := hr.consistent.names_distinct
  -- What there is after the query, with columns that still lack their saved attributes.
  let queried : Report := {
    limit, offset, sql, order
    columnMatch := r.columnMatch
    columns := rebuilt r.columnMatch other.columns 1 r.columns
    baseline := r.baseline }
  have hnames : queried.columns.map Column.name = r.columns.map Column.name :=
    rebuilt_names r.columns
  have hsorted : (r.save.columns.map Prod.fst).Perm (r.columns.map Column.name) := by
    rw [← savedColumns_names] at hdistinct ⊢
    exact (Saved.perm_sortColumns hdistinct).map Prod.fst
  have hcolumns : queried.restoreColumns r.save.columns
      = .ok { queried with columns := r.columns } := by
    have hoverlaid : queried.columns.map (overlaid r.save.columns) = r.columns :=
      overlaid_rebuilt hdistinct r.columnMatch other.columns 1
    rw [← hnames] at hdistinct hsorted
    rw [restoreColumns_eq hdistinct (hsorted.nodup_iff.mpr hdistinct)
      fun name hname => hsorted.mem_iff.mp hname, hoverlaid]
  have hdefinitions : ({ queried with columns := r.columns } : Report).restoreDefinitions
      r.save.definitions
        = .ok { queried with columns := r.columns, definitions := r.definitions } :=
    restoreDefinitions_made hmade hr.consistent.definitions_distinct
  have hrestored : restored other.columns { r.save with sql := text }
      = .ok { queried with columns := r.columns, definitions := r.definitions } := by
    unfold restored
    rw [hqueried]
    show (queried.restoreColumns r.save.columns >>= _) = _
    rw [hcolumns]
    exact hdefinitions
  exact load_eq_ok.mpr ⟨r.settings, _, rfl, hrestored, rfl⟩

/-- The saved form of a report, loaded into any report, gives the report again: without its working
copy, and in the order of its SQL. -/
theorem load_save (hr : Reachable r) (hmade : ∀ d ∈ r.definitions, d.Made) (hread : r.ReadsBack)
    (other : Report) : other.load r.save
      = .ok { r with working := none, order := r.baseline.bind statedOrder } := by
  obtain ⟨limit, offset, hqueried⟩ := restoredQuery_save hr hread other.columns
  exact load_of_restoredQuery hr hmade hqueried

/-- The same with any text that is read as the baseline in place of the report's own. -/
theorem load_save_text (hr : Reachable r) (hmade : ∀ d ∈ r.definitions, d.Made)
    (hq : r.baseline = some q) {text : String} (hparse : parse text = .ok [.query q])
    (other : Report) : other.load { r.save with sql := text }
      = .ok { r with sql := some text, working := none, order := statedOrder q } := by
  obtain ⟨limit, offset, hqueried⟩ := restoredQuery_text hr hq hparse other.columns
  rw [← hq] at hqueried
  exact load_of_restoredQuery hr hmade hqueried

/-- The working copy that filtering makes. -/
theorem working_applyParams (r : Report) (params : List Parameter) :
    (fun next : Report => next.working) <$> r.applyParams params = (do
      let q ← r.filterBase params
      let working ← filtered ((q.withLimit r.limit).withOffset r.offset) params
      pure (some working)) := by
  unfold applyParams
  rw [Change.result_of_outcome (Change.outcome_applyParams params r)]
  cases r.filterBase params with
  | error e => rfl
  | ok q =>
      show _ <$> (filtered _ _ >>= _) = (filtered _ _ >>= _)
      cases filtered ((q.withLimit r.limit).withOffset r.offset) params <;> rfl

/-- A report that can come about, whose definitions were made and whose text reads back, is restored
from its saved form, by itself or in place of the report that was saved.  What is restored has the
same saved form, the same baseline and the same columns, and filters make of it the same working
copy as they make of the baseline of the report. -/
theorem reload (hr : Reachable r) (hmade : ∀ d ∈ r.definitions, d.Made) (hread : r.ReadsBack) :
    ∃ restored, ofSaved r.save = .ok restored ∧ r.load r.save = .ok restored
      ∧ restored.save = r.save ∧ restored.baseline = r.baseline ∧ restored.columns = r.columns
      ∧ (∀ params, (fun next : Report => next.working) <$> restored.applyParams params
          = (fun next : Report => next.working)
              <$> ({ r with working := none } : Report).applyParams params)
      ∧ ∀ params, params ≠ [] → (fun next : Report => next.working) <$> restored.applyParams params
          = (fun next : Report => next.working) <$> r.applyParams params := by
  refine ⟨_, load_save hr hmade hread {}, load_save hr hmade hread r, rfl, rfl, rfl, ?_, ?_⟩
  · intro params
    rw [working_applyParams, working_applyParams]
    rfl
  · intro params hsome
    rw [working_applyParams, working_applyParams]
    cases params with
    | nil => exact absurd rfl hsome
    | cons p ps =>
        -- Parameters are added to the baseline, which is the same in both.
        rw [filterBase_cons, filterBase_cons]
        rfl

/-- A report with an edited column, a definition with a default that differs from itself, and a
limit that was cleared. -/
theorem reload_edited :
    ∃ r restored : Report, Reachable r ∧ r.definitions.map Definition.defaultValue = [.float .nan]
      ∧ r.limit = none ∧ r.columns.map (·.attributes.caption) = ["Key", "Lname"]
      ∧ ofSaved r.save = .ok restored ∧ restored.save = r.save ∧ restored.columns = r.columns := by
  let d : Definition := { Definition.new "id" with defaultValue := .float .nan }
  let edited : Attributes := { sequenceNo := 7, caption := "Key", hide := true }
  let first : Report :=
    ((Change.setSql "SELECT id, lower(name) AS lname FROM t LIMIT 5").outcome {}).2
  let r : Report := ((Change.addDefinition d).outcome
    { first.mapColumn "id" (·.withAttributes edited) with limit := none }).2
  have hr : Reachable r := (((Reachable.empty.step (.call (.setSql _))).step
    (.column "id" edited)).step (.limit none)).step (.call (.addDefinition d))
  have hdefinitions : r.definitions = [d] := by decide +kernel
  have hmade : ∀ d ∈ r.definitions, d.Made := by
    rw [hdefinitions]
    exact List.forall_mem_singleton.mpr
      (.described "id" "id" .string .text 1 (.float .nan) (.new "id"))
  -- The text is read as the query that it was adopted as.
  have hparse : ∀ text ∈ r.sql, ∀ q ∈ r.baseline, parse text = .ok [.query q] := by
    decide +kernel
  obtain ⟨restored, hsaved, -, hsave, -, hcolumns, -⟩ :=
    reload hr hmade fun text q htext hq => hparse text htext q hq
  exact ⟨r, restored, hr, by rw [hdefinitions]; rfl, by decide +kernel, by decide +kernel, hsaved,
    hsave, hcolumns⟩

end Report

end QueryReport
