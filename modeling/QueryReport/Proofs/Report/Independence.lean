import QueryReport.Proofs.Report.Literal
import QueryReport.Proofs.Report.Replay

/-!
# `QueryReport.Proofs.Report.Independence`: loading forgets the report before

A report is loaded with the columns of the report before, so that columns without saved attributes
take over theirs.  If there are saved attributes for every column, nothing of the report before is
left in what is loaded, and no failure depends on it.

Two loads are compared by their bare columns, those without any attributes.

* `buildColumns_bare`: whatever the columns before, the same targets give the same bare columns, or
  the same failure.
* `restoreColumns_pending`: attributes that are still to be set do not matter, which is the bridge
  between the two loads.
* `load_independent` is the result.
-/

set_option autoImplicit false

namespace QueryReport

open Sql

namespace Column

/-- The column without its attributes. -/
def bare (c : Column) : Column := c.withAttributes {}

/-- The column without its attributes if they are still to be set. -/
def pending (names : List String) (c : Column) : Column := if c.name ∈ names then c.bare else c

variable {c : Column} {name : String} {names : List String}

@[simp] theorem bare_name (c : Column) : c.bare.name = c.name := rfl

@[simp] theorem bare_withAttributes (c : Column) (a : Attributes) :
    (c.withAttributes a).bare = c.bare := rfl

@[simp] theorem withAttributes_bare (c : Column) (a : Attributes) :
    c.bare.withAttributes a = c.withAttributes a := rfl

@[simp] theorem bare_inherit (c : Column) (p : Option Column) : (c.inherit p).bare = c.bare := by
  cases p <;> rfl

@[simp] theorem pending_name (names : List String) (c : Column) :
    (c.pending names).name = c.name := by
  unfold pending
  split <;> rfl

theorem pending_of_mem (h : c.name ∈ names) : c.pending names = c.bare := if_pos h

theorem pending_of_not_mem (h : c.name ∉ names) : c.pending names = c := if_neg h

/-- What a column waits for after one more name is at least what it waits for without it. -/
theorem pending_pending_cons (name : String) (names : List String) (c : Column)
    (hname : c.name ≠ name) : (c.pending (name :: names)).pending names = c.pending names := by
  by_cases h : c.name ∈ names
  · rw [pending_of_mem (List.mem_cons_of_mem name h), pending_of_mem h]
    exact pending_of_mem h
  · rw [pending_of_not_mem fun hmem => (List.mem_cons.mp hmem).elim hname h]

end Column

namespace Report

variable {r : Report} {saved : List (String × Attributes)} {names : List String}

/-! ## Attributes that are still to be set -/

/-- The report without the attributes of columns that are still to be set. -/
def pending (names : List String) (r : Report) : Report :=
  { r with columns := r.columns.map (Column.pending names) }

theorem pending_names (names : List String) (r : Report) :
    (r.pending names).columns.map Column.name = r.columns.map Column.name := by
  show (r.columns.map _).map _ = _
  rw [List.map_map]
  exact List.map_congr_left fun c _ => Column.pending_name names c

theorem isSome_column? (r : Report) (name : String) :
    (r.column? name).isSome = true ↔ name ∈ r.columns.map Column.name := by
  simp [column?, List.find?_isSome]

/-- Setting the attributes of a column leaves no trace of those it had.  The names have to differ:
of two columns with one name only the first is set. -/
theorem pending_changeFirst {name : String} (a : Attributes) {columns : List Column}
    (hdistinct : (columns.map Column.name).Nodup) :
    (mapColumn.changeFirst name (·.withAttributes a)
        (columns.map (Column.pending (name :: names)))).map (Column.pending names)
      = (mapColumn.changeFirst name (·.withAttributes a) columns).map (Column.pending names) := by
  induction columns with
  | nil => rfl
  | cons c columns ih =>
      rw [List.map_cons, List.nodup_cons] at hdistinct
      rw [List.map_cons]
      unfold mapColumn.changeFirst
      rw [Column.pending_name]
      by_cases hname : c.name = name
      · -- This is the column that is set: whatever it waited for, its attributes are the new ones.
        subst hname
        rw [if_pos rfl, if_pos rfl, List.map_cons, List.map_cons,
          Column.pending_of_mem List.mem_cons_self, Column.withAttributes_bare, List.map_map]
        congr 1
        refine List.map_congr_left fun d hd => Column.pending_pending_cons _ _ d ?_
        exact fun heq => hdistinct.1 (heq ▸ List.mem_map_of_mem hd)
      · rw [if_neg hname, if_neg hname, List.map_cons, List.map_cons, ih hdistinct.2,
          Column.pending_pending_cons _ _ c hname]

/-- Attributes that are still to be set do not matter. -/
theorem restoreColumns_pending (hdistinct : (r.columns.map Column.name).Nodup) :
    (r.pending (saved.map Prod.fst)).restoreColumns saved = r.restoreColumns saved := by
  induction saved generalizing r with
  | nil =>
      have hnone : r.columns.map (Column.pending []) = r.columns :=
        List.map_id'' (fun c => Column.pending_of_not_mem List.not_mem_nil) _
      show (r.pending []).restoreColumns [] = _
      rw [pending, hnone]
  | cons entry saved ih =>
      obtain ⟨name, a⟩ := entry
      let waiting := r.pending (name :: saved.map Prod.fst)
      have hfound : (waiting.column? name).isSome = (r.column? name).isSome := by
        rw [Bool.eq_iff_iff, isSome_column?, isSome_column?, pending_names]
      have hkept : ∀ s : Report, (s.mapColumn name (·.withAttributes a)).columns.map Column.name
          = s.columns.map Column.name :=
        fun s => map_changeFirst (fun c => Column.withAttributes_name c a) s.columns
      -- After the first entry the two reports still differ, but only in what is set later on.
      have hfirst : (waiting.mapColumn name (·.withAttributes a)).pending (saved.map Prod.fst)
          = (r.mapColumn name (·.withAttributes a)).pending (saved.map Prod.fst) :=
        congrArg (fun columns => { r with columns }) (pending_changeFirst a hdistinct)
      have hrest : (waiting.mapColumn name (·.withAttributes a)).restoreColumns saved
          = (r.mapColumn name (·.withAttributes a)).restoreColumns saved := by
        rw [← ih (by rw [hkept, pending_names]; exact hdistinct), hfirst,
          ih (by rw [hkept]; exact hdistinct)]
      show waiting.restoreColumns ((name, a) :: saved) = _
      unfold restoreColumns
      cases hw : waiting.column? name with
      | none =>
          rw [hw] at hfound
          have hnone := Option.isNone_iff_eq_none.mp (Option.isSome_eq_false_iff.mp hfound.symm)
          rw [hnone]
      | some c =>
          rw [hw] at hfound
          obtain ⟨d, hd⟩ := Option.isSome_iff_exists.mp hfound.symm
          rw [hd]
          exact hrest

/-! ## Building from other columns -/

/-- The same targets give the same columns but for their attributes, or the same failure. -/
theorem buildColumns_bare (mode : ColumnMatch) (previous previous' : List Column)
    {found found' : List Column} (number : Nat) (items : List SelectItem)
    (hfound : found.map Column.name = found'.map Column.name) :
    List.map Column.bare <$> buildColumns mode previous number found items
      = List.map Column.bare <$> buildColumns mode previous' number found' items := by
  induction items generalizing number found found' with
  | nil => rfl
  | cons item items ih =>
      unfold buildColumns
      cases Column.make number item with
      | error e => rfl
      | ok c =>
          -- Whether a name is taken depends on the names found so far only.
          have hany : (found.any fun f => f.name == c.name)
              = found'.any fun f => f.name == c.name := by
            have hmap : ∀ columns : List Column, (columns.any fun f => f.name == c.name)
                = (columns.map Column.name).any (· == c.name) :=
              fun columns => by rw [List.any_map, Function.comp_def]
            rw [hmap, hmap, hfound]
          show _ <$> (if _ then _ else _ : Except Error (List Column))
            = _ <$> (if _ then _ else _ : Except Error (List Column))
          rw [hany]
          split
          · rfl
          · -- The two columns differ in what they inherit, which is attributes and nothing else.
            let first := c.inherit (inherited mode previous c)
            let first' := c.inherit (inherited mode previous' c)
            have hrest := @ih (found ++ [first]) (found' ++ [first']) (number + 1) (by
              rw [List.map_append, List.map_append, hfound, List.map_singleton,
                List.map_singleton, Column.inherit_name, Column.inherit_name])
            have hfirst : first.bare = first'.bare := by
              rw [Column.bare_inherit, Column.bare_inherit]
            have hcons : ∀ (d : Column) (rest : Except Error (List Column)),
                List.map Column.bare <$> ((d :: ·) <$> rest)
                  = (d.bare :: ·) <$> (List.map Column.bare <$> rest) :=
              fun d rest => by cases rest <;> rfl
            show _ <$> ((first :: ·) <$> buildColumns mode previous (number + 1) _ items)
              = _ <$> ((first' :: ·) <$> buildColumns mode previous' (number + 1) _ items)
            rw [hcons, hcons, hrest, hfirst]

/-- The report without any attributes of columns. -/
def bare (r : Report) : Report := { r with columns := r.columns.map Column.bare }

/-- Adopting a text gives the same report but for attributes of columns, or the same failure. -/
theorem setSql_bare (r : Report) (columns columns' : List Column) (text : String) :
    bare <$> ({ r with columns } : Report).setSql text
      = bare <$> ({ r with columns := columns' } : Report).setSql text := by
  unfold setSql
  rw [Change.result_of_outcome (Change.outcome_setSql text _),
    Change.result_of_outcome (Change.outcome_setSql text _)]
  cases selectOf text with
  | error e => rfl
  | ok q =>
      have hcolumns := @buildColumns_bare r.columnMatch columns columns' [] [] 1 q.targets rfl
      show bare <$> (buildColumns r.columnMatch columns 1 [] q.targets >>= _)
        = bare <$> (buildColumns r.columnMatch columns' 1 [] q.targets >>= _)
      -- The columns fail for both or for none; the clauses do not look at them.
      obtain ⟨e, he, he'⟩ | ⟨built, built', hbuilt, hbuilt', hbare⟩ := map_eq_map.mp hcolumns
      · rw [he, he']
      · rw [hbuilt, hbuilt']
        show bare <$> (statedCount "LIMIT" q.limit >>= _)
          = bare <$> (statedCount "LIMIT" q.limit >>= _)
        cases statedCount "LIMIT" q.limit with
        | error e => rfl
        | ok limit =>
            show bare <$> (statedCount "OFFSET" q.offset >>= _)
              = bare <$> (statedCount "OFFSET" q.offset >>= _)
            cases statedCount "OFFSET" q.offset with
            | error e => rfl
            | ok offset =>
                refine congrArg (fun columns => Except.ok { r with
                  limit, offset, columns
                  sql := some text
                  baseline := some q
                  working := none
                  order := statedOrder q }) hbare

theorem restoredQuery_bare (previous previous' : List Column) (saved : Saved.Report) :
    bare <$> restoredQuery previous saved = bare <$> restoredQuery previous' saved := by
  unfold restoredQuery
  split
  · rfl
  · exact setSql_bare { columnMatch := saved.columnMatch } previous previous' saved.sql

/-! ## Loading -/

/-- The saved form has attributes for every column of its SQL. -/
def Covered (saved : Saved.Report) : Prop :=
  ∀ q, selectOf saved.sql = .ok q → ∀ item ∈ q.targets, ∀ number name,
    Column.itemName number item = .ok name → name ∈ saved.columns.map Prod.fst

/-- The columns of the saved SQL are all waiting for their attributes. -/
theorem pending_restoredQuery {previous : List Column} {saved : Saved.Report}
    (hcovered : Covered saved) (h : restoredQuery previous saved = .ok r) :
    r.pending (saved.columns.map Prod.fst) = r.bare := by
  -- A column of the query has the name of its target, and the saved form covers those.
  have hnames : ∀ c ∈ r.columns, c.name ∈ saved.columns.map Prod.fst := by
    unfold restoredQuery at h
    split at h
    · cases h
      exact fun c hc => nomatch hc
    · obtain ⟨q, columns, limit, offset, hselect, hcolumns, -, -, rfl⟩ := setSql_eq_ok.mp h
      intro c hc
      obtain ⟨number, hname⟩ := (buildColumns_built hcolumns c hc).named
      refine hcovered q hselect c.source ?_ number c.name hname
      rw [← buildColumns_sources hcolumns]
      exact List.mem_map_of_mem hc
  have hcolumns : r.columns.map (Column.pending (saved.columns.map Prod.fst))
      = r.columns.map Column.bare :=
    List.map_congr_left fun c hc => Column.pending_of_mem (hnames c hc)
  exact congrArg (fun columns => { r with columns }) hcolumns

/-- If there are saved attributes for every column, what is restored does not depend on the columns
before. -/
theorem restored_independent {saved : Saved.Report} (hcovered : Covered saved)
    (previous previous' : List Column) : restored previous saved = restored previous' saved := by
  unfold restored
  obtain ⟨e, he, he'⟩ | ⟨r, r', hr, hr', hbare⟩ :=
    map_eq_map.mp (restoredQuery_bare previous previous' saved)
  · rw [he, he']
  · have hcolumns : r.restoreColumns saved.columns = r'.restoreColumns saved.columns := by
      rw [← restoreColumns_pending (consistent_restoredQuery hr).names_distinct,
        ← restoreColumns_pending (consistent_restoredQuery hr').names_distinct,
        pending_restoredQuery hcovered hr, pending_restoredQuery hcovered hr', hbare]
    rw [hr, hr']
    show (r.restoreColumns saved.columns >>= _) = (r'.restoreColumns saved.columns >>= _)
    rw [hcolumns]

/-- A saved form with attributes for every column of its SQL is loaded into any two reports with the
same outcome: both are left as they were by the same failure, or both become the same report. -/
theorem load_independent {saved : Saved.Report} (hcovered : Covered saved) (a b : Report) :
    (∃ e, (Change.load saved).outcome a = (.error e, a)
        ∧ (Change.load saved).outcome b = (.error e, b))
      ∨ ∃ next, (Change.load saved).outcome a = (.ok (), next)
        ∧ (Change.load saved).outcome b = (.ok (), next) := by
  rw [Change.outcome_load, Change.outcome_load, restored_independent hcovered b.columns a.columns]
  cases hloaded : (do
    let settings ← savedSettings saved
    let next ← restored a.columns saved
    pure ({ next with
      settings
      caption := saved.caption
      limit := saved.limit
      offset := saved.offset } : Report)) with
  | error e => exact .inl ⟨e, rfl, rfl⟩
  | ok next => exact .inr ⟨next, rfl, rfl⟩

/-- A report with an edited column of the same structure, a filter and an order of its own is no
different after the load from an empty one. -/
theorem load_over_edited :
    ∃ (saved : Saved.Report) (edited next : Report), Covered saved
      ∧ edited.columns.map (·.attributes.caption) = ["Key", "Name"]
      ∧ edited.working.isSome ∧ edited.order.isSome
      ∧ (Change.load saved).outcome edited = (.ok (), next)
      ∧ (Change.load saved).outcome {} = (.ok (), next) := by
  let saved : Saved.Report := {
    caption := none
    sql := "SELECT lower(id) AS code FROM t LIMIT 3"
    limit := none
    offset := none
    settings := .object .nil
    columnMatch := .fingerprint
    columns := [("code", { caption := "Code" })]
    definitions := [] }
  let adopted : Report :=
    ({} : Report).adopting "SELECT lower(id) AS id, name FROM t ORDER BY name" rfl
  let edited : Report := ((Change.applyParams []).outcome
    (adopted.mapColumn "id" (·.withAttributes { caption := "Key", hide := true }))).2
  -- The saved form tells the attributes of every column by name.
  have hcovered : Covered saved := by
    have hnames : ∀ q ∈ (selectOf saved.sql).toOption, ∀ item ∈ q.targets,
        ∀ name ∈ (Column.itemName 0 item).toOption, name ∈ saved.columns.map Prod.fst := by
      decide +kernel
    intro q hq item hitem number name hname
    refine hnames q (by rw [hq]; rfl) item hitem name ?_
    rw [Column.itemName_any 0 hname]
    rfl
  have hloads : ((Change.load saved).outcome edited).1.isOk := by decide +kernel
  obtain ⟨e, he, -⟩ | ⟨next, hedited, hempty⟩ := load_independent hcovered edited {}
  · rw [he] at hloads
    cases hloads
  · exact ⟨saved, edited, next, hcovered, by decide +kernel, by decide +kernel, by decide +kernel,
      hedited, hempty⟩

end Report

end QueryReport
