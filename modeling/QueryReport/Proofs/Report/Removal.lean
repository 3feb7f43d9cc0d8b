import Mathlib.Data.List.Dedup
import Mathlib.Data.List.Perm.Basic
import QueryReport.Proofs.Report.Literal
import QueryReport.Proofs.Report.Viewing

/-!
# `QueryReport.Proofs.Report.Removal`: removing columns in any order

Taking columns out of a query is a fold of `withoutColumn` over the columns that were found.  Its
steps can be swapped (`withoutColumn_comm`), and a step that is repeated changes nothing as long as
no target occurs twice (`withoutColumn_again`), which a consistent report sees to.  So only the set
of names counts (`removeColumns_congr`), and names may be spread over several calls
(`removeColumns_append`).

Filters and paging stand beside what a removal touches: `filtered_without` and `paged_without` say
so of a query, `interchanges_applyParams` and `interchanges_replaceFilter` of a report.
`removal_commutes` puts all of this together.
-/

set_option autoImplicit false

namespace QueryReport

open Sql QueryReport.Filter

/-! ## Folding steps that commute -/

section
variable {α β : Type} {f : β → α → β}

/-- A step that is made again later need not be made now. -/
theorem foldl_of_mem [RightCommutative f] {P : β → Prop}
    (hagain : ∀ b a, P b → f (f b a) a = f b a) {b : β} (hb : P b) {a : α} {l : List α}
    (ha : a ∈ l) : l.foldl f (f b a) = l.foldl f b := by
  classical
  have hperm := List.perm_cons_erase ha
  calc l.foldl f (f b a)
      = (a :: l.erase a).foldl f (f b a) := hperm.foldl_eq _
    _ = (l.erase a).foldl f (f b a) := by rw [List.foldl_cons, hagain b a hb]
    _ = (a :: l.erase a).foldl f b := rfl
    _ = l.foldl f b := (hperm.foldl_eq _).symm

theorem foldl_dedup [DecidableEq α] [RightCommutative f] {P : β → Prop}
    (hkeep : ∀ b a, P b → P (f b a)) (hagain : ∀ b a, P b → f (f b a) a = f b a) {b : β}
    (hb : P b) (l : List α) : l.dedup.foldl f b = l.foldl f b := by
  induction l generalizing b with
  | nil => rfl
  | cons a l ih =>
      by_cases ha : a ∈ l
      · rw [List.dedup_cons_of_mem ha, ih hb, List.foldl_cons, foldl_of_mem hagain hb ha]
      · rw [List.dedup_cons_of_notMem ha, List.foldl_cons, List.foldl_cons, ih (hkeep b a hb)]

/-- Where steps can be swapped and made again, only the set of steps counts. -/
theorem foldl_congr_mem [RightCommutative f] {P : β → Prop}
    (hkeep : ∀ b a, P b → P (f b a)) (hagain : ∀ b a, P b → f (f b a) a = f b a) {b : β}
    (hb : P b) {l₁ l₂ : List α} (h : ∀ a, a ∈ l₁ ↔ a ∈ l₂) : l₁.foldl f b = l₂.foldl f b := by
  classical
  have hperm : l₁.dedup.Perm l₂.dedup := by
    rw [List.perm_ext_iff_of_nodup l₁.nodup_dedup l₂.nodup_dedup]
    intro a
    rw [List.mem_dedup, List.mem_dedup, h]
  rw [← foldl_dedup hkeep hagain hb l₁, ← foldl_dedup hkeep hagain hb l₂, hperm.foldl_eq]

end

namespace Report

/-! ## A query without a column -/

/-- An expression is a reference to the column. -/
def isReference (c : Column) (e : Expr) : Bool := c.path.any e.refersTo

/-- A `SELECT` without a column. -/
def selectWithout (s : Select) (c : Column) : Select :=
  { s with
    targets := .ofList (s.targets.toList.erase c.source)
    groupBy := .ofList (s.groupBy.toList.filter fun e => !isReference c e) }

theorem orderWithout_eq (keys : List OrderKey) (c : Column) :
    orderWithout keys c = keys.filter fun k => !isReference c k.expr := by
  unfold orderWithout isReference
  cases c.path with
  | none => simp
  | some path => rfl

theorem withoutColumn_eq (q : Query) (c : Column) : withoutColumn q c =
    { q.mapSelect (selectWithout · c) with
      order := .ofList (orderWithout q.order.toList c) } := by
  obtain ⟨recursive, tables, body, order, limit, offset, offsetWord, fetch, locks, form⟩ := q
  unfold withoutColumn orderWithout selectWithout isReference
  cases hpath : c.path with
  | none => cases body <;> simp [Query.withoutTarget, Query.mapSelect]
  | some path =>
      cases body <;>
        simp [Query.withoutTarget, Query.withoutSortKey, Query.withoutGroupKey, Query.mapSelect]

theorem orderWithout_comm (keys : List OrderKey) (c d : Column) :
    orderWithout (orderWithout keys c) d = orderWithout (orderWithout keys d) c := by
  rw [orderWithout_eq, orderWithout_eq, orderWithout_eq, orderWithout_eq, List.filter_comm]

theorem orderWithout_again (keys : List OrderKey) (c : Column) :
    orderWithout (orderWithout keys c) c = orderWithout keys c := by
  rw [orderWithout_eq, orderWithout_eq, List.filter_filter]
  simp only [Bool.and_self]

theorem selectWithout_comm (s : Select) (c d : Column) :
    selectWithout (selectWithout s c) d = selectWithout (selectWithout s d) c := by
  simp only [selectWithout, SelectItems.toList_ofList, Exprs.toList_ofList,
    List.filter_comm fun e => !isReference c e, List.erase_comm c.source d.source]

/-- Of a target that occurs once nothing is left after one removal. -/
theorem selectWithout_again {s : Select} (hs : s.targets.toList.Nodup) (c : Column) :
    selectWithout (selectWithout s c) c = selectWithout s c := by
  have herase : (s.targets.toList.erase c.source).erase c.source
      = s.targets.toList.erase c.source :=
    List.erase_of_not_mem hs.not_mem_erase
  simp only [selectWithout, SelectItems.toList_ofList, Exprs.toList_ofList, herase,
    List.filter_filter, Bool.and_self]

theorem withoutColumn_comm (q : Query) (c d : Column) :
    withoutColumn (withoutColumn q c) d = withoutColumn (withoutColumn q d) c := by
  obtain ⟨recursive, tables, body, order, limit, offset, offsetWord, fetch, locks, form⟩ := q
  simp only [withoutColumn_eq, OrderKeys.toList_ofList]
  cases body <;> simp [Query.mapSelect, selectWithout_comm _ c d, orderWithout_comm _ c d]

theorem withoutColumn_again {q : Query} (hq : q.targets.Nodup) (c : Column) :
    withoutColumn (withoutColumn q c) c = withoutColumn q c := by
  obtain ⟨recursive, tables, body, order, limit, offset, offsetWord, fetch, locks, form⟩ := q
  simp only [withoutColumn_eq, OrderKeys.toList_ofList]
  cases body with
  | select s =>
      have hs : s.targets.toList.Nodup := hq
      simp [Query.mapSelect, selectWithout_again hs, orderWithout_again]
  | _ => simp [Query.mapSelect, orderWithout_again]

theorem targets_withoutColumn (q : Query) (c : Column) :
    (withoutColumn q c).targets = q.targets.erase c.source := by
  obtain ⟨recursive, tables, body, order, limit, offset, offsetWord, fetch, locks, form⟩ := q
  rw [withoutColumn_eq]
  cases body <;> simp [Query.mapSelect, Query.targets, Query.select?, selectWithout]

instance : RightCommutative withoutColumn := ⟨withoutColumn_comm⟩

instance : RightCommutative orderWithout := ⟨orderWithout_comm⟩

/-- Of a query whose targets differ, the set of columns counts that are taken out. -/
theorem foldl_withoutColumn_congr {q : Query} (hq : q.targets.Nodup) {removed again : List Column}
    (h : ∀ c, c ∈ removed ↔ c ∈ again) :
    removed.foldl withoutColumn q = again.foldl withoutColumn q := by
  refine foldl_congr_mem (P := fun q => q.targets.Nodup) ?_ ?_ hq h
  · intro q c hq
    rw [targets_withoutColumn]
    exact hq.erase _
  · intro q c hq
    exact withoutColumn_again hq c

theorem foldl_orderWithout_congr (keys : List OrderKey) {removed again : List Column}
    (h : ∀ c, c ∈ removed ↔ c ∈ again) :
    removed.foldl orderWithout keys = again.foldl orderWithout keys :=
  foldl_congr_mem (P := fun _ => True) (fun _ _ _ => trivial)
    (fun keys c _ => orderWithout_again keys c) trivial h

/-! ## Filters and paging beside it -/

theorem paged_without (q : Query) (removed : List Column) (limit offset : Option Nat) :
    removed.foldl withoutColumn ((q.withLimit limit).withOffset offset)
      = ((removed.foldl withoutColumn q).withLimit limit).withOffset offset := by
  refine List.foldl_hom (fun q : Query => (q.withLimit limit).withOffset offset) fun q c => ?_
  rw [withoutColumn_eq, withoutColumn_eq]
  unfold Query.mapSelect
  cases hbody : q.body <;> simp [Query.withLimit, Query.withOffset, hbody]

theorem withFilter_without (q : Query) (removed : List Column) (filter : Option Expr) :
    removed.foldl withoutColumn (q.withFilter filter)
      = (removed.foldl withoutColumn q).withFilter filter := by
  refine List.foldl_hom (Query.withFilter · filter) fun q c => ?_
  obtain ⟨_, _, body, _, _, _, _, _, _, _⟩ := q
  rw [withoutColumn_eq, withoutColumn_eq]
  cases body <;> rfl

theorem filter?_without (q : Query) (removed : List Column) :
    (removed.foldl withoutColumn q).filter? = q.filter? := by
  refine List.foldlRecOn (motive := fun p => p.filter? = q.filter?) removed withoutColumn rfl ?_
  intro p hp c _
  rw [← hp, withoutColumn_eq]
  obtain ⟨_, _, body, _, _, _, _, _, _, _⟩ := p
  cases body <;> rfl

/-- Predicates are merged with the same filter whether columns have been taken out or not. -/
theorem filtered_without (q : Query) (removed : List Column) (params : List Parameter) :
    filtered (removed.foldl withoutColumn q) params
      = (fun q => removed.foldl withoutColumn q) <$> filtered q params := by
  unfold filtered
  rw [filter?_without]
  by_cases hnone : params.isEmpty = true
  · rw [if_pos hnone, if_pos hnone]
    rfl
  · rw [if_neg hnone, if_neg hnone]
    dsimp only
    cases liftFault (liftFilter (mergedFilter q.filter?
      (" AND ".intercalate (params.map Parameter.sql)))) with
    | error e => rfl
    | ok filter => exact congrArg Except.ok (withFilter_without q removed filter).symm

/-! ## A report without columns -/

variable {r next : Report} {q : Query} {names xs ys : List String}
  {removed first second : List Column} {params : List Parameter}

/-- The report without the columns that were found under some names in its query. -/
def reduced (r : Report) (q : Query) (names : List String) (removed : List Column) : Report :=
  { r with
    sql := some (removed.foldl withoutColumn q).text
    baseline := some (removed.foldl withoutColumn q)
    working := r.working.map fun q => removed.foldl withoutColumn q
    columns := r.columns.filter fun c => !names.contains c.name
    order := (r.order.map fun keys => removed.foldl orderWithout keys).filter (!·.isEmpty) }

theorem removeColumns_of_named (h : r.namedColumns names = .ok removed)
    (hq : r.baseline = some q) : r.removeColumns names = .ok (r.reduced q names removed) :=
  removeColumns_eq_ok.mpr ⟨removed, q, h, hq, rfl⟩

/-- Names of columns are found. -/
theorem exists_namedColumns (h : ∀ name ∈ names, name ∈ r.columns.map Column.name) :
    ∃ removed, r.namedColumns names = .ok removed := by
  induction names with
  | nil => exact ⟨[], rfl⟩
  | cons name names ih =>
      rw [List.forall_mem_cons] at h
      obtain ⟨removed, hremoved⟩ := ih h.2
      obtain ⟨c, hc, hname⟩ := List.mem_map.mp h.1
      have hsome : (r.column? name).isSome :=
        List.find?_isSome.mpr ⟨c, hc, beq_iff_eq.mpr hname⟩
      obtain ⟨found, hfound⟩ := Option.isSome_iff_exists.mp hsome
      refine ⟨found :: removed, ?_⟩
      unfold namedColumns at hremoved ⊢
      rw [List.mapM_cons, hfound, hremoved]
      rfl

theorem mem_named_iff (hr : r.Consistent) (h : r.namedColumns names = .ok removed) {c : Column} :
    c ∈ removed ↔ c ∈ r.columns ∧ c.name ∈ names := by
  constructor
  · exact namedColumns_mem h
  · rintro ⟨hc, hname⟩
    obtain ⟨d, hd, heq⟩ := mem_namedColumns h hname
    have hmem := (namedColumns_mem h hd).1
    rw [← List.inj_on_of_nodup_map hr.names_distinct hmem hc heq]
    exact hd

/-- No target is listed twice, since each gives its name to a column. -/
theorem sources_distinct (hr : r.Consistent) : (r.columns.map Column.source).Nodup := by
  refine List.Nodup.map_on ?_ hr.names_distinct.of_map
  intro c hc d hd hsource
  have hname := (hr.built c hc).name_eq (hr.built d hd) hsource
  exact List.inj_on_of_nodup_map hr.names_distinct hc hd hname

/-! ### Order and repetition of names -/

/-- Columns that are named in any order, any number of times, leave the same report. -/
theorem removeColumns_congr (hr : r.Consistent) (hq : r.baseline = some q)
    (hnames : ∀ name ∈ xs, name ∈ r.columns.map Column.name) (h : ∀ name, name ∈ xs ↔ name ∈ ys) :
    ∃ next, r.removeColumns xs = .ok next ∧ r.removeColumns ys = .ok next := by
  obtain ⟨first, hfirst⟩ := exists_namedColumns hnames
  obtain ⟨second, hsecond⟩ :=
    exists_namedColumns fun name hname => hnames name ((h name).mpr hname)
  have hmem : ∀ c, c ∈ first ↔ c ∈ second := by
    intro c
    rw [mem_named_iff hr hfirst, mem_named_iff hr hsecond, h]
  -- No two columns have the same source, so a target is dropped just if its column is named.
  have hquery : ∀ q : Query, q.Lists (r.columns.map Column.source) →
      first.foldl withoutColumn q = second.foldl withoutColumn q := by
    intro q hq
    refine foldl_withoutColumn_congr ?_ hmem
    rw [hq.targets_eq]
    exact sources_distinct hr
  have hbaseline := hquery q (hr.baseline_lists q hq)
  have hworking : (r.working.map fun q => first.foldl withoutColumn q)
      = r.working.map fun q => second.foldl withoutColumn q :=
    Option.map_congr fun q hq => hquery q (hr.working_lists q hq)
  have hcolumns : (r.columns.filter fun c => !xs.contains c.name)
      = r.columns.filter fun c => !ys.contains c.name := by
    refine List.filter_congr fun c _ => ?_
    rw [List.contains_eq_mem, List.contains_eq_mem, decide_eq_decide.mpr (h c.name)]
  have horder : (r.order.map fun keys => first.foldl orderWithout keys)
      = r.order.map fun keys => second.foldl orderWithout keys :=
    Option.map_congr fun keys _ => foldl_orderWithout_congr keys hmem
  refine ⟨r.reduced q xs first, removeColumns_of_named hfirst hq, ?_⟩
  rw [removeColumns_of_named hsecond hq, reduced, reduced, hbaseline, hworking, hcolumns, horder]

/-! ### Several calls -/

/-- What was not named is found as before. -/
theorem namedColumns_reduced (hdisjoint : xs.Disjoint ys) :
    (r.reduced q xs removed).namedColumns ys = r.namedColumns ys := by
  induction ys with
  | nil => rfl
  | cons name ys ih =>
      rw [List.disjoint_cons_right] at hdisjoint
      have hcolumn : (r.reduced q xs removed).column? name = r.column? name := by
        unfold column? reduced
        rw [List.find?_filter]
        congr 1
        funext c
        by_cases hname : c.name = name
        · simp [hname, hdisjoint.1]
        · simp [hname]
      have hrest := ih hdisjoint.2
      unfold namedColumns at hrest ⊢
      rw [List.mapM_cons, List.mapM_cons, hcolumn, hrest]

theorem foldl_orderWithout_nil (removed : List Column) : removed.foldl orderWithout [] = [] := by
  induction removed with
  | nil => rfl
  | cons c removed ih => rw [List.foldl_cons, orderWithout_eq, List.filter_nil, ih]

/-- Sort keys that are all gone are no order, and stay none. -/
theorem order_reduced (order : Option (List OrderKey)) (first second : List Column) :
    ((((order.map fun keys => first.foldl orderWithout keys).filter (!·.isEmpty)).map
        fun keys => second.foldl orderWithout keys).filter (!·.isEmpty))
      = (order.map fun keys => (first ++ second).foldl orderWithout keys).filter (!·.isEmpty) := by
  cases order with
  | none => rfl
  | some keys =>
      rw [Option.map_some, Option.map_some, List.foldl_append]
      cases hkeys : first.foldl orderWithout keys with
      | nil =>
          rw [foldl_orderWithout_nil]
          rfl
      | cons key keys => rfl

theorem reduced_reduced :
    (r.reduced q xs first).reduced (first.foldl withoutColumn q) ys second
      = r.reduced q (xs ++ ys) (first ++ second) := by
  have hworking : ((r.working.map fun q => first.foldl withoutColumn q).map
        fun q => second.foldl withoutColumn q)
      = r.working.map fun q => (first ++ second).foldl withoutColumn q := by
    rw [Option.map_map]
    congr 1
    funext q
    rw [List.foldl_append]
    rfl
  -- A column is left by both if neither list names it.
  have hcolumns : ((r.columns.filter fun c => !xs.contains c.name).filter
        fun c => !ys.contains c.name)
      = r.columns.filter fun c => !(xs ++ ys).contains c.name := by
    rw [List.filter_filter]
    refine List.filter_congr fun c _ => ?_
    simp [Bool.and_comm]
  have horder := order_reduced r.order first second
  simp only [reduced, hworking, hcolumns, horder, List.foldl_append]

/-- Columns may be taken out in two calls. -/
theorem removeColumns_append (hq : r.baseline = some q)
    (hnames : ∀ name ∈ xs ++ ys, name ∈ r.columns.map Column.name) (hdisjoint : xs.Disjoint ys) :
    ∃ reduced next, r.removeColumns xs = .ok reduced ∧ reduced.removeColumns ys = .ok next
      ∧ r.removeColumns (xs ++ ys) = .ok next := by
  obtain ⟨first, hfirst⟩ :=
    exists_namedColumns fun name hname => hnames name (List.mem_append_left ys hname)
  obtain ⟨second, hsecond⟩ :=
    exists_namedColumns fun name hname => hnames name (List.mem_append_right xs hname)
  -- The columns of the second call are still there after the first, as the lists are disjoint.
  have hagain : (r.reduced q xs first).namedColumns ys = .ok second := by
    rw [namedColumns_reduced hdisjoint]
    exact hsecond
  have hboth : r.namedColumns (xs ++ ys) = .ok (first ++ second) := by
    unfold namedColumns at hfirst hsecond ⊢
    rw [List.mapM_append, hfirst, hsecond]
    rfl
  refine ⟨r.reduced q xs first, r.reduced q (xs ++ ys) (first ++ second),
    removeColumns_of_named hfirst hq, ?_, removeColumns_of_named hboth hq⟩
  rw [← reduced_reduced]
  exact removeColumns_of_named hagain rfl

/-! ### Filters -/

/-- Columns can be taken out before or after another operation: both ways lead to the same report,
or the other operation fails both times with the same error. -/
def Interchanges (r : Report) (names : List String)
    (operation : Report → Except Error Report) : Prop :=
  ∃ reduced, r.removeColumns names = .ok reduced
    ∧ ((∃ changed next, operation r = .ok changed ∧ changed.removeColumns names = .ok next
          ∧ operation reduced = .ok next)
      ∨ ∃ e, operation r = .error e ∧ operation reduced = .error e)

/-- The working copy that is made of a query, as an operation. -/
def workFrom (base : Query) (params : List Parameter) (r : Report) : Except Error Report := do
  let working ← filtered ((base.withLimit r.limit).withOffset r.offset) params
  pure { r with working := some working }

/-- A working copy can be made of a query before or after columns are taken out of it. -/
theorem interchanges_work {operation : Report → Except Error Report} {base : Query}
    (h : r.namedColumns names = .ok removed) (hq : r.baseline = some q)
    (hoperation : operation r = workFrom base params r)
    (hreduced : operation (r.reduced q names removed)
      = workFrom (removed.foldl withoutColumn base) params (r.reduced q names removed)) :
    r.Interchanges names operation := by
  refine ⟨r.reduced q names removed, removeColumns_of_named h hq, ?_⟩
  rw [hoperation, hreduced]
  have hlimit : (r.reduced q names removed).limit = r.limit := rfl
  have hoffset : (r.reduced q names removed).offset = r.offset := rfl
  unfold workFrom
  rw [hlimit, hoffset, ← paged_without, filtered_without]
  cases filtered ((base.withLimit r.limit).withOffset r.offset) params with
  | error e => exact .inr ⟨e, rfl, rfl⟩
  | ok working =>
      have hworking : ({ r with working := some working } : Report).namedColumns names
          = .ok removed := h
      exact .inl ⟨_, _, rfl, removeColumns_of_named hworking hq, rfl⟩

/-- Columns are taken out of the query that parameters are added to. -/
theorem filterBase_reduced (hq : r.baseline = some q) (params : List Parameter) :
    ∃ base, r.filterBase params = .ok base ∧ (r.reduced q names removed).filterBase params
      = .ok (removed.foldl withoutColumn base) := by
  cases params with
  | nil =>
      refine ⟨r.working.getD q, filterBase_nil hq, ?_⟩
      rw [filterBase_nil rfl]
      cases hworking : r.working <;> simp [reduced, hworking]
  | cons p ps =>
      refine ⟨q, ?_, ?_⟩
      · rw [filterBase_cons, required_eq_ok]
        exact hq
      · rw [filterBase_cons, required_eq_ok]
        rfl

theorem interchanges_applyParams (h : r.namedColumns names = .ok removed)
    (hq : r.baseline = some q) : r.Interchanges names (·.applyParams params) := by
  have happly : ∀ {r : Report} {base : Query}, r.filterBase params = .ok base →
      r.applyParams params = workFrom base params r := by
    intro r base hbase
    unfold applyParams
    rw [Change.result_of_outcome (Change.outcome_applyParams params r), hbase]
    rfl
  obtain ⟨base, hbase, hreduced⟩ := filterBase_reduced hq params
  exact interchanges_work h hq (happly hbase) (happly hreduced)

theorem interchanges_replaceFilter (h : r.namedColumns names = .ok removed)
    (hq : r.baseline = some q) : r.Interchanges names (·.replaceFilter params) := by
  have hreplace : ∀ {r : Report} {q : Query}, r.baseline = some q →
      r.replaceFilter params = workFrom (q.withFilter none) params r := by
    intro r q hq
    unfold replaceFilter
    rw [Change.result_of_outcome (Change.outcome_replaceFilter params r),
      required_eq_ok.mpr hq]
    rfl
  refine interchanges_work h hq (hreplace hq) ?_
  rw [withFilter_without]
  exact hreplace rfl

/-! ## Every report -/

/-- How columns are named and when they are taken out makes no difference: names may be spread over
two calls, may be repeated and may stand in any order, and a filter may be set before or after. -/
theorem removal_commutes (hr : Reachable r) (hsql : r.sql.isSome) :
    (∀ xs ys, (∀ name ∈ xs ++ ys, name ∈ r.columns.map Column.name) → xs.Disjoint ys →
        ∃ reduced next, r.removeColumns xs = .ok reduced ∧ reduced.removeColumns ys = .ok next
          ∧ r.removeColumns (xs ++ ys) = .ok next)
      ∧ (∀ xs ys, (∀ name ∈ xs, name ∈ r.columns.map Column.name) →
        (∀ name, name ∈ xs ↔ name ∈ ys) →
        ∃ next, r.removeColumns xs = .ok next ∧ r.removeColumns ys = .ok next)
      ∧ ∀ xs params, (∀ name ∈ xs, name ∈ r.columns.map Column.name) →
        r.Interchanges xs (·.applyParams params) ∧ r.Interchanges xs (·.replaceFilter params) := by
  obtain ⟨q, hq⟩ := Option.isSome_iff_exists.mp (hr.consistent.text_iff_baseline.mp hsql)
  refine ⟨?_, ?_, ?_⟩
  · intro xs ys hnames hdisjoint
    exact removeColumns_append hq hnames hdisjoint
  · intro xs ys hnames hmem
    exact removeColumns_congr hr.consistent hq hnames hmem
  · intro xs params hnames
    obtain ⟨removed, hremoved⟩ := exists_namedColumns hnames
    exact ⟨interchanges_applyParams hremoved hq, interchanges_replaceFilter hremoved hq⟩

/-- A filtered report loses its sort keys with its columns, the last one in a call of its own. -/
theorem sorted_columns_removed : ∃ r reduced next, Reachable r ∧ r.order.isSome ∧ r.working.isSome
    ∧ r.removeColumns ["id"] = .ok reduced ∧ reduced.removeColumns ["name"] = .ok next
    ∧ r.removeColumns ["id", "name"] = .ok next
    ∧ next.sql = some "SELECT age FROM t GROUP BY age" ∧ next.order = none
    ∧ r.Interchanges ["id", "name"] (·.applyParams []) := by
  let adopted : Report := ({} : Report).adopting
    "SELECT id, name, age FROM t GROUP BY id, name, age ORDER BY id, name DESC" rfl
  let r : Report := ((Change.applyParams []).outcome adopted).2
  let removed : Report := ((Change.removeColumns ["id", "name"]).outcome r).2
  have hr : Reachable r := (Reachable.empty.adopting rfl).step (.call (.applyParams []))
  obtain ⟨hsql, horder, hworking, hnames⟩ : r.sql.isSome ∧ r.order.isSome ∧ r.working.isSome
      ∧ ∀ name ∈ ["id", "name"], name ∈ r.columns.map Column.name := by decide +kernel
  obtain ⟨hremoved, htext, hnone⟩ : r.removeColumns ["id", "name"] = .ok removed
      ∧ removed.sql = some "SELECT age FROM t GROUP BY age" ∧ removed.order = none := by
    decide +kernel
  -- Two calls, one after the other, come to the same report as one.
  obtain ⟨hsplit, -, hfilter⟩ := removal_commutes hr hsql
  obtain ⟨reduced, next, hreduced, hnext, hboth⟩ := hsplit ["id"] ["name"] hnames (by simp)
  obtain rfl : removed = next := Except.ok.inj (hremoved.symm.trans hboth)
  exact ⟨r, reduced, removed, hr, horder, hworking, hreduced, hnext, hboth, htext, hnone,
    (hfilter _ [] hnames).1⟩

end Report

end QueryReport
