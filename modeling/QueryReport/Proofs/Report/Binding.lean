import QueryReport.Proofs.Filter.Rendering
import QueryReport.Proofs.Report.Filtering
import QueryReport.Proofs.Report.Replay
import QueryReport.Proofs.Report.Viewing
import QueryReport.Proofs.Sql.References

/-!
# `QueryReport.Proofs.Report.Binding`: filters on the columns of a report

A column that is a plain reference has a path, the values of the reference's parts with dots
between them.  A parameter on the path writes it into a predicate, and the predicate is read as SQL.
The path keeps no quotes, so what is read is a reference without quotes.

* `references_predicate`: a predicate refers to its column alone, once for each of its tests.
* `Reachable.bound_to_column`: if the path is a plain name, a parameter on it can be applied, and it
  refers to the very column exactly if no part of the reference is quoted or has a dot in it.
* `quoted_columns_not_bound`: of two quoted columns one cannot be filtered by at all, and a filter on
  the other is one on another column.
-/

set_option autoImplicit false

namespace QueryReport.Filter

open Sql Sql.Parser

/-! ## References of predicates -/

section References

variable {ws : List String}

theorem references_constant (c : Constant) : c.tree.references = [] := by
  cases c with
  | null => rfl
  | text value => rfl
  | number negative digits => cases negative <;> rfl

theorem references_nameExpr (ws : List String) : (nameExpr ws).references = [nameParts ws] := by
  match ws with
  | [] => rfl
  | [_] => rfl
  | _ :: _ :: _ => rfl

theorem references_test (t : ColumnTest) : (t.tree ws).references = [nameParts ws] := by
  cases t with
  | compare op c =>
      rw [ColumnTest.tree, Expr.references, references_nameExpr, references_constant]
      rfl
  | null negated =>
      rw [ColumnTest.tree, Expr.references, references_nameExpr]
  | between low high =>
      rw [ColumnTest.tree, Expr.references, references_nameExpr, references_constant,
        references_constant]
      rfl
  | inList first more =>
      have hitems : (Exprs.ofList ((first :: more).map Constant.tree)).references = [] := by
        rw [Exprs.references_ofList, List.flatMap_map, List.flatMap_eq_nil_iff]
        exact fun c _ => references_constant c
      rw [ColumnTest.tree, Expr.references, references_nameExpr, hitems]
      rfl

/-- How many tests a predicate makes. -/
def Predicate.size : Predicate → Nat
  | test _ => 1
  | any _ more => more.length + 1
  | never => 0

/-- A predicate refers to its column alone, once for each of its tests. -/
theorem references_predicate (p : Predicate) :
    (p.tree ws).references = List.replicate p.size (nameParts ws) := by
  -- Tests are joined from the left, so the induction is over what has been joined.
  have hchain : ∀ (ts : List ColumnTest) (e : Expr),
      (ts.foldl (fun e t => .binary e .or (t.tree ws)) e).references
        = e.references ++ List.replicate ts.length (nameParts ws) := by
    intro ts
    induction ts with
    | nil => exact fun e => (List.append_nil _).symm
    | cons t ts ih =>
        intro e
        rw [List.foldl_cons, ih, Expr.references, references_test, List.append_assoc]
        rfl
  cases p with
  | test t => exact references_test t
  | any first more =>
      rw [Predicate.tree, Expr.references, hchain, references_test]
      rfl
  | never => rfl

end References

/-- Only what is asked for out of an empty list passes no row. -/
theorem Parameter.size_predicate {p : Parameter} (h : p.condition.check = .ok ())
    (hlist : p.condition.operator = .isIn → p.condition.values ≠ []) : 0 < p.predicate.size := by
  have hsome := constants_ne_nil h
  have hbounds := constants_bounds h
  have hcomparison : ∀ (op : String) {cs : List Constant}, cs ≠ [] →
      0 < (Predicate.comparison op p.orRange cs).size := by
    intro op cs hcs
    cases cs with
    | nil => exact absurd rfl hcs
    | cons c cs => cases p.orRange <;> exact Nat.succ_pos _
  -- A checked condition has the constants that its operator needs.
  unfold predicate
  cases hop : p.condition.operator
  case isNull | notNull => exact Nat.one_pos
  case between =>
    obtain ⟨low, high, more, heq⟩ := hbounds hop
    rw [heq]
    exact Nat.one_pos
  case isIn =>
    have hvalues := hlist hop
    cases hcs : p.constants with
    | nil => exact absurd (List.map_eq_nil_iff.mp hcs) hvalues
    | cons c cs => exact Nat.one_pos
  case inOrNull => cases p.constants <;> exact Nat.succ_pos _
  case matchOrNull =>
    cases hcs : p.constants with
    | nil => exact absurd hcs (hsome (by rw [hop]; decide))
    | cons c cs => exact Nat.succ_pos _
  all_goals exact hcomparison _ (hsome (by rw [hop]; decide))

end QueryReport.Filter

namespace QueryReport.Report

open Sql Sql.Parser QueryReport.Filter

/-! ## Parameters on columns -/

/-- The words of a path are the reference it comes from, if no part of that is quoted or has a dot
in it. -/
theorem nameParts_columnWords_iff {parts : Path} {p : Parameter}
    (hpath : p.column = Path.plain parts) (hname : IsName p.columnWords) :
    nameParts p.columnWords = parts ↔ ∀ i ∈ parts, i.quote = none ∧ '.' ∉ i.value.toList := by
  constructor
  · rintro heq i hi
    rw [← heq] at hi
    obtain ⟨w, hw, rfl⟩ := List.mem_map.mp hi
    exact ⟨rfl, (hname.words w hw).no_dot⟩
  · intro hbare
    have hne : parts.map Ident.value ≠ [] := by
      -- Of no parts the path is empty, and that is no word.
      intro hnil
      have hempty : p.column = "" := by
        rw [hpath, Path.plain, hnil]
        rfl
      have hwords : p.columnWords = [""] := by
        unfold Parameter.columnWords
        rw [hempty]
        rfl
      exact (hname.words "" (hwords ▸ List.mem_singleton_self _)).nonempty rfl
    have hdots : ∀ w ∈ parts.map Ident.value, '.' ∉ w.toList :=
      List.forall_mem_map.mpr fun i hi => (hbare i hi).2
    have hwords : p.columnWords = parts.map Ident.value := by
      obtain ⟨column, c, orRange⟩ := p
      subst hpath
      exact Parameter.columnWords_intercalate hne hdots c orRange
    rw [hwords, nameParts, List.map_map]
    refine (List.map_congr_left fun i hi => ?_).trans (List.map_id parts)
    obtain ⟨value, quote⟩ := i
    have hquote : quote = none := (hbare _ hi).1
    rw [hquote]
    rfl

variable {r : Report} {q : Query} {p : Parameter}

/-- A parameter with a plain column can always be put in place of a filter. -/
theorem replaceFilter_plain (hr : Reachable r) (hq : r.baseline = some q) (hp : Plain p) :
    ∃ next, r.replaceFilter [p] = .ok next := by
  have hselect := (hr.consistent.baseline_lists q hq).isSelect
  have hnone : (q.withFilter none).filter? = none := Query.filter?_withFilter hselect none
  have hfiltered := filtered_joined (q := q.withFilter none) (List.forall_mem_singleton.mpr hp)
    (by simp [hnone])
  exact ⟨_, replaceFilter_eq_ok.mpr ⟨q, _, hq, hfiltered, rfl⟩⟩

/-- Besides a filter it can be applied if that stands before `AND`. -/
theorem applyParams_plain (hq : r.baseline = some q) (hp : Plain p)
    (hfilter : ∀ e ∈ q.filter?, e.asConjunct.StandsBeforeAnd) :
    ∃ next, r.applyParams [p] = .ok next := by
  have hbase : r.filterBase [p] = .ok q := by
    rw [filterBase_cons, required_eq_ok.mpr hq]
  have hfiltered := filtered_joined (List.forall_mem_singleton.mpr hp) hfilter
  exact ⟨_, applyParams_eq_ok.mpr ⟨q, _, hbase, hfiltered, rfl⟩⟩

/-- A parameter on the path of a column, where that is a plain name, can be applied, unless the
filter that is there gets in the way.  Its predicate refers to the words of the path alone, and these
are the column's own reference exactly if no part of that is quoted or has a dot in it. -/
theorem Reachable.bound_to_column (hr : Reachable r) {col : Column} (hcol : col ∈ r.columns)
    (hp : p.Built) (hpath : col.path = some p.column) (hname : IsName p.columnWords)
    (hlist : p.condition.operator = .isIn → p.condition.values ≠ []) :
    ∃ parts e, col.source.expr.reference? = some parts
      ∧ (∃ next, r.replaceFilter [p] = .ok next)
      ∧ ((∀ q ∈ r.baseline, ∀ e ∈ q.filter?, e.asConjunct.StandsBeforeAnd) →
        ∃ next, r.applyParams [p] = .ok next)
      ∧ liftFilter p.sql = .ok (some e) ∧ e.references ≠ []
      ∧ (∀ reference ∈ e.references, reference = nameParts p.columnWords)
      ∧ ((∀ reference ∈ e.references, reference = parts) ↔
        ∀ i ∈ parts, i.quote = none ∧ '.' ∉ i.value.toList) := by
  have hcheck := hp.made.check
  have hplain : Plain p := ⟨hcheck, hname⟩
  -- The path is read off the column's reference.
  rw [(hr.replayable.derived col hcol).path_eq, Expr.referencePath?, Option.map_eq_some_iff] at hpath
  obtain ⟨parts, hparts, hpath⟩ := hpath
  -- A report with columns has a query.
  obtain ⟨q, hq⟩ : ∃ q, r.baseline = some q := by
    cases hbaseline : r.baseline with
    | none =>
        rw [hr.consistent.columns_need_baseline hbaseline] at hcol
        cases hcol
    | some q => exact ⟨q, rfl⟩
  have hreferences : p.tree.references
      = List.replicate p.predicate.size (nameParts p.columnWords) := references_predicate p.predicate
  have hsize : p.predicate.size ≠ 0 := Nat.ne_of_gt (Parameter.size_predicate hcheck hlist)
  refine ⟨parts, p.tree, hparts, replaceFilter_plain hr hq hplain,
    fun hfilter => applyParams_plain hq hplain (hfilter q hq), liftFilter_sql hplain, ?_, ?_, ?_⟩
  · rw [hreferences, Ne, List.replicate_eq_nil_iff]
    exact hsize
  · rw [hreferences, List.forall_mem_replicate]
    exact .inr rfl
  · rw [hreferences, List.forall_mem_replicate, or_iff_right hsize]
    exact nameParts_columnWords_iff hpath.symm hname

/-- The column `t.total` is filtered by its path, and the filter is on that column. -/
theorem total_bound_to_column :
    ∃ (r next : Report) (col : Column) (parts : Path) (e : Expr), Reachable r ∧ col ∈ r.columns
      ∧ col.path = some "t.total" ∧ col.source.expr.reference? = some parts
      ∧ r.replaceFilter [⟨"t.total", ⟨.gte, [.int 10], .integer⟩, false⟩] = .ok next
      ∧ liftFilter "t.total >= 10" = .ok (some e) ∧ e.references ≠ []
      ∧ ∀ reference ∈ e.references, reference = parts := by
  let p : Parameter := ⟨"t.total", ⟨.gte, [.int 10], .integer⟩, false⟩
  have hp : p.Built := .new "t.total" (Condition.made_iff.mpr rfl)
  have hreport : ∃ r, Reachable r ∧ r.columns.map (fun col => (col.path, col.source.expr.reference?))
      = [(some "t.total", some [⟨"t", none⟩, ⟨"total", none⟩])] :=
    ⟨_, Reachable.empty.step (.call (.setSql "SELECT t.total FROM t")), by decide +kernel⟩
  obtain ⟨r, hr, hcolumns⟩ := hreport
  obtain ⟨col, hcol, heq⟩ := List.mem_map.mp (hcolumns ▸ List.mem_singleton_self _)
  obtain ⟨hpath, hreference⟩ := Prod.mk.inj heq
  obtain ⟨parts, e, hparts, ⟨next, hreplaced⟩, -, hlift, hne, -, hsame⟩ :=
    hr.bound_to_column hcol hp hpath (by decide +kernel) (by decide)
  have hsql : p.sql = "t.total >= 10" := by decide +kernel
  rw [hsql] at hlift
  refine ⟨r, next, col, parts, e, hr, hcol, hpath, hparts, hreplaced, hlift, hne, hsame.mpr ?_⟩
  cases hparts.symm.trans hreference
  decide +kernel

/-- The path of `"Total Sales"` is `Total Sales` and no name, so that the column cannot be filtered
by.  That of `"Id"` is read as `Id`, which is another column. -/
theorem quoted_columns_not_bound :
    let c : Condition := ⟨.eq, [.text "x"], .string⟩
    c.Made
      ∧ (∃ r, Reachable r ∧ r.columns.map Column.path = [some "Total Sales"]
        ∧ r.columns.map (fun col => col.source.expr.reference?)
          = [some [⟨"Total Sales", some '"'⟩]]
        ∧ (r.replaceFilter [⟨"Total Sales", c, false⟩]).toOption = none)
      ∧ ∃ r, Reachable r ∧ r.columns.map Column.path = [some "Id"]
        ∧ r.columns.map (fun col => col.source.expr.reference?) = [some [⟨"Id", some '"'⟩]]
        ∧ (liftFilter (Parameter.sql ⟨"Id", c, false⟩)).toOption.join.map Expr.references
          = some [[⟨"Id", none⟩]] := by
  have hspaced := Reachable.empty.step (.call (.setSql "SELECT \"Total Sales\" FROM t"))
  have hcased := Reachable.empty.step (.call (.setSql "SELECT \"Id\" FROM t"))
  refine ⟨Condition.made_iff.mpr rfl, ⟨_, hspaced, ?_, ?_, ?_⟩, _, hcased, ?_, ?_, ?_⟩
  all_goals decide +kernel

end QueryReport.Report
