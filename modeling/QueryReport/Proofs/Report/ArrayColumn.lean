import QueryReport.Proofs.Report.Adoption
import QueryReport.Proofs.Report.Inheritance
import QueryReport.Proofs.Report.Removal
import QueryReport.Proofs.Sql.Reading.Array

/-!
# `QueryReport.Proofs.Report.ArrayColumn`: putting an array in place of columns

The array is built as a text from the texts of its elements, lifted out of that text, and put in
front of the targets that are left.

* `Report.ArrayPut`: what the report holds then.
* `withArray_eq`: the array takes the place of targets, and nothing else of the query is touched.
* `columnsOf_array_iff`: the targets make columns just if the name of the array is free.
* `array_put_iff_free` puts this together.  An element nests one level deeper than a target, so the
  expressions have to be read back there; `deepest_column_not_converted` has one that is not.
-/

set_option autoImplicit false

namespace QueryReport

open Sql

namespace Report

variable {r next : Report} {q : Query} {name : String} {names : List String}
  {converted columns : List Column} {target : SelectItem}

/-- The target that stands for several columns. -/
def arrayItem (name : String) (converted : List Column) : SelectItem :=
  ⟨.array true (.ofList (converted.map fun c => c.source.expr)), some ⟨name, none⟩⟩

/-- The columns that are not named. -/
def unnamed (r : Report) (names : List String) : List Column :=
  r.columns.filter fun c => c.name ∉ names

/-- The targets with an array of columns in front of those that are not named. -/
def arrayTargets (r : Report) (name : String) (names : List String) (converted : List Column) :
    List SelectItem :=
  arrayItem name converted :: (r.unnamed names).map Column.source

/-- An array of columns has been put in front of the columns that are not named. -/
structure ArrayPut (r : Report) (name : String) (names : List String) (converted : List Column)
    (next : Report) : Prop where
  baseline : ∃ q, r.baseline = some q
    ∧ next.baseline = some (q.withTargets (r.arrayTargets name names converted))
  sql : next.sql = next.baseline.map Query.text
  columns : next.columns.map Column.name = name :: (r.unnamed names).map Column.name
  numbers : next.columns.map (·.attributes.sequenceNo) = List.range' 1 next.columns.length
  customizations : next.columns.tail.map Column.customizations
    = (r.unnamed names).map Column.customizations
  others : next = { r with
    baseline := next.baseline
    sql := next.sql
    columns := next.columns
    working := none }

/-! ## Names -/

/-- Columns are found under the names that were asked for, in that order. -/
theorem namedColumns_names (h : r.namedColumns names = .ok converted) :
    converted.map Column.name = names := by
  induction names generalizing converted with
  | nil =>
      cases h
      rfl
  | cons name names ih =>
      unfold namedColumns at h ih
      rw [List.mapM_cons] at h
      obtain ⟨c, hc, h⟩ := bind_eq_ok.mp h
      obtain ⟨more, hmore, h⟩ := bind_eq_ok.mp h
      cases h
      -- A column that is found has the name that it was looked up by.
      rw [List.map_cons, ih hmore]
      cases hfound : r.column? name with
      | none =>
          rw [hfound] at hc
          cases hc
      | some found =>
          rw [hfound] at hc
          cases hc
          rw [show c.name = name by simpa using List.find?_some hfound]

/-- A name is free if no column but the named ones has it. -/
theorem free_iff : (∀ c ∈ r.columns, c.name ∉ names → c.name ≠ name)
    ↔ name ∉ (r.unnamed names).map Column.name := by
  simp only [unnamed, List.mem_map, List.mem_filter, decide_eq_true_eq, not_exists, not_and,
    and_imp]

theorem SelectItem.Named.unique {item : SelectItem} {a b : String} (ha : item.Named a)
    (hb : item.Named b) : a = b :=
  Column.itemName_number (m := 0) (n := 0) (Column.itemName_eq_ok.mpr ha)
    (Column.itemName_eq_ok.mpr hb)

/-- Columns have the names of the targets that they are built from. -/
theorem names_of_buildColumns {mode : ColumnMatch} {previous found : List Column} {number : Nat}
    {items : List SelectItem} (h : buildColumns mode previous number found items = .ok columns)
    (hnamed : List.Forall₂ SelectItem.Named items names) : columns.map Column.name = names := by
  have hunique : Relator.RightUnique SelectItem.Named := fun _ _ _ => SelectItem.Named.unique
  exact List.right_unique_forall₂' hunique (named_of_buildColumns h) hnamed

/-! ## The query -/

theorem foldl_withoutTarget (converted : List Column) (q : Query) :
    converted.foldl (fun q c => q.withoutTarget c.source) q
      = q.withTargets (converted.foldl (fun items c => items.erase c.source) q.targets) := by
  induction converted generalizing q with
  | nil => exact q.withTargets_targets.symm
  | cons c converted ih =>
      rw [List.foldl_cons, ih, List.foldl_cons, Query.targets_withoutTarget,
        Query.withoutTarget_eq, Query.withTargets_withTargets]

/-- The array takes the place of the targets of the named columns, and nothing else of the query is
touched. -/
theorem withArray_eq (hr : r.Consistent) (hq : r.baseline = some q)
    (h : r.namedColumns names = .ok converted) :
    withArray q target converted
      = q.withTargets (target :: (r.unnamed names).map Column.source) := by
  have hkept : (r.columns.filter fun c => c.source ∉ converted.map Column.source)
      = r.unnamed names := by
    refine List.filter_congr fun c hc => ?_
    rw [decide_eq_decide, not_iff_not]
    exact source_mem_named hr h hc
  have hlists := hr.baseline_lists q hq
  -- Columns have different names, hence different targets, and each target is erased once.
  have herased : converted.foldl (fun items c => items.erase c.source) q.targets
      = (r.unnamed names).map Column.source := by
    rw [hlists.targets_eq, erase_sources hr.built hr.names_distinct, hkept]
  unfold withArray
  rw [foldl_withoutTarget, herased, Query.withLeadingTarget_eq,
    (Query.lists_withTargets hlists.isSelect _).targets_eq, Query.withTargets_withTargets]

/-! ## The columns -/

/-- The targets that are left are those of columns, and the array has the name it is given. -/
theorem named_array (hr : r.Consistent) (name : String) (converted : List Column) :
    List.Forall₂ SelectItem.Named (r.arrayTargets name names converted)
      (name :: (r.unnamed names).map Column.name) := by
  refine .cons (.label _ ⟨name, none⟩) ?_
  rw [List.forall₂_map_left_iff, List.forall₂_map_right_iff, List.forall₂_same]
  intro c hc
  obtain ⟨_, hnamed⟩ := (hr.built c (List.mem_filter.mp hc).1).named
  exact Column.itemName_eq_ok.mp hnamed

theorem unnamed_distinct (hr : r.Consistent) (names : List String) :
    ((r.unnamed names).map Column.name).Nodup :=
  hr.names_distinct.sublist (List.filter_sublist.map Column.name)

/-- The targets that are left make columns with the array in front just if its name is free. -/
theorem buildColumns_array_iff (hr : r.Consistent) (hname : name ≠ "") {mode : ColumnMatch}
    {previous : List Column} :
    (∃ columns, buildColumns mode previous 1 [] (r.arrayTargets name names converted) = .ok columns)
      ↔ name ∉ (r.unnamed names).map Column.name := by
  have hnamed : List.Forall₂ SelectItem.Named (r.arrayTargets name names converted)
      (name :: (r.unnamed names).map Column.name) := named_array hr name converted
  have hbuilt : ∀ c ∈ r.unnamed names, c.Built := fun c hc => hr.built c (List.mem_filter.mp hc).1
  constructor
  · rintro ⟨columns, hcolumns⟩
    -- Columns that are built have different names, and the first of them is that of the array.
    have hdistinct := (buildColumns_names hcolumns).1
    rw [names_of_buildColumns hcolumns hnamed, List.nodup_cons] at hdistinct
    exact hdistinct.1
  · intro hfree
    refine exists_buildColumns hnamed ?_ ?_ (List.nodup_cons.mpr ⟨hfree, unnamed_distinct hr names⟩)
      fun _ _ => List.not_mem_nil
    · rw [arrayTargets, List.forall_mem_cons, List.forall_mem_map]
      exact ⟨rfl, fun c hc => (hbuilt c hc).single⟩
    · rw [List.forall_mem_cons, List.forall_mem_map]
      exact ⟨hname, fun c hc => (hbuilt c hc).nonempty⟩

/-- The columns behind the array are the unnamed ones, built again. -/
theorem tail_of_array (hr : r.Consistent) (hderived : ∀ c ∈ r.columns, c.Derived)
    {mode : ColumnMatch}
    (h : buildColumns mode r.columns 1 [] (r.arrayTargets name names converted) = .ok columns) :
    columns.tail = rebuilt mode r.columns 2 (r.unnamed names) := by
  have hnames := names_of_buildColumns h (named_array hr name converted)
  have hdistinct := (buildColumns_names h).1
  rw [hnames, List.nodup_cons] at hdistinct
  -- The array is built first, and its name is none of those that are built behind it.
  obtain ⟨c, rest, rfl, -, -, -, hrest⟩ := buildColumns_cons h
  obtain ⟨rfl, -⟩ := List.cons.inj hnames
  have hfresh : ∀ n ∈ (r.unnamed names).map Column.name, n ∉ ([] ++ [c]).map Column.name := by
    intro n hn heq
    exact hdistinct.1 (List.mem_singleton.mp heq ▸ hn)
  have hagain : buildColumns mode r.columns 2 ([] ++ [c]) ((r.unnamed names).map Column.source)
      = .ok (rebuilt mode r.columns 2 (r.unnamed names)) :=
    buildColumns_sources_of_derived (fun d hd => hderived d (List.mem_filter.mp hd).1) hdistinct.2
      hfresh
  exact Except.ok.inj (hrest.symm.trans hagain)

/-! ## Every report -/

/-- If the text of the array is read as the array, only the names of the columns are in question. -/
theorem convertToArray_iff (hr : r.Consistent) (hq : r.baseline = some q)
    (hconverted : r.namedColumns names = .ok converted)
    (htarget : arrayTarget name converted = .ok (arrayItem name converted)) :
    r.convertToArray name names = .ok next ↔ ∃ columns,
      buildColumns r.columnMatch r.columns 1 [] (r.arrayTargets name names converted) = .ok columns
        ∧ next = { r with
          columns
          sql := some (q.withTargets (r.arrayTargets name names converted)).text
          baseline := some (q.withTargets (r.arrayTargets name names converted))
          working := none } := by
  have hquery : withArray q (arrayItem name converted) converted
      = q.withTargets (r.arrayTargets name names converted) := withArray_eq hr hq hconverted
  have htargets : (q.withTargets (r.arrayTargets name names converted)).targets
      = r.arrayTargets name names converted :=
    (Query.lists_withTargets (hr.baseline_lists q hq).isSelect _).targets_eq
  rw [convertToArray_eq_ok]
  constructor
  · rintro ⟨converted', target, q', columns, hconverted', htarget', hq', hcolumns, rfl⟩
    cases hconverted.symm.trans hconverted'
    cases htarget.symm.trans htarget'
    cases hq.symm.trans hq'
    rw [hquery] at hcolumns ⊢
    rw [columnsOf, htargets] at hcolumns
    exact ⟨columns, hcolumns, rfl⟩
  · rintro ⟨columns, hcolumns, rfl⟩
    refine ⟨converted, _, q, columns, hconverted, htarget, hq, ?_, ?_⟩
    · rw [columnsOf, hquery, htargets]
      exact hcolumns
    · rw [hquery]

/-- The text of the array is read as the array. -/
theorem arrayTarget_of_elements (hconverted : converted ≠ []) (hname : IsWord name)
    (hread : ∀ c ∈ converted, c.source.expr.StandsInArray) :
    arrayTarget name converted = .ok (arrayItem name converted) := by
  have helements : ∀ e ∈ converted.map (fun c => c.source.expr), e.StandsInArray :=
    List.forall_mem_map.mpr hread
  have hlift := liftTarget_array (by simpa using hconverted) helements hname
  rw [List.map_map] at hlift
  exact liftFault_eq_ok.mpr hlift

/-- For expressions whose texts are read back where the elements of an array stand: columns are put
into an array just if no other column has the name of the array.  The array then lists their
expressions in the order in which they were named, and takes their place in front of the other
targets.  Nothing else of the query and of the report is touched; the columns are numbered anew, and
those that are left keep what a person has set about them, however the report matches columns. -/
theorem array_put_iff_free (hr : Reachable r) (hsql : r.sql.isSome) (hnames : names ≠ [])
    (hfound : ∀ name ∈ names, name ∈ r.columns.map Column.name) (hname : IsWord name)
    (hread : ∀ c ∈ r.columns, c.name ∈ names → c.source.expr.StandsInArray) :
    ((∃ next, r.convertToArray name names = .ok next)
        ↔ ∀ c ∈ r.columns, c.name ∉ names → c.name ≠ name)
      ∧ ∀ next, r.convertToArray name names = .ok next →
        ∃ converted, converted.map Column.name = names ∧ (∀ c ∈ converted, c ∈ r.columns)
          ∧ r.ArrayPut name names converted next := by
  have hconsistent := hr.consistent
  obtain ⟨q, hq⟩ := Option.isSome_iff_exists.mp (hconsistent.text_iff_baseline.mp hsql)
  obtain ⟨converted, hconverted⟩ := exists_namedColumns hfound
  have hordered := namedColumns_names hconverted
  have hmem : ∀ c ∈ converted, c ∈ r.columns ∧ c.name ∈ names :=
    fun c hc => namedColumns_mem hconverted hc
  have hsome : converted ≠ [] := by
    rintro rfl
    exact hnames hordered.symm
  have htarget := arrayTarget_of_elements hsome hname
    fun c hc => hread c (hmem c hc).1 (hmem c hc).2
  refine ⟨?_, ?_⟩
  · -- The checks on the elements are passed, so that only the names decide.
    simp only [convertToArray_iff hconsistent hq hconverted htarget, free_iff]
    rw [exists_comm]
    simp only [exists_and_left, exists_eq, and_true]
    exact buildColumns_array_iff hconsistent hname.nonempty
  · intro next h
    obtain ⟨columns, hcolumns, rfl⟩ :=
      (convertToArray_iff hconsistent hq hconverted htarget).mp h
    have hcolumnNames := names_of_buildColumns hcolumns (named_array hconsistent name converted)
    refine ⟨converted, hordered, fun c hc => (hmem c hc).1, ⟨q, hq, rfl⟩, rfl, hcolumnNames, ?_, ?_,
      rfl⟩
    · -- As many columns are built as there are targets.
      have hnumbers := numbers_of_buildColumns hcolumns
      rw [← buildColumns_sources hcolumns, List.length_map] at hnumbers
      exact hnumbers
    · show columns.tail.map Column.customizations = _
      rw [tail_of_array hconsistent hr.replayable.derived hcolumns]
      exact customizations_rebuilt hconsistent.names_distinct fun c hc => (List.mem_filter.mp hc).1

/-- A column name stands in an array if the word is read as the column there. -/
theorem standsInArray_column (w key : String)
    (hw : IsWord w ∧ Token.ofWord w = .word ⟨w, none⟩ key)
    (hread : ∀ more, ∀ m ∈ [",", "]"],
      (Parser.grammar 47).expression (.word ⟨w, none⟩ key :: .symbol m :: more)
        = .ok (.column ⟨w, none⟩, .symbol m :: more)) :
    (Expr.column ⟨w, none⟩).StandsInArray := by
  refine ⟨[.ofWord w], fun m hm more => ?_, fun m hm more => ?_⟩
  · refine lexed_word hw.1 ?_
    rintro d ⟨⟩
    simp only [List.mem_cons, List.not_mem_nil, or_false] at hm
    obtain rfl | rfl := hm <;> decide
  · rw [hw.2]
    exact hread more m hm

/-- Two columns are put into an array, one of them twice. -/
theorem columns_put_in_array : ∃ r next : Report, Reachable r
    ∧ r.columns.map Column.name = ["id", "width", "height"]
    ∧ r.convertToArray "size" ["height", "width", "height"] = .ok next
    ∧ next.sql = some "SELECT ARRAY[height, width, height] AS size, id FROM t"
    ∧ ∃ converted, converted.map Column.name = ["height", "width", "height"]
      ∧ (∀ c ∈ converted, c ∈ r.columns)
      ∧ r.ArrayPut "size" ["height", "width", "height"] converted next := by
  let text := "SELECT id, width, height FROM t"
  let names := ["height", "width", "height"]
  let r : Report := ((Change.setSql text).outcome {}).2
  let put : Report := ((Change.convertToArray "size" names).outcome r).2
  have hr : Reachable r := Reachable.empty.step (.call (.setSql text))
  obtain ⟨hsql, hcolumns, hfound⟩ : r.sql.isSome
      ∧ r.columns.map Column.name = ["id", "width", "height"]
      ∧ ∀ name ∈ names, name ∈ r.columns.map Column.name := by decide +kernel
  have hexprs : ∀ c ∈ r.columns, c.name ∈ names → c.source.expr = .column ⟨"width", none⟩
      ∨ c.source.expr = .column ⟨"height", none⟩ := by decide +kernel
  have hread : ∀ c ∈ r.columns, c.name ∈ names → c.source.expr.StandsInArray := by
    intro c hc hname
    obtain heq | heq := hexprs c hc hname <;> rw [heq]
    · refine standsInArray_column "width" "WIDTH" (by decide +kernel) fun more => ?_
      simp only [List.forall_mem_cons]
      exact ⟨rfl, rfl, nofun⟩
    · refine standsInArray_column "height" "HEIGHT" (by decide +kernel) fun more => ?_
      simp only [List.forall_mem_cons]
      exact ⟨rfl, rfl, nofun⟩
  obtain ⟨hiff, hput⟩ := array_put_iff_free hr hsql (List.cons_ne_nil _ _) hfound
    (show IsWord "size" by decide +kernel) hread
  obtain ⟨next, hnext⟩ := hiff.mpr (by decide +kernel)
  have hrun : r.convertToArray "size" names = .ok put
      ∧ put.sql = some "SELECT ARRAY[height, width, height] AS size, id FROM t" := by
    decide +kernel
  obtain rfl : put = next := Except.ok.inj (hrun.1.symm.trans hnext)
  exact ⟨r, put, hr, hcolumns, hnext, hrun.2, hput put hnext⟩

/-- A target in as many pairs of parentheses as a target may have.  Its text is read back as a
target, but as an element it nests one level too deep. -/
theorem deepest_column_not_converted : ∃ r : Report, Reachable r
    ∧ r.columns.map Column.name = ["a", "b"]
    ∧ (∀ c ∈ r.columns, c.name ∈ ["a"] → parseQuery ("SELECT " ++ c.source.expr.text)
        = .ok (targetFragment ⟨c.source.expr, none⟩))
    ∧ IsWord "n" ∧ (∀ c ∈ r.columns, c.name ∉ ["a"] → c.name ≠ "n")
    ∧ ∀ next, r.convertToArray "n" ["a"] ≠ .ok next := by
  let e : Expr := (Expr.column ⟨"id", none⟩).enclosed 47
  let q : Query := Parser.Grammar.bareQuery false .nil (.select { fragmentSelect with
    targets := .ofList [⟨e, some ⟨"a", none⟩⟩, ⟨.column ⟨"b", none⟩, none⟩] })
  let columns : List Column := ((({} : Report).columnsOf q).toOption).getD []
  let r : Report := { ({} : Report) with
    sql := some ("SELECT " ++ e.text ++ " AS a, b"), baseline := some q, columns }
  have hclosed : Closed e.text (enclosedTokens [.ofWord "id"] 47) :=
    closed_enclosed (cut_word (by decide +kernel)) 46
  have hselect : Closed "SELECT " [Parser.keywordToken "SELECT"] :=
    Parser.closed_keyword "SELECT" (by decide +kernel)
  -- What the three texts are read as is known from their tokens.
  have hq : parse ("SELECT " ++ e.text ++ " AS a, b") = .ok [.query q] := by
    have hback : lexed " AS a, b".toList
        = .ok [.ofWord "AS", .ofWord "a", .symbol ",", .ofWord "b"] := by decide +kernel
    rw [parse_between hclosed hselect hback]
    decide +kernel
  have halone : parse ("SELECT " ++ e.text) = .ok [.query (targetFragment ⟨e, none⟩)] := by
    have hback : lexed "".toList = .ok [] := lexed_nil
    rw [← String.append_empty (s := "SELECT " ++ e.text), parse_between hclosed hselect hback]
    decide +kernel
  have harray : (parse ("SELECT " ++ ("ARRAY[" ++ e.text ++ "] AS " ++ "n"))).toOption = none := by
    have hback : lexed "] AS n".toList = .ok [.symbol "]", .ofWord "AS", .ofWord "n"] := by
      decide +kernel
    have htext : "SELECT " ++ ("ARRAY[" ++ e.text ++ "] AS " ++ "n")
        = "SELECT " ++ "ARRAY[" ++ e.text ++ "] AS n" := by
      simp only [String.append_assoc]
      rfl
    rw [htext, parse_between hclosed (hselect.append closed_array) hback]
    decide +kernel
  have hcolumns : ({} : Report).columnsOf q = .ok columns := by decide +kernel
  have hset : (Operation.setSql ("SELECT " ++ e.text ++ " AS a, b")).change.result {} = .ok r :=
    setSql_eq_ok.mpr ⟨q, columns, none, none, selectOf_eq_ok.mpr ⟨hq, rfl⟩, hcolumns, rfl, rfl, rfl⟩
  obtain ⟨hnames, hexpr, hfree⟩ : r.columns.map Column.name = ["a", "b"]
      ∧ (∀ c ∈ r.columns, c.name ∈ ["a"] → c.source.expr = e)
      ∧ ∀ c ∈ r.columns, c.name ∉ ["a"] → c.name ≠ "n" := by decide +kernel
  have hnamed : (List.map fun c : Column => c.source.expr) <$> r.namedColumns ["a"] = .ok [e] := by
    decide +kernel
  refine ⟨r, Reachable.empty.result hset, hnames, ?_, by decide +kernel, hfree, ?_⟩
  · intro c hc hname
    rw [hexpr c hc hname, parseQuery, halone]
    rfl
  · intro next hnext
    obtain ⟨converted, target, _, _, hconverted, htarget, -⟩ := convertToArray_eq_ok.mp hnext
    rw [hconverted] at hnamed
    have hexprs : converted.map (fun c => c.source.expr) = [e] := Except.ok.inj hnamed
    have helements : ", ".intercalate (converted.map fun c => c.source.expr.text) = e.text := by
      show ", ".intercalate (converted.map (Expr.text ∘ fun c : Column => c.source.expr)) = _
      rw [← List.map_map, hexprs]
      rfl
    unfold arrayTarget at htarget
    rw [helements] at htarget
    -- An array that is lifted has a text that is read.
    obtain ⟨found, hfound⟩ := parse_of_liftTarget (liftFault_eq_ok.mp htarget)
    rw [hfound] at harray
    cases harray

end Report

end QueryReport
