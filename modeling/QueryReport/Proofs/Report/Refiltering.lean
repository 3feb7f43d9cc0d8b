import QueryReport.Proofs.Filter.Printing
import QueryReport.Proofs.Report.Filtering
import QueryReport.Proofs.Report.Outcome
import QueryReport.Proofs.Sql.Reading.Surroundings

/-!
# `QueryReport.Proofs.Report.Refiltering`: texts in the query to run

`replaceFilter` writes the texts of a parameter with their quotes doubled and reads them, and the
query to run is printed with the quotes left single that look escaped already.

* `textFilter`: the filter that compares a column with texts.
* `refiltered_reads_back`: texts whose quotes stand apart are in the query to run as they were
  given, and reading it again gives the same query.
* `escaped_quote_ends_text`: a quote behind a backslash ends the text, and what is behind that
  becomes a part of the query.
-/

set_option autoImplicit false

namespace QueryReport.Filter

open Sql Sql.Parser

/-! ## Comparisons with texts -/

/-- The parameter that compares a column with texts. -/
def textParameter (column : String) (op : Operator) (first : String) (more : List String) :
    Parameter :=
  ⟨column, ⟨op, (first :: more).map .text, .string⟩, false⟩

/-- The texts that an operator compares with: all of them if it takes a list, and else the first. -/
def comparedTexts (op : Operator) (first : String) (more : List String) : List String :=
  (if op.isList then first :: more else [first]).map (Condition.pattern op)

/-- The filter that compares a column with texts. -/
def textFilter (column : String) (op : Operator) (first : String) (more : List String) : Expr :=
  let name : Expr := .column ⟨column, none⟩
  let literal (text : String) : Expr := .literal (.string (Condition.pattern op text))
  let listed : Expr := .inList name false (.ofList ((first :: more).map literal))
  match op with
  | .isIn => listed
  | .inOrNull => .nested (.binary listed .or (.nullTest name false))
  | .matchOrNull =>
    .nested (.binary (.binary name (.symbol "=") (literal first)) .or (.nullTest name false))
  | op => .binary name (.symbol op.sql) (literal first)

variable {column first : String} {op : Operator} {more : List String}

/-- A word is a dotted name of one part. -/
theorem columnWords_word (hcolumn : IsWord column) (condition : Condition) (orRange : Bool) :
    Parameter.columnWords ⟨column, condition, orRange⟩ = [column] := by
  have hwords := Parameter.columnWords_intercalate (List.cons_ne_nil column [])
    (List.forall_mem_singleton.mpr hcolumn.no_dot) condition orRange
  rwa [String.intercalate_singleton] at hwords

theorem constants_textParameter (hop : op.isNullTest = false) :
    (textParameter column op first more).constants
      = (first :: more).map fun text => .text (Condition.pattern op text) := by
  unfold textParameter Parameter.constants
  rw [List.map_map]
  exact List.map_congr_left fun text _ => Condition.constant_text rfl hop text

theorem plain_textParameter (hcolumn : IsName [column])
    (hop : op ∉ [.between, .isNull, .notNull]) : Plain (textParameter column op first more) where
  checked := by
    -- A list may not hold nulls, and texts are none.
    have hnull :
        (textParameter column op first more).condition.values.any Value.isNull = false := by
      simp [textParameter, Value.isNull]
    cases op
    case between | isNull | notNull => exact absurd hop (by decide)
    case isIn | inOrNull =>
      show ((if _ then _ else _ : Except Error Unit) >>= _) = _
      rw [hnull]
      rfl
    all_goals rfl
  column := by
    rw [textParameter, columnWords_word (hcolumn.words column List.mem_cons_self)]
    exact hcolumn

/-- The predicate of the parameter is the filter. -/
theorem tree_textParameter (hcolumn : IsWord column) (hop : op ∉ [.between, .isNull, .notNull]) :
    (textParameter column op first more).tree = textFilter column op first more := by
  have hwords : (textParameter column op first more).columnWords = [column] :=
    columnWords_word hcolumn _ _
  unfold Parameter.tree Parameter.predicate
  rw [hwords]
  cases op
  case between | isNull | notNull => exact absurd hop (by decide)
  all_goals
    rw [constants_textParameter rfl]
    simp [textParameter, textFilter, Predicate.tree, ColumnTest.tree, Predicate.comparison,
      nameExpr, Constant.tree, Function.comp_def]

/-- All constants of the predicate are texts that are compared with. -/
theorem faithful_textParameter (hop : op ∉ [.between, .isNull, .notNull])
    (hapart : ∀ text ∈ comparedTexts op first more, Text.QuotesApart '\'' text.toList) :
    ∀ c ∈ (textParameter column op first more).predicate.constants, c.Faithful := by
  unfold Parameter.predicate
  unfold comparedTexts at hapart
  cases op
  case between | isNull | notNull => exact absurd hop (by decide)
  all_goals
    rw [constants_textParameter rfl]
    simpa [textParameter, Operator.isList, Predicate.constants, ColumnTest.constants,
      Predicate.comparison, Constant.Faithful] using hapart

end QueryReport.Filter

namespace QueryReport.Report

open Sql Sql.Parser QueryReport.Filter

variable {r : Report} {q : Query} {column first : String} {op : Operator} {more : List String}

/-- The query of a report around its filter, with the paging and the order that the report has. -/
def around (r : Report) (q : Query) : Query :=
  ((q.withLimit r.limit).withOffset r.offset).withOrder r.order

theorem around_withFilter (r : Report) (q : Query) (e : Expr) :
    r.around ((q.withFilter none).withFilter (some e)) = (r.around q).withFilter (some e) := by
  obtain ⟨recursive, tables, body, order, limit, offset, offsetWord, fetch, locks, form⟩ := q
  cases body <;> rfl

/-- If what stands around the filter reads back, a column can be compared with texts whose quotes
stand apart: the query to run has the filter that the parameter stands for, and its text is read as
this query. -/
theorem refiltered_reads_back (hr : Reachable r) (hq : r.baseline = some q)
    (hcolumn : IsName [column]) (hop : op ∉ [.between, .isNull, .notNull])
    (haround : (r.around q).ReadsAround)
    (hapart : ∀ text ∈ comparedTexts op first more, Text.QuotesApart '\'' text.toList) :
    ∃ next run, r.replaceFilter [textParameter column op first more] = .ok next
      ∧ next.runnable = .ok run ∧ next.runnableSql = .ok run.text
      ∧ run.filter? = some (textFilter column op first more)
      ∧ parse run.text = .ok [.query run] := by
  let p := textParameter column op first more
  let unfiltered := q.withFilter none
  have hplain : Plain p := plain_textParameter hcolumn hop
  have htree : p.tree = textFilter column op first more :=
    tree_textParameter (hcolumn.words column List.mem_cons_self) hop
  have hselect := (hr.consistent.baseline_lists q hq).isSelect
  have hnone : unfiltered.filter? = none := Query.filter?_withFilter hselect none
  -- The old filter is taken out first, so there is none to merge with.
  have hfiltered : filtered unfiltered [p] = .ok (unfiltered.withFilter (some p.tree)) := by
    rw [filtered_joined (List.forall_mem_singleton.mpr hplain) (by simp [hnone]), hnone]
    rfl
  -- In the query to run the filter looks as the parameter wrote it.
  have htext : p.tree.text = p.sql := by
    rw [Parameter.sql_eq_predicate hplain.checked, ← p.intercalate_columnWords]
    exact text_predicate hplain.column.nonempty (faithful_textParameter hop hapart)
  let working := unfiltered.withFilter (some p.tree)
  let next : Report := { r with working := some ((working.withLimit r.limit).withOffset r.offset) }
  let run := (r.around q).withFilter (some p.tree)
  have hreplaced : r.replaceFilter [p] = .ok next :=
    replaceFilter_eq_ok.mpr ⟨q, _, hq, hfiltered, rfl⟩
  have hrun : next.runnable = .ok run := by
    have hrequired : next.required = .ok q := required_eq_ok.mpr hq
    unfold runnable
    rw [hrequired]
    exact congrArg Except.ok (around_withFilter r q p.tree)
  have hsql : next.runnableSql = .ok run.text := by
    unfold runnableSql
    rw [hrun]
    rfl
  have hfilter : run.filter? = some p.tree := by
    refine Query.filter?_withFilter ?_ _
    exact (Query.lists_targets hselect).isSelect
  refine ⟨next, run, hreplaced, hrun, hsql, htree ▸ hfilter, ?_⟩
  -- The filter is read in its place, up to the clause that follows it.
  refine Query.parse_withFilter haround (htext ▸ hplain.cut) fun rest hrest => ?_
  exact reads_predicate hplain.column p.wellFormed_predicate 43 (Nat.zero_le _) hrest

/-- A query with a limit reads back around its filter. -/
theorem list_with_quote_reads_back : ∃ (next : Report) (run : Query),
    next.runnableSql = .ok "SELECT id FROM t WHERE name IN ('O''Reilly', 'Smith') LIMIT 5"
      ∧ parse "SELECT id FROM t WHERE name IN ('O''Reilly', 'Smith') LIMIT 5" = .ok [.query run]
      ∧ run.filter? = some (.inList (.column ⟨"name", none⟩) false
        (.ofList [.literal (.string "O'Reilly"), .literal (.string "Smith")])) := by
  let five : Literal := .number "5" false
  let s : Select := { fragmentSelect with
    targets := .ofList [⟨.column ⟨"id", none⟩, none⟩]
    sources := .cons (.named [⟨"t", none⟩] false none .nil) .nil .nil }
  let q : Query := { Grammar.bareQuery false .nil (.select s) with limit := .some (.literal five) }
  have htext : (q.openingWith s).text = "SELECT " ++ "id " ++ "FROM " ++ "t" := by decide +kernel
  -- Up to the filter the text is cut piece by piece; what follows is short enough to evaluate.
  have hcut : Cut (q.openingWith s).text
      ([keywordToken "SELECT"] ++ [.ofWord "id"] ++ [keywordToken "FROM"] ++ [.ofWord "t"]) := by
    rw [htext]
    have hselect := closed_keyword "SELECT" (by decide +kernel)
    have hid := (cut_word (w := "id") (by decide +kernel)).closed_blank
    have hfrom := closed_keyword "FROM" (by decide +kernel)
    exact ((hselect.append hid).append hfrom).cut_append (cut_word (by decide +kernel))
  have haround : q.ReadsAround :=
    ⟨s, _, [keywordToken "LIMIT", .literal five], rfl, hcut, fun _ => rfl, by decide +kernel,
      fun _ => rfl⟩
  let text := "SELECT id FROM t LIMIT 5"
  let r : Report := ((Change.setSql text).outcome {}).2
  have hr : Reachable r := Reachable.empty.step (.call (.setSql text))
  have hq : r.baseline = some q := by decide +kernel
  have hround : r.around q = q := by decide +kernel
  have hapart : ∀ text ∈ comparedTexts .isIn "O'Reilly" ["Smith"],
      Text.QuotesApart '\'' text.toList := by
    decide +kernel
  obtain ⟨next, run, hnext, -, hsql, hfilter, hparse⟩ := refiltered_reads_back hr hq
    (show IsName ["name"] by decide +kernel) (by decide) (hround.symm ▸ haround) hapart
  have hwritten : ((r.replaceFilter [textParameter "name" .isIn "O'Reilly" ["Smith"]]).toOption.bind
      fun next => next.runnableSql.toOption)
        = some "SELECT id FROM t WHERE name IN ('O''Reilly', 'Smith') LIMIT 5" := by
    decide +kernel
  rw [hnext] at hwritten
  change next.runnableSql.toOption = _ at hwritten
  rw [hsql] at hwritten
  rw [Option.some.inj hwritten] at hsql hparse
  exact ⟨next, run, hsql, hparse, hfilter⟩

/-- A quote behind a backslash is printed as it is, and ends the text when it is read again: what
the text has behind it becomes a condition of its own. -/
theorem escaped_quote_ends_text : ∃ (r next : Report) (run : Query) (filter : Expr), Reachable r
    ∧ r.replaceFilter [textParameter "c" .eq "\\' OR 1=1 --" []] = .ok next
    ∧ next.runnableSql = .ok "SELECT id FROM t WHERE c = '\\' OR 1=1 --'"
    ∧ parse "SELECT id FROM t WHERE c = '\\' OR 1=1 --'" = .ok [.query run]
    ∧ run.filter? = some filter ∧ filter.text = "c = '\\' OR 1 = 1"
    ∧ filter ≠ textFilter "c" .eq "\\' OR 1=1 --" [] := by
  let p := textParameter "c" .eq "\\' OR 1=1 --" []
  let one : Expr := .literal (.number "1" false)
  let filter : Expr :=
    .binary (.binary (.column ⟨"c", none⟩) (.symbol "=") (.literal (.string "\\"))) .or
      (.binary one (.symbol "=") one)
  let run : Query := Grammar.bareQuery false .nil (.select { fragmentSelect with
    targets := .ofList [⟨.column ⟨"id", none⟩, none⟩]
    sources := .cons (.named [⟨"t", none⟩] false none .nil) .nil .nil
    filter := .some filter })
  let r : Report := ((Change.setSql "SELECT id FROM t").outcome {}).2
  let next : Report := ((Change.replaceFilter [p]).outcome r).2
  have hr : Reachable r := Reachable.empty.step (.call (.setSql "SELECT id FROM t"))
  exact ⟨r, next, run, filter, hr, by decide +kernel, by decide +kernel, by decide +kernel, rfl,
    by decide +kernel, by decide⟩

end QueryReport.Report
