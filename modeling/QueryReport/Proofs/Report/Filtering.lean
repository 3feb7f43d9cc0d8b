import QueryReport.Proofs.Filter.Predicate
import QueryReport.Proofs.Report.Agreement
import QueryReport.Proofs.Sql.Reading.Fragment

/-!
# `QueryReport.Proofs.Report.Filtering`: what parameters make of a filter

`applyParams` writes the filter of the baseline and the predicates of the parameters as one text
with `AND` between them, and reads the text.

* `Expr.StandsBeforeAnd e`: in front of an `AND`, the text of `e` is read as `e`.
* `liftFilter_predicates`: the predicates alone are read as the chain of their trees.
* `applyParams_conjuncts`: behind a filter that stands before `AND`, every parameter adds one
  conjunct, its own predicate, and nothing else changes.
-/

set_option autoImplicit false

namespace QueryReport.Sql.Expr

open QueryReport.Sql.Parser

/-- The conditions that a chain of `AND`s joins, in order. -/
def conjuncts : Expr → List Expr
  | .binary left .and right => left.conjuncts ++ right.conjuncts
  | e => [e]

/-- The filter as it is put before an `AND`: in parentheses, if its top is an `OR`. -/
def asConjunct : Expr → Expr
  | .binary left .or right => .nested (.binary left .or right)
  | e => e

/-- In front of an `AND`, whatever follows that, the text of the expression is read as the
expression. -/
def StandsBeforeAnd (e : Expr) : Prop :=
  ∃ ts, Cut e.text ts ∧
    ∀ more, (grammar 47).Reads 0 (ts ++ keywordToken "AND" :: more) e (keywordToken "AND" :: more)

end QueryReport.Sql.Expr

namespace QueryReport.Filter

open Sql Sql.Parser

/-- Expressions added to a chain of `AND`s. -/
def andAll (e : Expr) (es : List Expr) : Expr := es.foldl (fun e e' => .binary e .and e') e

theorem conjuncts_andAll (e : Expr) (es : List Expr) :
    (andAll e es).conjuncts = e.conjuncts ++ es.flatMap Expr.conjuncts := by
  unfold andAll
  induction es generalizing e with
  | nil => exact (List.append_nil _).symm
  | cons e' es ih => rw [List.foldl_cons, ih, Expr.conjuncts, List.append_assoc, List.flatMap_cons]

/-- The tree of a test is no chain. -/
theorem conjuncts_tree (p : Parameter) : p.tree.conjuncts = [p.tree] := by
  unfold Parameter.tree
  cases p.predicate with
  | test t => cases t <;> rfl
  | any first more => rfl
  | never => rfl

theorem asConjunct_tree (p : Parameter) : p.tree.asConjunct = p.tree := by
  unfold Parameter.tree
  cases p.predicate with
  | test t => cases t <;> rfl
  | any first more => rfl
  | never => rfl

/-- Parameters that can be written as SQL: their conditions have passed their checks, and their
columns have plain names. -/
structure Plain (p : Parameter) : Prop where
  checked : p.condition.check = .ok ()
  column : IsName p.columnWords

instance (p : Parameter) : Decidable (Plain p) :=
  decidable_of_iff (p.condition.check = .ok () ∧ IsName p.columnWords)
    ⟨fun ⟨h, h'⟩ => ⟨h, h'⟩, fun ⟨h, h'⟩ => ⟨h, h'⟩⟩

theorem Plain.cut {p : Parameter} (hp : Plain p) :
    Cut p.sql (p.predicate.tokens p.columnWords) := by
  rw [Parameter.sql_eq_predicate hp.checked, ← p.intercalate_columnWords]
  exact cut_predicate hp.column p.wellFormed_predicate

/-- The predicate of a parameter with the word before it that links it to others. -/
def linkedTokens (p : Parameter) : List Token :=
  keywordToken "AND" :: p.predicate.tokens p.columnWords

/-- The predicates of parameters after an `AND` are read one after the other. -/
theorem extends_predicates {params : List Parameter} (hparams : ∀ p ∈ params, Plain p) (e : Expr) :
    (grammar 47).Extends 0 e (params.flatMap linkedTokens)
      (andAll e (params.map Parameter.tree)) [] := by
  -- Behind a predicate stands the next `AND`, or nothing at all.
  have hread : ∀ p ∈ params, ∀ ts, ts = [] ∨ (∃ us, ts = keywordToken "AND" :: us) →
      (grammar 46).Reads Grammar.andStrength (p.predicate.tokens p.columnWords ++ ts)
        p.tree ts := by
    intro p hp ts hts
    refine reads_predicate (hparams p hp).column p.wellFormed_predicate 42 (Nat.le_refl _) ?_
    obtain rfl | ⟨us, rfl⟩ := hts
    · exact .nil
    · exact .keyword (.inl rfl) us
  have hchain : (grammar 47).Extends 0 e _ _ [] :=
    Grammar.extends_chain .and (by decide)
      (fun p hp ts => keyOf_predicate (hparams p hp).column p.predicate ts (by decide))
      (Nat.zero_le _) hread e
  rw [List.append_nil] at hchain
  rw [andAll, List.foldl_map]
  exact hchain

/-- The texts of parameters with `AND` between them are cut one after the other. -/
theorem cut_predicates {first : Parameter} {more : List Parameter}
    (hparams : ∀ p ∈ first :: more, Plain p) :
    Cut (" AND ".intercalate ((first :: more).map Parameter.sql))
      (first.predicate.tokens first.columnWords ++ more.flatMap linkedTokens) :=
  cut_chain "AND" " AND " (closed_keyword "AND" (by decide +kernel)) rfl first more
    fun p hp => (hparams p hp).cut

/-- The text of an expression that stands before `AND`, with predicates after it, is read as a chain
of `AND`s. -/
theorem liftFilter_behind {e : Expr} (he : e.StandsBeforeAnd) {params : List Parameter}
    (hne : params ≠ []) (hparams : ∀ p ∈ params, Plain p) :
    liftFilter (e.text ++ " AND " ++ " AND ".intercalate (params.map Parameter.sql))
      = .ok (some (andAll e (params.map Parameter.tree))) := by
  obtain ⟨ts, hcut, hreads⟩ := he
  cases params with
  | nil => exact absurd rfl hne
  | cons first more =>
      have hand := closed_keyword "AND" (by decide +kernel)
      have htext : Cut
          (e.text ++ " AND " ++ " AND ".intercalate ((first :: more).map Parameter.sql))
          (ts ++ (first :: more).flatMap linkedTokens) := by
        -- The blank before `AND` closes the text of the expression.
        have hcut := (hcut.closed_blank.append hand).cut_append (cut_predicates hparams)
        rw [show " AND " = " " ++ "AND " from rfl]
        simpa [linkedTokens, String.append_assoc] using hcut
      have hpassed := hreads (first.predicate.tokens first.columnWords ++ more.flatMap linkedTokens)
      have hchain := extends_predicates hparams e
      exact liftFilter_of_cut htext ((hpassed.extend hchain).operation (Nat.le_refl 0))

/-- The text of predicates alone. -/
theorem liftFilter_predicates {first : Parameter} {more : List Parameter}
    (hparams : ∀ p ∈ first :: more, Plain p) :
    liftFilter (" AND ".intercalate ((first :: more).map Parameter.sql))
      = .ok (some (andAll first.tree (more.map Parameter.tree))) := by
  have hcut := cut_predicates hparams
  rw [List.forall_mem_cons] at hparams
  have hchain := extends_predicates hparams.2 first.tree
  refine liftFilter_of_cut hcut (Grammar.Reads.operation ?_ (Nat.le_refl 0))
  refine Grammar.Reads.extend ?_ hchain
  refine reads_predicate hparams.1.column first.wellFormed_predicate 43 (Nat.zero_le _) ?_
  cases more with
  | nil => exact .nil
  | cons p more => exact .keyword (.inl rfl) _

/-- The predicate of a single parameter, read alone. -/
theorem liftFilter_sql {p : Parameter} (hp : Plain p) : liftFilter p.sql = .ok (some p.tree) := by
  have h := liftFilter_predicates (List.forall_mem_singleton.mpr hp)
  rwa [List.map_singleton, String.intercalate_singleton] at h

/-- The predicate of a parameter stands before `AND`, if it is printed as it was written. -/
theorem standsBeforeAnd_tree {p : Parameter} (hp : Plain p) (htext : p.tree.text = p.sql) :
    p.tree.StandsBeforeAnd := by
  refine ⟨_, htext ▸ hp.cut, fun more => ?_⟩
  exact reads_predicate hp.column p.wellFormed_predicate 43 (Nat.zero_le _)
    (.keyword (.inl rfl) more)

end QueryReport.Filter

namespace QueryReport.Sql.Query

variable {q : Query}

theorem filter?_withFilter (h : q.select?.isSome) (filter : Option Expr) :
    (q.withFilter filter).filter? = filter := by
  obtain ⟨s, hs⟩ := Option.isSome_iff_exists.mp h
  unfold filter? withFilter
  rw [select?_mapSelect, hs]
  cases filter <;> rfl

end QueryReport.Sql.Query

namespace QueryReport.Report

open Sql QueryReport.Filter

theorem mergedFilter_some (e : Expr) (predicates : String) :
    mergedFilter (some e) predicates = e.asConjunct.text ++ " AND " ++ predicates := by
  have hparentheses : ∀ text : String,
      "(" ++ text ++ ") AND " ++ predicates = "(" ++ text ++ ")" ++ " AND " ++ predicates := by
    intro text
    rw [show ") AND " = ")" ++ " AND " from rfl, ← String.append_assoc]
  unfold mergedFilter Expr.asConjunct
  split
  · next heq => cases heq
  · next heq =>
    cases heq
    exact hparentheses _
  · next hor heq =>
    cases heq
    split
    · exact absurd rfl (hor _ _)
    · rfl

/-- The filter that parameters with plain columns make of an existing one. -/
def joined (existing : Option Expr) (first : Parameter) (more : List Parameter) : Expr :=
  match existing with
  | none => andAll first.tree (more.map Parameter.tree)
  | some e => andAll e.asConjunct ((first :: more).map Parameter.tree)

theorem filtered_joined {q : Query} {first : Parameter} {more : List Parameter}
    (hparams : ∀ p ∈ first :: more, Plain p)
    (hfilter : ∀ e ∈ q.filter?, e.asConjunct.StandsBeforeAnd) :
    filtered q (first :: more) = .ok (q.withFilter (some (joined q.filter? first more))) := by
  have hlift : liftFilter (mergedFilter q.filter?
      (" AND ".intercalate ((first :: more).map Parameter.sql)))
        = .ok (some (joined q.filter? first more)) := by
    cases hq : q.filter? with
    | none => exact liftFilter_predicates hparams
    | some e =>
        rw [mergedFilter_some]
        exact liftFilter_behind (hfilter e hq) (List.cons_ne_nil first more) hparams
  unfold filtered
  rw [List.isEmpty_cons]
  show (liftFault (liftFilter _) >>= fun filter => pure (q.withFilter filter)) = _
  rw [hlift]
  rfl

theorem conjuncts_joined (existing : Option Expr) (first : Parameter) (more : List Parameter) :
    (joined existing first more).conjuncts
      = (existing.elim [] fun e => e.asConjunct.conjuncts)
        ++ (first :: more).map Parameter.tree := by
  -- The tree of a parameter is not taken apart into conjuncts, even if it is a `BETWEEN`.
  have htrees : ∀ params : List Parameter,
      (params.map Parameter.tree).flatMap Expr.conjuncts = params.map Parameter.tree := by
    intro params
    induction params with
    | nil => rfl
    | cons p params ih =>
        rw [List.map_cons, List.flatMap_cons, conjuncts_tree, ih]
        rfl
  cases existing with
  | none =>
      rw [joined, conjuncts_andAll, htrees, conjuncts_tree]
      rfl
  | some e =>
      rw [joined, conjuncts_andAll, htrees]
      rfl

/-- What a row passes: of an `AND` both sides, of parentheses what is in them. -/
structure Passing (passes : Expr → Prop) : Prop where
  and : ∀ left right, passes (.binary left .and right) ↔ passes left ∧ passes right
  nested : ∀ e, passes (.nested e) ↔ passes e

theorem passes_andAll {passes : Expr → Prop} (h : Passing passes) (e : Expr) (es : List Expr) :
    passes (andAll e es) ↔ passes e ∧ ∀ e' ∈ es, passes e' := by
  unfold andAll
  induction es generalizing e with
  | nil => simp
  | cons e' es ih => rw [List.foldl_cons, ih, h.and, List.forall_mem_cons, and_assoc]

theorem passes_asConjunct {passes : Expr → Prop} (h : Passing passes) (e : Expr) :
    passes e.asConjunct ↔ passes e := by
  unfold Expr.asConjunct
  split
  · exact h.nested _
  · exact Iff.rfl

theorem passes_joined {passes : Expr → Prop} (h : Passing passes) (existing : Option Expr)
    (first : Parameter) (more : List Parameter) :
    passes (joined existing first more)
      ↔ (∀ e ∈ existing, passes e) ∧ ∀ p ∈ first :: more, passes p.tree := by
  cases existing with
  | none =>
      rw [joined, passes_andAll h, List.forall_mem_map, List.forall_mem_cons]
      simp
  | some e =>
      rw [joined, passes_andAll h, passes_asConjunct h, List.forall_mem_map]
      simp

/-- Behind a filter that stands before `AND`, or no filter, every parameter adds one conjunct: its
own predicate, read alone.  So a row passes the new filter exactly if it passes the old one and
every parameter. -/
theorem applyParams_conjuncts {r : Report} {q : Query} {params : List Parameter}
    (hr : Reachable r) (hq : r.baseline = some q) (hne : params ≠ [])
    (hparams : ∀ p ∈ params, Plain p)
    (hfilter : ∀ e ∈ q.filter?, e.asConjunct.StandsBeforeAnd) :
    ∃ next working filter, r.applyParams params = .ok next ∧ next.working = some working
      ∧ working.filter? = some filter
      ∧ filter.conjuncts = (q.filter?.elim [] fun e => e.asConjunct.conjuncts)
        ++ params.map Parameter.tree
      ∧ (∀ p ∈ params, liftFilter p.sql = .ok (some p.tree))
      ∧ ∀ passes, Passing passes →
        (passes filter ↔ (∀ e ∈ q.filter?, passes e) ∧ ∀ p ∈ params, passes p.tree) := by
  cases params with
  | nil => exact absurd rfl hne
  | cons first more =>
      let paged := (q.withLimit r.limit).withOffset r.offset
      let filter := joined q.filter? first more
      -- With parameters to add, a working copy is not looked at.
      have hbase : r.filterBase (first :: more) = .ok q := by
        have hrequired : r.required = .ok q := required_eq_ok.mpr hq
        unfold filterBase
        cases r.working <;> exact hrequired
      have hlists := hr.consistent.baseline_lists q hq
      have hselect : paged.select?.isSome :=
        (Query.lists_withOffset (Query.lists_withLimit hlists _) _).isSelect
      have hfiltered : filtered paged (first :: more) = .ok (paged.withFilter (some filter)) :=
        filtered_joined hparams hfilter
      have happly : r.applyParams (first :: more)
          = .ok { r with working := some (paged.withFilter (some filter)) } := by
        unfold applyParams
        rw [Change.result_of_outcome (Change.outcome_applyParams _ r), hbase]
        show (filtered paged (first :: more) >>= _) = _
        rw [hfiltered]
        rfl
      exact ⟨_, _, filter, happly, rfl, Query.filter?_withFilter hselect _,
        conjuncts_joined q.filter? first more, fun p hp => liftFilter_sql (hparams p hp),
        fun passes hpassing => passes_joined hpassing q.filter? first more⟩

/-- A report with the filter `a = 1` that is filtered by `b` as well. -/
theorem conjuncts_behind_comparison :
    ∃ (r next : Report) (working : Query) (filter : Expr),
      r.applyParams [⟨"b", ⟨.eq, [.text "x"], .string⟩, false⟩] = .ok next
        ∧ next.working = some working ∧ working.filter? = some filter
        ∧ filter.conjuncts.map Expr.text = ["a = 1", "b = 'x'"] := by
  let a : Parameter := ⟨"a", ⟨.eq, [.int 1], .integer⟩, false⟩
  let b : Parameter := ⟨"b", ⟨.eq, [.text "x"], .string⟩, false⟩
  have hreport : ∃ r, Reachable r ∧ r.baseline.bind Query.filter? = some a.tree :=
    ⟨_, Reachable.empty.step (.call (.setSql "SELECT id FROM t WHERE a = 1")), by decide +kernel⟩
  obtain ⟨r, hr, hbaseline⟩ := hreport
  obtain ⟨q, hq, hfilter⟩ := Option.bind_eq_some_iff.mp hbaseline
  -- The filter of the text is a predicate itself, so it stands before an `AND` as it is.
  have hstands : ∀ e ∈ q.filter?, e.asConjunct.StandsBeforeAnd := by
    rw [hfilter]
    rintro e ⟨⟩
    rw [asConjunct_tree]
    exact standsBeforeAnd_tree (show Plain a by decide +kernel) (by decide +kernel)
  obtain ⟨next, working, filter, happly, hworking, hfilter', hconjuncts, -⟩ :=
    applyParams_conjuncts hr hq (List.cons_ne_nil b [])
      (List.forall_mem_singleton.mpr (show Plain b by decide +kernel)) hstands
  refine ⟨r, next, working, filter, happly, hworking, hfilter', ?_⟩
  rw [hconjuncts, hfilter]
  decide +kernel

/-- The right side of `IS DISTINCT FROM` takes what follows an `AND`, so that the parameter's
predicate becomes a part of the old filter, although that survives being printed and read. -/
theorem distinct_takes_predicate :
    ∃ (r : Report) (w filter : Expr), Reachable r
      ∧ r.baseline.bind Query.filter? = some w ∧ liftFilter w.text = .ok (some w)
      ∧ ((r.applyParams [⟨"c", ⟨.eq, [.text "x"], .string⟩, false⟩]).toOption.bind
        Report.working).bind Query.filter? = some filter
      ∧ filter.text = "a IS DISTINCT FROM b AND c = 'x'" ∧ filter.conjuncts = [filter] := by
  let w : Expr := .distinctTest (.column ⟨"a", none⟩) false (.column ⟨"b", none⟩)
  let filter : Expr := .distinctTest (.column ⟨"a", none⟩) false (.binary (.column ⟨"b", none⟩) .and
    (.binary (.column ⟨"c", none⟩) (.symbol "=") (.literal (.string "x"))))
  have hr := Reachable.empty.step (.call (.setSql "SELECT id FROM t WHERE a IS DISTINCT FROM b"))
  exact ⟨_, w, filter, hr, by decide +kernel, by decide +kernel, by decide +kernel,
    by decide +kernel, rfl⟩

/-- At the end of a filter `not` is a name, but in front of `AND` and a parenthesis it is an
operator on the call of a function `AND`. -/
theorem trailing_not_takes_predicate :
    ∃ (r : Report) (w : Expr), Reachable r ∧ r.baseline.bind Query.filter? = some w
      ∧ liftFilter w.text = .ok (some w)
      ∧ (((r.applyParams [⟨"c", ⟨.matchOrNull, [.text "v"], .string⟩, false⟩]).toOption.bind
        Report.working).bind Query.filter?).map (fun e => e.conjuncts.map Expr.text)
          = some ["x = NOT AND(c = 'v' OR c IS NULL)"] := by
  let w : Expr := .binary (.column ⟨"x", none⟩) (.symbol "=") (.column ⟨"not", none⟩)
  have hr := Reachable.empty.step (.call (.setSql "SELECT id FROM t WHERE x = not"))
  exact ⟨_, w, hr, by decide +kernel, by decide +kernel, by decide +kernel⟩

end QueryReport.Report
