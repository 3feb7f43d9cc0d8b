import Mathlib.Data.List.Induction
import QueryReport.Proofs.Report.Literal
import QueryReport.Proofs.Report.Outcome

/-!
# `QueryReport.Proofs.Report.Viewing`: which calls the query to run remembers

A report is viewed by filtering, sorting and paging it, in any order and as often as one likes,
while its SQL stays.  The query to run then comes from the baseline and three things that came last:
the filter, the paging that a filter was applied with, and the order.

* `Viewing` is one such step, and `Report.viewed` a run of them.  `Report.succeeded` are the steps
  of a run that do not fail.
* `Report.Tracks` is the invariant of a run, `tracks_snoc` what a further step does to it.
* `viewed_runnable` is the result; `applyParams_again` and `replaceFilter_again` are about a call
  that is made twice.
-/

set_option autoImplicit false

namespace QueryReport

open Sql QueryReport.Filter

/-- A step that changes what is seen of a report: a call, or an assignment to its paging. -/
inductive Viewing where
  | applyParams (params : List Parameter)
  | replaceFilter (params : List Parameter)
  | setOrder (text : Option String)
  | setLimit (limit : Option Nat)
  | setOffset (offset : Option Nat)

/-- What takes the place of an earlier filter: parameters besides the filter of the baseline, or
instead of it. -/
inductive Refilter where
  | besides (params : List Parameter)
  | only (params : List Parameter)

namespace Viewing

def change : Viewing → Change Unit
  | applyParams params => Change.applyParams params
  | replaceFilter params => Change.replaceFilter params
  | setOrder text => Change.setOrder text
  | setLimit limit => modify ({ · with limit })
  | setOffset offset => modify ({ · with offset })

/-- The filter that the step stands for, if it does not keep the one before. -/
def refilter? : Viewing → Option Refilter
  | applyParams [] => none
  | applyParams (p :: ps) => some (.besides (p :: ps))
  | replaceFilter params => some (.only params)
  | _ => none

/-- The paging that the step takes over from the report, if it takes it over. -/
def paging? (r : Report) : Viewing → Option (Option Nat × Option Nat)
  | applyParams _ | replaceFilter _ => some (r.limit, r.offset)
  | _ => none

/-- The order that the step sets, if it sets one. -/
def order? : Viewing → Option (Option String)
  | setOrder text => some text
  | _ => none

end Viewing

namespace Report

/-! ## Runs -/

/-- The report after a step, whether that failed or not. -/
def view (r : Report) (s : Viewing) : Report := (s.change.outcome r).2

/-- The report after a run. -/
def viewed (r : Report) (steps : List Viewing) : Report := steps.foldl view r

/-- The steps of a run that do not fail, each with the report that it is done to. -/
def succeeded : Report → List Viewing → List (Report × Viewing)
  | _, [] => []
  | r, s :: steps =>
    match s.change.result r with
    | .ok _ => (r, s) :: succeeded (r.view s) steps
    | .error _ => succeeded (r.view s) steps

/-- The last filter that a run sets. -/
def lastFilter (r : Report) (steps : List Viewing) : Option Refilter :=
  ((r.succeeded steps).filterMap fun (_, s) => s.refilter?).getLast?

/-- The paging at the last filtering of a run. -/
def lastPaging (r : Report) (steps : List Viewing) : Option (Option Nat × Option Nat) :=
  ((r.succeeded steps).filterMap fun (before, s) => s.paging? before).getLast?

/-- The text of the last order that a run sets. -/
def lastOrder (r : Report) (steps : List Viewing) : Option (Option String) :=
  ((r.succeeded steps).filterMap fun (_, s) => s.order?).getLast?

/-! ## What came last -/

/-- A query with a filter that was set last; without one the query that there was. -/
def filteredBy (q : Query) (initial : Option Query) : Option Refilter → Except Error Query
  | some (.besides params) => filtered q params
  | some (.only params) => filtered (q.withFilter none) params
  | none => .ok (initial.getD q)

/-- The working copy of a filter and a paging that were set last. -/
def workingOf (q : Query) (initial : Option Query) (filter : Option Refilter) :
    Option (Option Nat × Option Nat) → Except Error (Option Query)
  | some (limit, offset) => do
    let working ← filteredBy q initial filter
    pure (some ((working.withLimit limit).withOffset offset))
  | none => .ok initial

/-- The sort keys of an order that was set last. -/
def orderOf (initial : Option (List OrderKey)) :
    Option (Option String) → Except Error (Option (List OrderKey))
  | some text => readOrder text
  | none => .ok initial

/-! ## Single calls -/

variable {r next : Report} {q : Query} {params : List Parameter}

/-- The paging before is forgotten. -/
theorem paged_paged (q : Query) (limit offset limit' offset' : Option Nat) :
    ((((q.withLimit limit).withOffset offset).withLimit limit').withOffset offset')
      = (q.withLimit limit').withOffset offset' := rfl

/-- The filter base is the baseline, unless nothing is added to a working copy. -/
theorem filterBase_cons (r : Report) (p : Parameter) (ps : List Parameter) :
    r.filterBase (p :: ps) = r.required := by
  unfold filterBase
  cases r.working <;> rfl

theorem filterBase_nil (hq : r.baseline = some q) :
    r.filterBase [] = .ok (r.working.getD q) := by
  unfold filterBase
  cases r.working with
  | none => exact required_eq_ok.mpr hq
  | some working => rfl

/-- A call with the same parameters right after one that succeeded. -/
theorem applyParams_again (h : r.applyParams params = .ok next) :
    next.applyParams params = .ok next := by
  obtain ⟨q, working, hq, hworking, rfl⟩ := applyParams_eq_ok.mp h
  cases params with
  | nil =>
      -- The paged copy is the base of the second call.
      exact applyParams_eq_ok.mpr ⟨_, _, rfl, rfl, by cases hworking; rfl⟩
  | cons p ps =>
      rw [filterBase_cons] at hq
      refine applyParams_eq_ok.mpr ⟨q, working, ?_, hworking, rfl⟩
      rw [filterBase_cons]
      exact hq

theorem replaceFilter_again (h : r.replaceFilter params = .ok next) :
    next.replaceFilter params = .ok next := by
  obtain ⟨q, working, hq, hworking, rfl⟩ := replaceFilter_eq_ok.mp h
  exact replaceFilter_eq_ok.mpr ⟨q, working, hq, hworking, rfl⟩

/-! ## The invariant of a run -/

/-- A report that has come about from `r` by steps with the given things last. -/
structure Tracks (q : Query) (r : Report) (filter : Option Refilter)
    (paging : Option (Option Nat × Option Nat)) (order : Option (Option String))
    (current : Report) : Prop where
  sql : current.sql = r.sql
  baseline : current.baseline = some q
  columns : current.columns = r.columns
  definitions : current.definitions = r.definitions
  working : workingOf q r.working filter paging = .ok current.working
  order : orderOf r.order order = .ok current.order
  /-- A filter is set together with a paging. -/
  paged : paging = none → filter = none

theorem tracks_nil (hq : r.baseline = some q) : Tracks q r none none none r :=
  ⟨rfl, hq, rfl, rfl, rfl, rfl, fun _ => rfl⟩

section
variable {filter : Option Refilter} {paging : Option (Option Nat × Option Nat)}
  {order : Option (Option String)} {current : Report}

/-- A working copy can be paged anew without looking at how it came about. -/
theorem Tracks.filteredBy (h : Tracks q r filter paging order current) :
    ∃ working, filteredBy q r.working filter = .ok working ∧ ∀ limit offset,
      ((current.working.getD q).withLimit limit).withOffset offset
        = (working.withLimit limit).withOffset offset := by
  have hworking := h.working
  cases paging with
  | none =>
      -- Nothing has been filtered yet, so the copy is the initial one.
      rw [h.paged rfl]
      rw [workingOf, Except.ok.injEq] at hworking
      exact ⟨r.working.getD q, rfl, fun _ _ => by rw [hworking]⟩
  | some paging =>
      -- The copy has a paging of its own, but the new one takes its place.
      obtain ⟨working, hfiltered, hcurrent⟩ := bind_eq_ok.mp hworking
      rw [pure_eq_ok] at hcurrent
      refine ⟨working, hfiltered, fun limit offset => ?_⟩
      rw [← hcurrent]
      exact paged_paged working paging.1 paging.2 limit offset

theorem Tracks.applyParams (h : Tracks q r filter paging order current)
    (hnext : current.applyParams params = .ok next) :
    Tracks q r ((Viewing.applyParams params).refilter?.or filter)
      (some (current.limit, current.offset)) order next := by
  obtain ⟨base, working, hbase, hworking, rfl⟩ := applyParams_eq_ok.mp hnext
  cases params with
  | nil =>
      -- Without parameters the filter stays, and only the paging is new.
      obtain ⟨before, hbefore, hpaged⟩ := h.filteredBy
      rw [filterBase_nil h.baseline, Except.ok.injEq] at hbase
      cases hworking
      refine { h with working := ?_, paged := nofun }
      rw [workingOf, Viewing.refilter?, Option.none_or, hbefore, ← hbase, hpaged]
      rfl
  | cons p ps =>
      -- With parameters the baseline is filtered anew, whatever the copy was.
      rw [filterBase_cons, required_eq_ok, h.baseline, Option.some.injEq] at hbase
      subst hbase
      refine { h with working := ?_, paged := nofun }
      show (filtered q (p :: ps) >>= _) = _
      rw [hworking]
      rfl

theorem Tracks.replaceFilter (h : Tracks q r filter paging order current)
    (hnext : current.replaceFilter params = .ok next) :
    Tracks q r (some (.only params)) (some (current.limit, current.offset)) order next := by
  obtain ⟨base, working, hbase, hworking, rfl⟩ := replaceFilter_eq_ok.mp hnext
  rw [h.baseline, Option.some.injEq] at hbase
  subst hbase
  refine { h with working := ?_, paged := nofun }
  show (filtered (q.withFilter none) params >>= _) = _
  rw [hworking]
  rfl

theorem Tracks.setOrder {text : Option String} (h : Tracks q r filter paging order current)
    (hnext : current.setOrder text = .ok next) : Tracks q r filter paging (some text) next := by
  obtain ⟨keys, hkeys, rfl⟩ := setOrder_eq_ok.mp hnext
  exact { h with order := hkeys }

end

/-! ## What one more step does -/

theorem viewed_snoc (r : Report) (steps : List Viewing) (s : Viewing) :
    r.viewed (steps ++ [s]) = (r.viewed steps).view s := by
  rw [viewed, List.foldl_append]
  rfl

theorem succeeded_snoc (r : Report) (steps : List Viewing) (s : Viewing) :
    r.succeeded (steps ++ [s]) = r.succeeded steps ++ match s.change.result (r.viewed steps) with
      | .ok _ => [(r.viewed steps, s)]
      | .error _ => [] := by
  induction steps generalizing r with
  | nil =>
      show (match s.change.result r with | .ok _ => _ | .error _ => _)
        = (match s.change.result r with | .ok _ => _ | .error _ => _)
      cases s.change.result r <;> rfl
  | cons first steps ih =>
      rw [List.cons_append, succeeded, succeeded, ih]
      cases first.change.result r <;> rfl

/-- The last result of a function on a list with one more member. -/
theorem getLast?_filterMap_snoc {α β : Type} (f : α → Option β) (xs : List α) (x : α) :
    ((xs ++ [x]).filterMap f).getLast? = (f x).or (xs.filterMap f).getLast? := by
  rw [List.filterMap_append]
  cases h : f x <;> simp [h]

/-- A step is all or nothing, also one that is an assignment. -/
theorem outcome_viewing (s : Viewing) (r : Report) :
    s.change.outcome r = Change.commit r (s.change.result r) := by
  cases s with
  | applyParams params => exact Operation.outcome_change (.applyParams params) r
  | replaceFilter params => exact Operation.outcome_change (.replaceFilter params) r
  | setOrder text => exact Operation.outcome_change (.setOrder text) r
  | setLimit limit => rfl
  | setOffset offset => rfl

/-- A further step keeps the invariant, with what it sets as the last. -/
theorem tracks_snoc {steps : List Viewing}
    (h : Tracks q r (r.lastFilter steps) (r.lastPaging steps) (r.lastOrder steps)
      (r.viewed steps)) (s : Viewing) :
    Tracks q r (r.lastFilter (steps ++ [s])) (r.lastPaging (steps ++ [s]))
      (r.lastOrder (steps ++ [s])) (r.viewed (steps ++ [s])) := by
  rw [viewed_snoc, view, outcome_viewing]
  unfold lastFilter lastPaging lastOrder at h ⊢
  rw [succeeded_snoc]
  cases hresult : s.change.result (r.viewed steps) with
  | error e =>
      -- A step that fails leaves the report and is not among the succeeded ones.
      rw [List.append_nil]
      exact h
  | ok next =>
      -- Only the last step can have changed what came last.
      simp only [getLast?_filterMap_snoc]
      cases s with
      | applyParams params => exact h.applyParams hresult
      | replaceFilter params => exact h.replaceFilter hresult
      | setOrder text => exact h.setOrder hresult
      | setLimit limit =>
          cases hresult
          exact { h with }
      | setOffset offset =>
          cases hresult
          exact { h with }

/-- The invariant holds of every run. -/
theorem tracks_viewed (hq : r.baseline = some q) (steps : List Viewing) :
    Tracks q r (r.lastFilter steps) (r.lastPaging steps) (r.lastOrder steps)
      (r.viewed steps) := by
  induction steps using List.reverseRecOn with
  | nil => exact tracks_nil hq
  | append_singleton steps s ih => exact tracks_snoc ih s

/-- After any run of filters, orders and paging, whether they fail or not, the query to run comes
from the baseline, the filter that was set last, the paging at the last filtering and the order that
was set last.  The rest of the report stays, and a call that filters and is made again at once
changes nothing. -/
theorem viewed_runnable (hq : r.baseline = some q) (steps : List Viewing) :
    (∃ working order,
        workingOf q r.working (r.lastFilter steps) (r.lastPaging steps) = .ok working
        ∧ orderOf r.order (r.lastOrder steps) = .ok order
        ∧ (r.viewed steps).runnableSql = .ok ((working.getD q).withOrder order).text)
      ∧ (r.viewed steps).sql = r.sql ∧ (r.viewed steps).baseline = r.baseline
      ∧ (r.viewed steps).columns = r.columns ∧ (r.viewed steps).definitions = r.definitions
      ∧ (∀ params next, (r.viewed steps).applyParams params = .ok next →
          next.applyParams params = .ok next)
      ∧ ∀ params next, (r.viewed steps).replaceFilter params = .ok next →
          next.replaceFilter params = .ok next := by
  -- The run is followed by what was set last, step by step; this is read off at its end.
  have h := tracks_viewed hq steps
  refine ⟨⟨_, _, h.working, h.order, ?_⟩, h.sql, h.baseline.trans hq.symm, h.columns,
    h.definitions, fun _ _ => applyParams_again, fun _ _ => replaceFilter_again⟩
  unfold runnableSql runnable
  rw [required_eq_ok.mpr h.baseline]
  rfl

/-- An order that cannot be read leaves no trace, nor does a filter that another one replaces. -/
theorem runnable_after_failed_order :
    ∃ (r : Report) (q : Query) (steps : List Viewing) (working : Option Query)
      (order : Option (List OrderKey)), r.baseline = some q
        ∧ workingOf q r.working (r.lastFilter steps) (r.lastPaging steps) = .ok working
        ∧ orderOf r.order (r.lastOrder steps) = .ok order
        ∧ ((working.getD q).withOrder order).text
          = "SELECT id FROM t WHERE c = 'y' ORDER BY id DESC LIMIT 5" := by
  let steps : List Viewing := [
    .applyParams [⟨"b", ⟨.eq, [.text "x"], .string⟩, false⟩],
    .setOrder (some "id DESC"), .setOrder (some "id,"), .setLimit (some 5),
    .replaceFilter [⟨"c", ⟨.eq, [.text "y"], .string⟩, false⟩], .setLimit none]
  -- The report is a variable from here on: what is evaluated of it is evaluated once.
  obtain ⟨r, hbaseline, htext⟩ : ∃ r : Report, r.baseline.isSome ∧ (r.viewed steps).runnableSql
      = .ok "SELECT id FROM t WHERE c = 'y' ORDER BY id DESC LIMIT 5" :=
    ⟨({} : Report).adopting "SELECT id FROM t WHERE a = 1 LIMIT 9" rfl, by decide +kernel⟩
  obtain ⟨q, hq⟩ := Option.isSome_iff_exists.mp hbaseline
  obtain ⟨⟨working, order, hworking, horder, hrun⟩, -⟩ := viewed_runnable hq steps
  exact ⟨r, q, steps, working, order, hq, hworking, horder, Except.ok.inj (hrun.symm.trans htext)⟩

end Report

end QueryReport
