import QueryReport.Proofs.Sql.Reading.Basic
import QueryReport.Sql.Statement

/-!
# `QueryReport.Proofs.Sql.Reading.Around`: queries around their filters

What stands in front of the filter of a `SELECT` is read without a look at the filter.  `Opening` is
what the reader has by then, and `closing` reads what follows the filter.

* `queryAt_around`: a query is its opening, then its filter, then what follows.
* `parse_around`: so is a text that is one query.
-/

set_option autoImplicit false

namespace QueryReport.Sql

/-- What a query has in front of the filter of its `SELECT`. -/
structure Opening where
  recursive : Bool
  tables : CommonTables
  select : Select

namespace Parser

variable {o : Opening} {g : Grammar} {e : Expr} {q : Query} {ts us rest : List Token}

namespace Grammar

/-- The opening of a query. -/
def opening (g : Grammar) : Parser Opening := do
  let (recursive, tables) ← g.withClause
  let select ← g.selectStart
  pure ⟨recursive, tables, select⟩

/-- The clauses after the filter of a query. -/
def closing (g : Grammar) (o : Opening) (e : Expr) : Parser Query := do
  let s ← g.selectEnd { o.select with filter := .some e }
  let left ← g.intersections (.select s) ((← Parser.rest).length + 1)
  let body ← g.unions left ((← Parser.rest).length + 1)
  g.queryEnd o.recursive o.tables body

theorem expect_key {key : String} {a : Unit} (h : expect key us = .ok (a, ts)) :
    keyOf us.head? = key := by
  refine Decidable.byContradiction fun hne => ?_
  obtain ⟨e, he, -⟩ := Fails.of_bind_ok (f := fun b => if !b then fail else pure ())
    (keyword_ne hne) (fails_fail us)
  cases he.symm.trans h

/-- An opening ends with a `SELECT`. -/
theorem selectStart_key {s : Select} (h : g.selectStart us = .ok (s, ts)) :
    keyOf us.head? = "SELECT" := by
  obtain ⟨_, _, hexpect, -⟩ := bind_eq_ok_iff.mp h
  exact expect_key hexpect

theorem select_around {s s' : Select}
    (hstart : g.selectStart ts = .ok (s, keywordToken "WHERE" :: us))
    (hread : g.expression us = .ok (e, rest)) {rest' : List Token}
    (hend : g.selectEnd { s with filter := .some e } rest = .ok (s', rest')) :
    g.select ts = .ok (s', rest') := by
  have hafter : after "WHERE" g.expression (keywordToken "WHERE" :: us) = .ok (some e, rest) := by
    unfold after
    rw [keywordToken, bind_ok (keyword_self _ _ us)]
    exact map_ok hread some
  have hfilter : g.expressionAfter "WHERE" (keywordToken "WHERE" :: us) = .ok (.some e, rest) :=
    map_ok hafter MaybeExpr.ofOption
  unfold select
  rw [bind_ok hstart, bind_ok hfilter]
  exact hend

/-- A query is its opening, then its filter, then what follows. -/
theorem queryAt_around (hopen : g.opening ts = .ok (o, keywordToken "WHERE" :: us))
    (hread : g.expression us = .ok (e, rest)) (hclose : g.closing o e rest = .ok (q, [])) :
    g.queryAt ts = .ok (q, []) := by
  -- The steps of the opening and of the clauses after the filter, one by one.
  obtain ⟨⟨recursive, tables⟩, vs, hwith, hopen⟩ := bind_eq_ok_iff.mp hopen
  obtain ⟨s, _, hstart, ⟨⟩⟩ := bind_eq_ok_iff.mp hopen
  obtain ⟨s', rest₁, hend, hclose⟩ := bind_eq_ok_iff.mp hclose
  rw [rest_bind] at hclose
  obtain ⟨left, rest₂, hintersections, hclose⟩ := bind_eq_ok_iff.mp hclose
  rw [rest_bind] at hclose
  obtain ⟨body, rest₃, hunions, hclose⟩ := bind_eq_ok_iff.mp hclose
  have hkey := selectStart_key hstart
  have hpeek : peekKey vs = .ok ("SELECT", vs) := by
    show Except.ok (keyOf vs.head?, vs) = _
    rw [hkey]
  have hsimple : g.simpleBody vs = .ok (.select s', rest₁) := by
    unfold simpleBody
    rw [bind_ok hpeek]
    exact map_ok (select_around hstart hread hend) Body.select
  have hintersection : g.intersection vs = .ok (left, rest₂) := by
    unfold intersection
    rw [bind_ok hsimple]
    exact hintersections
  have hbody : g.body vs = .ok (body, rest₃) := by
    unfold Grammar.body
    rw [bind_ok hintersection]
    exact hunions
  -- A query without `SELECT` would be an `INSERT` or an `UPDATE`.
  have hinsert : keyword "INSERT" vs = .ok (false, vs) := keyword_ne (by rw [hkey]; decide)
  have hupdate : keyword "UPDATE" vs = .ok (false, vs) := keyword_ne (by rw [hkey]; decide)
  unfold queryAt
  refine (bind_ok hwith _).trans ?_
  refine (bind_ok hinsert _).trans ?_
  refine (bind_ok hupdate _).trans ?_
  exact (bind_ok hbody _).trans hclose

/-- An opening begins with `SELECT`, or with the tables that `WITH` names. -/
theorem opening_key (h : g.opening ts = .ok (o, us)) : keyOf ts.head? ∈ ["SELECT", "WITH"] := by
  obtain ⟨_, vs, hwith, hopen⟩ := bind_eq_ok_iff.mp h
  obtain ⟨_, _, hstart, -⟩ := bind_eq_ok_iff.mp hopen
  by_cases hkey : keyOf ts.head? = "WITH"
  · rw [hkey]
    exact List.mem_cons_of_mem _ List.mem_cons_self
  · have hnone : g.withClause ts = .ok ((false, .nil), ts) := by
      unfold withClause
      rw [bind_ok (keyword_ne hkey)]
      rfl
    cases hwith.symm.trans hnone
    rw [selectStart_key hstart]
    exact List.mem_cons_self

end Grammar

/-- Tokens that are read as a query from `SELECT` or `WITH` on are one statement. -/
theorem statements_query (depth : Nat) (hkey : keyOf ts.head? ∈ ["SELECT", "WITH"])
    (h : (grammar depth).query ts = .ok (q, [])) :
    statements (statementAt (depth + 1)) ts = .ok ([.query q], []) := by
  have hword : ∃ name key more, ts = .word name key :: more
      ∧ ["SELECT", "WITH", "VALUES"].contains key := by
    unfold keyOf at hkey
    split at hkey
    · next name key hhead =>
      obtain ⟨more, rfl⟩ := List.head?_eq_some_iff.mp hhead
      refine ⟨name, key, more, rfl, ?_⟩
      simp only [List.mem_cons, List.not_mem_nil, or_false] at hkey
      obtain rfl | rfl := hkey <;> rfl
    · exact absurd hkey (by decide)
  obtain ⟨name, key, more, rfl, hquery⟩ := hword
  have hmark : mark ";" (.word name key :: more) = .ok (false, .word name key :: more) := rfl
  have hpeek : peek (.word name key :: more)
      = .ok (some (.word name key), .word name key :: more) := rfl
  have hstatement : statementAt (depth + 1) (.word name key :: more) = .ok (.query q, []) := by
    unfold statementAt
    rw [rest_bind]
    show (if _ then _ else _ : Parser Statement) _ = _
    rw [if_pos hquery]
    exact map_ok h Statement.query
  -- Nothing is left, so the fuel for more statements does not matter.
  have hmore : ∀ n, statementsUpTo (statementAt (depth + 1)) true (n + 1) [] = .ok ([], []) :=
    fun _ => rfl
  unfold statements
  rw [rest_bind]
  show statementsUpTo _ false (2 * more.length + 2 + 1 + 1) _ = _
  unfold statementsUpTo
  refine (bind_ok hmark _).trans ?_
  refine (bind_ok hpeek _).trans ?_
  refine (bind_ok hstatement _).trans ?_
  refine (bind_ok (hmore _) _).trans ?_
  rfl

end Parser

open QueryReport.Sql.Parser

theorem parse_of_tokens {text : String} {ts : List Token} (h : tokens text = .ok ts) :
    parse text = Prod.fst <$> statements (statementAt nestingLimit) ts := by
  unfold parse
  rw [h]
  rfl

/-- A text is a query if its tokens are an opening, a filter, and what follows the filter. -/
theorem parse_around {text : String} {o : Opening} {e : Expr} {q : Query} {ts us rest : List Token}
    (htokens : tokens text = .ok ts)
    (hopen : (grammar 48).opening ts = .ok (o, keywordToken "WHERE" :: us))
    (hread : (grammar 48).expression us = .ok (e, rest))
    (hclose : (grammar 48).closing o e rest = .ok (q, [])) : parse text = .ok [.query q] := by
  have hquery : (grammar 49).query ts = .ok (q, []) := Grammar.queryAt_around hopen hread hclose
  have hstatements := statements_query 49 (Grammar.opening_key hopen) hquery
  rw [parse_of_tokens htokens, show nestingLimit = 49 + 1 from rfl, hstatements]
  rfl

end QueryReport.Sql
