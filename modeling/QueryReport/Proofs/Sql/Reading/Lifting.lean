import QueryReport.Proofs.Except
import QueryReport.Proofs.Sql.Reading.Fragment

/-!
# `QueryReport.Proofs.Sql.Reading.Lifting`: what becomes of the text a piece is lifted from

A filter, sort keys or a target is lifted out of a text by reading the text behind the beginning of
a query.  The whole text has to be read as one query, so a text that goes on with another clause is
read as well, and what the clause says is dropped.  The theorems here say when that happens.

* `Stops`: behind the piece that a text begins with, nothing of a query begins.
* `Spells`: the piece is all that the text has.
* `queryAt_of_select`, `parseQuery_select`: what is left of the tokens behind a `SELECT`, and behind
  a query.
* `lifted_text_used_up` is the result for the three kinds of pieces.
-/

set_option autoImplicit false

namespace QueryReport.Sql

open QueryReport.Sql.Parser

namespace Parser

variable {α : Type} {p : Parser α} {ts us rest : List Token} {q : Query}

/-! ## What may follow a piece -/

/-- The words by which a query may go on behind a piece of it, and the word that ends the reading
of statements wherever it stands. -/
def followWords : List String :=
  ["INTO", "FROM", "LATERAL", "WHERE"] ++ clauseWords ++ ["INTERSECT", "UNION", "EXCEPT", "END"]

/-- Nothing of a query goes on there. -/
structure Halts (ts : List Token) : Prop where
  word : keyOf ts.head? ∉ followWords
  comma : ts.head? ≠ some (.symbol ",")

namespace Halts

theorem keys (h : Halts ts) {keys : List String} (hkeys : ∀ key ∈ keys, key ∈ followWords) :
    keyOf ts.head? ∉ keys :=
  fun hmem => h.word (hkeys _ hmem)

theorem key (h : Halts ts) {key : String} (hkey : key ∈ followWords) : keyOf ts.head? ≠ key :=
  fun heq => h.word (heq ▸ hkey)

theorem keyword (h : Halts ts) {key : String} (hkey : key ∈ followWords) :
    Parser.keyword key ts = .ok (false, ts) :=
  keyword_ne (h.key hkey)

theorem keywords (h : Halts ts) {key : String} (keys : List String) (hkey : key ∈ followWords) :
    Parser.keywords (key :: keys) ts = .ok (false, ts) :=
  keywords_ne (h.key hkey)

theorem after (h : Halts ts) {key : String} (hkey : key ∈ followWords) :
    Parser.after key p ts = .ok (none, ts) :=
  after_ne (h.key hkey)

theorem listAfter (h : Halts ts) {key : String} (keys : List String) (hkey : key ∈ followWords) :
    Parser.listAfter (key :: keys) p ts = .ok ([], ts) := by
  unfold Parser.listAfter
  rw [bind_ok (h.keywords keys hkey)]
  rfl

end Halts

/-- Semicolons, if anything. -/
def Semicolons (ts : List Token) : Prop := ∀ t ∈ ts, t = .symbol ";"

theorem Semicolons.halts (h : Semicolons ts) : Halts ts := by
  cases ts with
  | nil => exact ⟨by decide, nofun⟩
  | cons t ts =>
      obtain rfl := h t List.mem_cons_self
      refine ⟨?_, fun heq => absurd (Option.some.inj heq) (by decide)⟩
      show "" ∉ followWords
      decide

/-- The first of several entries is read. -/
theorem separated_first {as : List α} (h : separated p ts = .ok (as, rest)) :
    ∃ a us, p ts = .ok (a, us) := by
  unfold separated separatedUpTo at h
  rw [rest_bind] at h
  obtain ⟨a, us, ha, -⟩ := bind_eq_ok_iff.mp h
  exact ⟨a, us, ha⟩

/-! ## Behind a statement -/

/-- Where no statement is found, nothing but semicolons is left, or behind a statement the word
`END`. -/
theorem statementsUpTo_nil {statement : Parser Statement} {count : Nat} {between : Bool}
    (h : statementsUpTo statement between count ts = .ok ([], rest)) :
    between = true ∧ keyOf ts.head? = "END" ∨ Semicolons ts := by
  induction count generalizing between ts with
  | zero =>
      obtain ⟨e, he, -⟩ := @fails_fail (List Statement) ts
      cases he.symm.trans h
  | succ count ih =>
      unfold statementsUpTo at h
      by_cases hsemi : ts.head? = some (.symbol ";")
      · obtain ⟨us, rfl⟩ := List.head?_eq_some_iff.mp hsemi
        rw [bind_ok (mark_self ";" us)] at h
        -- After a semicolon a statement may stand, so that `END` would be read as one.
        obtain ⟨hfalse, -⟩ | hus := ih h
        · cases hfalse
        · exact .inr (List.forall_mem_cons.mpr ⟨rfl, hus⟩)
      · rw [bind_ok (mark_ne hsemi)] at h
        cases ts with
        | nil => exact .inr (List.forall_mem_nil _)
        | cons t us =>
            have hpeek : peek (t :: us) = .ok (some t, t :: us) := rfl
            replace h := (bind_ok hpeek _).symm.trans h
            cases between with
            | true =>
                refine .inl ⟨rfl, Decidable.byContradiction fun hend => ?_⟩
                obtain ⟨e, he, -⟩ := @fails_fail (List Statement) (t :: us)
                have hfail : (if keyOf (some t) = "END" then pure [] else fail :
                    Parser (List Statement)) (t :: us) = .error e := by
                  rw [if_neg (show ¬ keyOf (some t) = "END" from hend)]
                  exact he
                cases hfail.symm.trans h
            | false =>
                obtain ⟨s, vs, -, h⟩ := bind_eq_ok_iff.mp h
                obtain ⟨more, ws, -, h⟩ := bind_eq_ok_iff.mp h
                cases h

/-- A single query from `SELECT` on is read to where nothing but semicolons is left, or to the word
`END`. -/
theorem statements_select {depth : Nat} (hkey : keyOf ts.head? = "SELECT")
    (h : statements (statementAt (depth + 1)) ts = .ok ([.query q], rest)) :
    ∃ us, (grammar depth).query ts = .ok (q, us) ∧ (keyOf us.head? = "END" ∨ Semicolons us) := by
  obtain ⟨name, more, rfl⟩ : ∃ name more, ts = .word name "SELECT" :: more := by
    unfold keyOf at hkey
    split at hkey
    · next name key hhead =>
      obtain ⟨more, rfl⟩ := List.head?_eq_some_iff.mp hhead
      exact ⟨name, more, hkey ▸ rfl⟩
    · exact absurd hkey (by decide)
  have hmark : mark ";" (.word name "SELECT" :: more) = .ok (false, .word name "SELECT" :: more) :=
    rfl
  have hpeek : peek (.word name "SELECT" :: more)
      = .ok (some (.word name "SELECT"), .word name "SELECT" :: more) := rfl
  have hstatement : statementAt (depth + 1) (.word name "SELECT" :: more)
      = (Statement.query <$> (grammar depth).query) (.word name "SELECT" :: more) := rfl
  -- The first round reads the query, and the second finds no further statement.
  unfold statements at h
  rw [rest_bind] at h
  replace h : statementsUpTo _ false (2 * more.length + 2 + 1 + 1) _ = _ := h
  unfold statementsUpTo at h
  replace h := (bind_ok hpeek _).symm.trans ((bind_ok hmark _).symm.trans h)
  obtain ⟨s, us, hs, h⟩ := bind_eq_ok_iff.mp h
  obtain ⟨statements, vs, hmore, h⟩ := bind_eq_ok_iff.mp h
  cases h
  obtain ⟨q', hq, heq⟩ := map_eq_ok_iff.mp (hstatement.symm.trans hs)
  cases heq
  exact ⟨us, hq, (statementsUpTo_nil hmore).imp_left And.right⟩

namespace Grammar

variable {g : Grammar} {s : Select}

/-! ## Behind a `SELECT` -/

/-- Clauses after the filter that are not there. -/
theorem selectEnd_halts (h : Halts ts) (s : Select) : g.selectEnd s ts = .ok ({ s with
      groupAll := false, groupBy := .nil, clusterBy := .nil, distributeBy := .nil, sortBy := .nil
      having := .none, windows := .nil, qualify := .none, windowsFirst := false }, ts) := by
  have hgroup : g.groupClause ts = .ok ((false, .nil), ts) := by
    unfold groupClause
    rw [bind_ok (h.keywords ["BY"] (by decide))]
    rfl
  have hexprs : ∀ key ∈ followWords, g.expressionsAfter [key, "BY"] ts = .ok (.nil, ts) :=
    fun key hkey => map_ok (h.listAfter ["BY"] hkey) _
  have hhaving : g.expressionAfter "HAVING" ts = .ok (.none, ts) :=
    map_ok (h.after (by decide)) _
  have hwindows : g.windowClauses ts = .ok ((.nil, .none, false), ts) := by
    unfold windowClauses
    rw [bind_ok (h.keyword (by decide))]
    exact bind_ok (h.keyword (by decide)) _
  unfold selectEnd
  refine (bind_ok hgroup _).trans ?_
  refine (bind_ok (hexprs "CLUSTER" (by decide)) _).trans ?_
  refine (bind_ok (hexprs "DISTRIBUTE" (by decide)) _).trans ?_
  refine (bind_ok (hexprs "SORT" (by decide)) _).trans ?_
  refine (bind_ok hhaving _).trans ?_
  exact bind_ok hwindows _

/-- Clauses after the body, and after its order, that are not there. -/
theorem pagingRound_halts (h : Halts ts) : g.pagingRound {} ts = .ok ({}, ts) := by
  unfold pagingRound
  refine (bind_ok (h.keyword (by decide)) _).trans ?_
  rw [if_neg Bool.false_ne_true, pure_bind]
  exact bind_ok (h.keyword (by decide)) _

/-- A query whose body nothing follows but sort keys. -/
theorem queryEnd_order {keys : OrderKeys} {body : Body} (horder : g.orderBy ts = .ok (keys, rest))
    (h : Halts rest) :
    g.queryEnd false .nil body ts
      = .ok ({ bareQuery false .nil body with order := keys }, rest) := by
  have hfor : ∀ count, forClauses (count + 1) rest = .ok (([], none), rest) := by
    intro count
    unfold forClauses
    rw [bind_ok (h.keyword (by decide))]
    rfl
  unfold queryEnd
  refine (bind_ok horder _).trans ?_
  refine (bind_ok (pagingRound_halts h) _).trans ?_
  refine (bind_ok (pagingRound_halts h) _).trans ?_
  refine (bind_ok (h.after (by decide)) _).trans ?_
  rw [rest_bind]
  exact bind_ok (hfor _) _

theorem queryEnd_halts {body : Body} (h : Halts ts) :
    g.queryEnd false .nil body ts = .ok (bareQuery false .nil body, ts) :=
  queryEnd_order (map_ok (h.listAfter ["BY"] (by decide)) _) h

/-- A query from `SELECT` on has neither common tables nor rows to insert or update. -/
theorem queryAt_select (hkey : keyOf ts.head? = "SELECT") :
    g.queryAt ts = (g.body >>= g.queryEnd false .nil) ts := by
  have hwith : g.withClause ts = .ok ((false, .nil), ts) := by
    unfold withClause
    rw [bind_ok (keyword_ne (by rw [hkey]; decide))]
    rfl
  unfold queryAt
  refine (bind_ok hwith _).trans ?_
  refine (bind_ok (keyword_ne (by rw [hkey]; decide)) _).trans ?_
  exact bind_ok (keyword_ne (by rw [hkey]; decide)) _

theorem simpleBody_select (hkey : keyOf ts.head? = "SELECT") :
    g.simpleBody ts = (Body.select <$> g.select) ts := by
  have hpeek : peekKey ts = .ok ("SELECT", ts) := by
    show Except.ok (keyOf ts.head?, ts) = _
    rw [hkey]
  unfold simpleBody
  rw [bind_ok hpeek]
  rfl

/-- If no set operation follows a `SELECT`, the clauses of the query do. -/
theorem queryAt_of_select (hkey : keyOf ts.head? = "SELECT") (hselect : g.select ts = .ok (s, us))
    (hset : keyOf us.head? ∉ ["INTERSECT", "UNION", "EXCEPT"]) :
    g.queryAt ts = g.queryEnd false .nil (.select s) us := by
  -- Neither of the two loops over set operations takes anything.
  have hintersect : ∀ count, g.intersections (.select s) (count + 1) us = .ok (.select s, us) := by
    intro count
    unfold intersections
    rw [bind_ok (keyword_ne fun heq => hset (heq ▸ .head _))]
    rfl
  have hunion : ∀ count, g.unions (.select s) (count + 1) us = .ok (.select s, us) := by
    intro count
    unfold unions
    rw [bind_ok (oneOf_ne fun hmem => hset (List.mem_cons_of_mem _ hmem))]
    rfl
  have hsimple : g.simpleBody ts = .ok (.select s, us) :=
    (simpleBody_select hkey).trans (map_ok hselect _)
  have hintersection : g.intersection ts = .ok (.select s, us) := by
    unfold intersection
    rw [bind_ok hsimple, rest_bind]
    exact hintersect _
  have hbody : g.body ts = .ok (.select s, us) := by
    unfold body
    rw [bind_ok hintersection, rest_bind]
    exact hunion _
  rw [queryAt_select hkey, bind_ok hbody]

/-- A query from `SELECT` on begins with a `SELECT` that can be read. -/
theorem select_of_queryAt (hkey : keyOf ts.head? = "SELECT") (h : g.queryAt ts = .ok (q, rest)) :
    ∃ s us, g.select ts = .ok (s, us) := by
  rw [queryAt_select hkey] at h
  obtain ⟨body, vs, hbody, -⟩ := bind_eq_ok_iff.mp h
  obtain ⟨left, us, hleft, -⟩ := bind_eq_ok_iff.mp hbody
  obtain ⟨first, us, hfirst, -⟩ := bind_eq_ok_iff.mp hleft
  rw [simpleBody_select hkey] at hfirst
  obtain ⟨s, hs, -⟩ := map_eq_ok_iff.mp hfirst
  exact ⟨s, us, hs⟩

/-! ## The piece behind its beginning -/

/-- A `SELECT` that nothing follows is its beginning and its filter. -/
theorem queryAt_filter {s : Select} {filter : MaybeExpr} {vs : List Token}
    (hkey : keyOf ts.head? = "SELECT") (hstart : g.selectStart ts = .ok (s, us))
    (hfilter : g.expressionAfter "WHERE" us = .ok (filter, vs)) (h : Halts vs) :
    g.queryAt ts = .ok (bareQuery false .nil (.select { s with
      filter, groupAll := false, groupBy := .nil, clusterBy := .nil, distributeBy := .nil
      sortBy := .nil, having := .none, windows := .nil, qualify := .none
      windowsFirst := false }), vs) := by
  have hselect : g.select ts = .ok ({ s with
      filter, groupAll := false, groupBy := .nil, clusterBy := .nil, distributeBy := .nil
      sortBy := .nil, having := .none, windows := .nil, qualify := .none
      windowsFirst := false }, vs) := by
    unfold select
    rw [bind_ok hstart, bind_ok hfilter]
    exact selectEnd_halts h _
  exact (queryAt_of_select hkey hselect (h.keys (by decide))).trans (queryEnd_halts h)

end Grammar

end Parser

/-! ## Lifting a piece -/

section Lifting

variable {α : Type} {read : Parser α} {text lead : String} {before : List Token} {q : Query}

/-- Behind the piece that the text begins with, nothing of a query begins. -/
def NothingFollows (read : Parser α) (text : String) : Prop :=
  ∀ ts a rest, tokens text = .ok ts → read ts = .ok (a, rest) → Halts rest

/-- The piece is all that the text has, but for semicolons. -/
def Spells (read : Parser α) (text : String) (a : α) : Prop :=
  ∃ ts rest, tokens text = .ok ts ∧ read ts = .ok (a, rest) ∧ Semicolons rest

theorem Spells.nothingFollows {a : α} (h : Spells read text a) : NothingFollows read text := by
  obtain ⟨ts, rest, htokens, hread, hrest⟩ := h
  intro ts' a' rest' htokens' hread'
  cases htokens.symm.trans htokens'
  cases hread.symm.trans hread'
  exact hrest.halts

/-- A text behind what begins a query is read as the query that the tokens of both make up. -/
theorem parseQuery_select (hlead : Closed lead (keywordToken "SELECT" :: before))
    (h : parseQuery (lead ++ text) = .ok q) :
    ∃ ts us, tokens text = .ok ts
      ∧ (grammar 48).queryAt (keywordToken "SELECT" :: (before ++ ts)) = .ok (q, us)
      ∧ (keyOf us.head? = "END" ∨ Semicolons us) := by
  unfold parseQuery at h
  obtain ⟨found, hparse, h⟩ := bind_eq_ok.mp h
  obtain rfl : found = [.query q] := by
    split at h
    · cases h
      rfl
    · cases h
  unfold parse at hparse
  obtain ⟨all, hall, hparse⟩ := bind_eq_ok.mp hparse
  obtain ⟨⟨found, rest⟩, hstatements, hfound⟩ := bind_eq_ok.mp hparse
  cases hfound
  rw [tokens_eq_lexed, String.toList_append, hlead, ← tokens_eq_lexed] at hall
  obtain ⟨ts, hts, rfl⟩ := map_eq_ok.mp hall
  obtain ⟨us, hquery, hus⟩ := @statements_select _ _ _ 49 rfl hstatements
  exact ⟨ts, us, hts, hquery, hus⟩

/-- If what the reader leaves is what the query leaves where nothing of a query begins, then the
text is used up by its piece unless something of a query follows. -/
theorem nothingFollows_iff (read : Parser α) (fragment : α → Query)
    (hlead : Closed lead (keywordToken "SELECT" :: before))
    (hread : ∀ ts q us, tokens text = .ok ts →
      (grammar 48).queryAt (keywordToken "SELECT" :: (before ++ ts)) = .ok (q, us) →
      ∃ a rest, read ts = .ok (a, rest) ∧ (Halts rest → q = fragment a ∧ us = rest))
    (h : parseQuery (lead ++ text) = .ok q) :
    NothingFollows read text ↔ ∃ a, Spells read text a ∧ q = fragment a := by
  constructor
  · intro hfollows
    obtain ⟨ts, us, htokens, hquery, hus⟩ := parseQuery_select hlead h
    obtain ⟨a, rest, ha, hfragment⟩ := hread ts q us htokens hquery
    have hhalts := hfollows ts a rest htokens ha
    obtain ⟨hq, rfl⟩ := hfragment hhalts
    exact ⟨a, ⟨ts, us, htokens, ha, hus.resolve_left (hhalts.key (by decide))⟩, hq⟩
  · rintro ⟨a, hspells, -⟩
    exact hspells.nothingFollows

/-- A piece that can be told from its query is the one that is lifted, where the text is used up. -/
theorem nothingFollows_iff_lifted (read : Parser α) (fragment : α → Query)
    (piece : Query → Option α) (hpiece : ∀ a, piece (fragment a) = some a)
    (hlead : Closed lead (keywordToken "SELECT" :: before))
    (hread : ∀ ts q us, tokens text = .ok ts →
      (grammar 48).queryAt (keywordToken "SELECT" :: (before ++ ts)) = .ok (q, us) →
      ∃ a rest, read ts = .ok (a, rest) ∧ (Halts rest → q = fragment a ∧ us = rest))
    (h : parseQuery (lead ++ text) = .ok q) :
    NothingFollows read text ↔
      ∃ a, piece q = some a ∧ Spells read text a ∧ parseQuery (lead ++ text) = .ok (fragment a) := by
  rw [nothingFollows_iff read fragment hlead hread h]
  constructor
  · rintro ⟨a, hspells, rfl⟩
    exact ⟨a, hpiece a, hspells, h⟩
  · rintro ⟨a, -, hspells, hfragment⟩
    exact ⟨a, hspells, Except.ok.inj (h.symm.trans hfragment)⟩

/-- The query that sort keys are lifted out of. -/
def orderFragment (keys : List OrderKey) : Query :=
  { Grammar.bareQuery false .nil (.select fragmentSelect) with order := .ofList keys }

/-- The query that a target is lifted out of. -/
def targetFragment (item : SelectItem) : Query :=
  Grammar.bareQuery false .nil (.select { fragmentSelect with targets := .ofList [item] })

end Lifting

namespace Parser.Grammar

variable {ts us : List Token} {q : Query}

/-- The number that stands for the targets is read by itself. -/
theorem expression_one {key : String} (hkey : key ∈ ["WHERE", "ORDER"]) :
    (grammar 48).expression (.literal (.number "1" false) :: keywordToken key :: ts)
      = .ok (.literal (.number "1" false), keywordToken key :: ts) := by
  have hkeys : ∀ key ∈ ["WHERE", "ORDER"], key ≠ "COLLATE" := by decide
  have hweak : strengthOf (keywordToken key :: ts) = 0 := by
    simp only [List.mem_cons, List.not_mem_nil, or_false] at hkey
    obtain rfl | rfl := hkey <;> rfl
  have hreads : (grammar 47).Reads 0 _ _ (keywordToken key :: ts) :=
    .of_operand (operand_literal _ (.number "1" false) (hkeys key hkey))
  exact hreads.operation (Nat.le_of_eq hweak)

theorem filter_of_queryAt (h : (grammar 48).queryAt (fragmentTokens ts) = .ok (q, us)) :
    ∃ e rest, (grammar 48).expression ts = .ok (e, rest)
      ∧ (Halts rest → q = fragmentQuery e ∧ us = rest) := by
  obtain ⟨s, vs, hselect⟩ := select_of_queryAt rfl h
  have hstart := @selectStart_fragment (grammar 48) ts _ (.head _) (expression_one (.head _))
  obtain ⟨s', vs', hstart', hselect⟩ := bind_eq_ok_iff.mp hselect
  cases hstart.symm.trans hstart'
  obtain ⟨filter, rest, hfilter, -⟩ := bind_eq_ok_iff.mp hselect
  obtain ⟨found, hfound, rfl⟩ := map_eq_ok_iff.mp hfilter
  have hafter : (some <$> (grammar 48).expression) ts = .ok (found, rest) :=
    (bind_ok (keyword_self _ _ ts) _).symm.trans hfound
  obtain ⟨e, he, rfl⟩ := map_eq_ok_iff.mp hafter
  refine ⟨e, rest, he, fun hrest => ?_⟩
  cases h.symm.trans (queryAt_filter rfl hstart hfilter hrest)
  exact ⟨rfl, rfl⟩

theorem order_of_queryAt (h : (grammar 48).queryAt (keywordToken "SELECT"
      :: .literal (.number "1" false) :: keywordToken "ORDER" :: keywordToken "BY" :: ts)
        = .ok (q, us)) :
    ∃ keys rest, separated (grammar 48).orderKey ts = .ok (keys, rest)
      ∧ (Halts rest → q = orderFragment keys ∧ us = rest) := by
  let vs := keywordToken "ORDER" :: keywordToken "BY" :: ts
  have hstart := @selectStart_fragment (grammar 48) (keywordToken "BY" :: ts) _ (.tail _ (.head _))
    (expression_one (.tail _ (.head _)))
  have hselect : (grammar 48).select
      (keywordToken "SELECT" :: .literal (.number "1" false) :: vs) = .ok (fragmentSelect, vs) := by
    unfold select
    rw [bind_ok hstart]
    rfl
  have hset : "ORDER" ∉ ["INTERSECT", "UNION", "EXCEPT"] := by decide
  rw [queryAt_of_select rfl hselect hset] at h
  obtain ⟨keys, rest, horder, -⟩ := bind_eq_ok_iff.mp h
  obtain ⟨found, hfound, rfl⟩ := map_eq_ok_iff.mp horder
  have hkeys : separated (grammar 48).orderKey ts = .ok (found, rest) := hfound
  refine ⟨found, rest, hkeys, fun hrest => ?_⟩
  cases h.symm.trans (queryEnd_order horder hrest)
  exact ⟨rfl, rfl⟩

theorem target_of_queryAt (hword : keyOf ts.head? ∉ modifierWords)
    (h : (grammar 48).queryAt (keywordToken "SELECT" :: ts) = .ok (q, us)) :
    ∃ item rest, (grammar 48).selectItem ts = .ok (item, rest)
      ∧ (Halts rest → q = targetFragment item ∧ us = rest) := by
  obtain ⟨s, vs, hselect⟩ := select_of_queryAt rfl h
  obtain ⟨start, vs, hstart, -⟩ := bind_eq_ok_iff.mp hselect
  unfold selectStart at hstart
  rw [keywordToken, bind_ok (expect_self _ _ _), bind_ok (distinctClause_none hword)] at hstart
  replace hstart := (bind_ok (topClause_none hword) _).symm.trans hstart
  obtain ⟨items, vs, hitems, -⟩ := bind_eq_ok_iff.mp hstart
  obtain ⟨item, rest, hitem⟩ := separated_first hitems
  refine ⟨item, rest, hitem, fun hrest => ?_⟩
  have hfirst := selectStart_item hword hitem hrest.comma (hrest.keys (by decide))
  have hfilter : (grammar 48).expressionAfter "WHERE" rest = .ok (.none, rest) :=
    map_ok (hrest.after (by decide)) _
  cases h.symm.trans (queryAt_filter rfl hfirst hfilter hrest)
  exact ⟨rfl, rfl⟩

end Parser.Grammar

/-- Where lifting succeeds, the text is used up by the piece that is lifted just if nothing of a
query follows the piece.  Then the query that was read has nothing but the piece besides the
beginning put before the text, and a filter is there.  Where something of a query follows, the text
is not what the piece is read from.  A target has to begin the text, since the words before it are
dropped as well. -/
theorem lifted_text_used_up (text : String) :
    (∀ filter, liftFilter text = .ok filter →
      (NothingFollows (grammar 48).expression text ↔ ∃ e, filter = some e
        ∧ Spells (grammar 48).expression text e
        ∧ parseQuery ("SELECT 1 WHERE " ++ text) = .ok (fragmentQuery e)))
    ∧ (∀ keys, liftOrder text = .ok keys →
      (NothingFollows (separated (grammar 48).orderKey) text ↔
        Spells (separated (grammar 48).orderKey) text keys
        ∧ parseQuery ("SELECT 1 ORDER BY " ++ text) = .ok (orderFragment keys)))
    ∧ (∀ item, liftTarget text = .ok item →
      (∀ ts, tokens text = .ok ts → keyOf ts.head? ∉ Grammar.modifierWords) →
      (NothingFollows (grammar 48).selectItem text ↔
        Spells (grammar 48).selectItem text item
        ∧ parseQuery ("SELECT " ++ text) = .ok (targetFragment item))) := by
  have hkeyword := closed_keyword "SELECT" (by decide +kernel)
  have hone := hkeyword.append (cut_numeral (s := "1") (Decimal.isNumeral_repr 1)).closed_blank
  have hwhere := hone.append (closed_keyword "WHERE" (by decide +kernel))
  have hby := (hone.append (closed_keyword "ORDER" (by decide +kernel))).append
    (closed_keyword "BY" (by decide +kernel))
  have hselect : Closed "SELECT " [keywordToken "SELECT"] := hkeyword
  have hfilter : Closed "SELECT 1 WHERE "
      [keywordToken "SELECT", .literal (.number "1" false), keywordToken "WHERE"] := hwhere
  have horder : Closed "SELECT 1 ORDER BY " [keywordToken "SELECT", .literal (.number "1" false),
      keywordToken "ORDER", keywordToken "BY"] := hby
  refine ⟨fun filter h => ?_, fun keys h => ?_, fun item h hword => ?_⟩
  · obtain ⟨q, hq, hlift⟩ := bind_eq_ok.mp h
    cases hlift
    exact nothingFollows_iff_lifted (grammar 48).expression fragmentQuery Query.filter?
      (fun _ => rfl) hfilter (fun _ _ _ _ hquery => Grammar.filter_of_queryAt hquery) hq
  · obtain ⟨q, hq, hlift⟩ := bind_eq_ok.mp h
    cases hlift
    rw [nothingFollows_iff_lifted (separated (grammar 48).orderKey) orderFragment
      (fun q => some q.order.toList) (fun keys => congrArg some (OrderKeys.toList_ofList keys))
      horder (fun _ _ _ _ hquery => Grammar.order_of_queryAt hquery) hq]
    simp only [Option.some.injEq, exists_eq_left']
  · obtain ⟨q, hq, hlift⟩ := bind_eq_ok.mp h
    -- A query without targets is refused, so the item is the first of those there are.
    have hitem : q.targets.head? = some item := by
      split at hlift
      · rename_i first rest htargets
        cases hlift
        rw [htargets]
        rfl
      · cases hlift
    rw [nothingFollows_iff_lifted (grammar 48).selectItem targetFragment (·.targets.head?)
      (fun _ => rfl) hselect
      (fun ts _ _ htokens hquery => Grammar.target_of_queryAt (hword ts htokens) hquery) hq, hitem]
    simp only [Option.some.injEq, exists_eq_left']

/-- A name with a semicolon after it is used up, whichever piece it is lifted as. -/
theorem lifted_name_used_up :
    liftFilter "id;" = .ok (some (.column ⟨"id", none⟩))
      ∧ (∃ e, some (.column ⟨"id", none⟩) = some e ∧ Spells (grammar 48).expression "id;" e
        ∧ parseQuery ("SELECT 1 WHERE " ++ "id;") = .ok (fragmentQuery e))
      ∧ liftOrder "id;" = .ok [⟨.column ⟨"id", none⟩, none, none⟩]
      ∧ Spells (separated (grammar 48).orderKey) "id;" [⟨.column ⟨"id", none⟩, none, none⟩]
      ∧ liftTarget "id;" = .ok ⟨.column ⟨"id", none⟩, none⟩
      ∧ Spells (grammar 48).selectItem "id;" ⟨.column ⟨"id", none⟩, none⟩ := by
  have htokens : tokens "id;" = .ok [.ofWord "id", .symbol ";"] := by decide +kernel
  have hword : ∀ ts, tokens "id;" = .ok ts → keyOf ts.head? ∉ Grammar.modifierWords := by
    intro ts hts
    cases htokens.symm.trans hts
    decide +kernel
  have hhalts : Halts [.symbol ";"] := Semicolons.halts (List.forall_mem_singleton.mpr rfl)
  have hexpression : (grammar 48).expression [.ofWord "id", .symbol ";"]
      = .ok (.column ⟨"id", none⟩, [.symbol ";"]) := by decide +kernel
  have hkeys : separated (grammar 48).orderKey [.ofWord "id", .symbol ";"]
      = .ok ([⟨.column ⟨"id", none⟩, none, none⟩], [.symbol ";"]) := by decide +kernel
  have hitem : (grammar 48).selectItem [.ofWord "id", .symbol ";"]
      = .ok (⟨.column ⟨"id", none⟩, none⟩, [.symbol ";"]) := by decide +kernel
  have hfollows : ∀ {α : Type} {read : Parser α} {a : α},
      read [.ofWord "id", .symbol ";"] = .ok (a, [.symbol ";"]) → NothingFollows read "id;" := by
    intro α read a hread ts b rest hts hb
    cases htokens.symm.trans hts
    cases hread.symm.trans hb
    exact hhalts
  have hfilter : liftFilter "id;" = .ok (some (.column ⟨"id", none⟩)) := by decide +kernel
  have horder : liftOrder "id;" = .ok [⟨.column ⟨"id", none⟩, none, none⟩] := by decide +kernel
  have htarget : liftTarget "id;" = .ok ⟨.column ⟨"id", none⟩, none⟩ := by decide +kernel
  obtain ⟨hfilters, horders, htargets⟩ := lifted_text_used_up "id;"
  exact ⟨hfilter, (hfilters _ hfilter).mp (hfollows hexpression), horder,
    ((horders _ horder).mp (hfollows hkeys)).1, htarget,
    ((htargets _ htarget hword).mp (hfollows hitem)).1⟩

/-- Another query, a row limit and a second target are read and dropped.  Of a filter in front of
another query not even the filter is left. -/
theorem lifted_text_dropped :
    liftFilter "a = 1 UNION SELECT 2" = .ok none
      ∧ liftFilter "a = 1 LIMIT 5" = liftFilter "a = 1"
      ∧ liftOrder "id LIMIT 1" = liftOrder "id"
      ∧ liftTarget "a, b FROM u" = liftTarget "a" := by
  refine ⟨?_, ?_, ?_, ?_⟩
  all_goals decide +kernel

end QueryReport.Sql
