import QueryReport.Proofs.Sql.Reading.Around
import QueryReport.Proofs.Sql.Reading.Expression
import QueryReport.Sql.Edit

/-!
# `QueryReport.Proofs.Sql.Reading.Surroundings`: putting a filter into a text that reads back

The text of a query with a filter is that of its opening, the filter behind `WHERE`, and the clauses
after it (`text_withFilter`), of which the filter is not a part (`beginsClause_endText`).

* `Query.ReadsAround q`: what stands around the filter of `q` is read as it was printed, whatever
  the filter is.
* `parse_withFilter`: in such a query a filter that ends where a clause begins is read back, and
  nothing else is changed by it.
-/

set_option autoImplicit false

namespace QueryReport.Sql

open QueryReport.Sql.Parser

/-! ## Clauses -/

/-- A text of clauses that may follow a filter. -/
def BeginsClause (s : String) : Prop :=
  s = "" ∨ ∃ key ∈ clauseWords, ∃ more, s = " " ++ (key ++ " ") ++ more

namespace BeginsClause

variable {s t : String}

theorem append (hs : BeginsClause s) (ht : BeginsClause t) : BeginsClause (s ++ t) := by
  obtain rfl | ⟨key, hkey, more, rfl⟩ := hs
  · rwa [String.empty_append]
  · exact .inr ⟨key, hkey, more ++ t, String.append_assoc⟩

/-- A text that begins with what leads a clause. -/
theorem lead (key more : String) (hkey : key ∈ clauseWords) (hs : s = " " ++ (key ++ " ") ++ more)
    (t : String) : BeginsClause (s ++ t) :=
  .inr ⟨key, hkey, more ++ t, by rw [hs, String.append_assoc]⟩

theorem list (key more : String) (hkey : key ∈ clauseWords) (hs : s = " " ++ (key ++ " ") ++ more)
    (texts : List String) : BeginsClause (listClause s texts) := by
  unfold listClause
  split
  · exact .inl rfl
  · exact lead key more hkey hs _

theorem after (key more : String) (hkey : key ∈ clauseWords) (hs : s = " " ++ (key ++ " ") ++ more)
    (e : MaybeExpr) : BeginsClause (e.after s) := by
  cases e with
  | none => exact .inl rfl
  | some e =>
      unfold MaybeExpr.after
      exact lead key more hkey hs _

theorem join {α : Type} {text : α → String} (h : ∀ a, BeginsClause (text a)) (as : List α) :
    BeginsClause (String.join (as.map text)) := by
  induction as with
  | nil => exact .inl rfl
  | cons a as ih =>
      rw [List.map_cons, String.join_cons]
      exact (h a).append ih

theorem stops (h : BeginsClause s) : Stops s.toList := by
  obtain rfl | ⟨key, _, more, rfl⟩ := h
  · trivial
  · rw [String.toList_append, String.toList_append]
    exact .inl rfl

/-- What follows a filter ends it. -/
theorem ends (h : BeginsClause s) {ts : List Token} (hs : lexed s.toList = .ok ts) :
    Grammar.EndsTest ts ∧ Grammar.strengthOf ts = 0 := by
  -- The first word decides, and it is one that ends a test.
  have hwords : ∀ key ∈ clauseWords, IsWord key ∧ Text.upperKey key = key := by decide +kernel
  obtain rfl | ⟨key, hkey, more, rfl⟩ := h
  · cases hs.symm.trans lexed_nil
    exact ⟨.nil, rfl⟩
  · have hclosed := closed_blank.append (closed_keyword key (hwords key hkey))
    rw [String.toList_append, hclosed] at hs
    obtain ⟨us, -, rfl⟩ := map_eq_ok.mp hs
    exact ⟨.clause hkey us, Grammar.strengthOf_clause hkey us⟩

end BeginsClause

/-! ## The text of a query -/

/-- The `SELECT` up to its filter. -/
def Select.start (s : Select) : Select :=
  { s with
    filter := .none
    groupAll := false
    groupBy := .nil
    clusterBy := .nil
    distributeBy := .nil
    sortBy := .nil
    having := .none
    windows := .nil
    qualify := .none
    windowsFirst := false }

/-- The clauses of a `SELECT` after its filter as text. -/
def Select.endText (s : Select) : String :=
  (if s.groupAll then " GROUP BY ALL" else listClause " GROUP BY " s.groupBy.texts)
    ++ listClause " CLUSTER BY " s.clusterBy.texts
    ++ listClause " DISTRIBUTE BY " s.distributeBy.texts
    ++ listClause " SORT BY " s.sortBy.texts
    ++ s.having.after " HAVING "
    ++ (if s.windowsFirst then listClause " WINDOW " s.windows.texts ++ s.qualify.after " QUALIFY "
      else s.qualify.after " QUALIFY " ++ listClause " WINDOW " s.windows.texts)

/-- What follows the filter of a `SELECT` begins with a clause, if anything does. -/
theorem Select.beginsClause_endText (s : Select) : BeginsClause s.endText := by
  have hgroup : BeginsClause
      (if s.groupAll then " GROUP BY ALL" else listClause " GROUP BY " s.groupBy.texts) := by
    split
    · exact .lead "GROUP" "BY " (by decide) (s := " GROUP BY ") rfl "ALL"
    · exact .list "GROUP" "BY " (by decide) rfl _
  have hwindow := BeginsClause.list "WINDOW" "" (by decide) (s := " WINDOW ") rfl s.windows.texts
  have hqualify := BeginsClause.after "QUALIFY" "" (by decide) (s := " QUALIFY ") rfl s.qualify
  -- The two last clauses come in the order in which they were written.
  have hlast : BeginsClause (if s.windowsFirst then
      listClause " WINDOW " s.windows.texts ++ s.qualify.after " QUALIFY "
      else s.qualify.after " QUALIFY " ++ listClause " WINDOW " s.windows.texts) := by
    split
    · exact hwindow.append hqualify
    · exact hqualify.append hwindow
  exact ((((hgroup.append (.list "CLUSTER" "BY " (by decide) rfl _)).append
    (.list "DISTRIBUTE" "BY " (by decide) rfl _)).append
    (.list "SORT" "BY " (by decide) rfl _)).append
    (.after "HAVING" "" (by decide) rfl _)).append hlast

/-- The text of an opening. -/
def Opening.text (o : Opening) : String :=
  (Grammar.bareQuery o.recursive o.tables (.select o.select)).text

namespace Query

/-- The query up to the filter of its `SELECT`. -/
def openingWith (q : Query) (s : Select) : Opening := ⟨q.recursive, q.tables, s.start⟩

/-- The clauses of a query after its body as text. -/
def endText (q : Query) : String :=
  listClause " ORDER BY " q.order.texts
    ++ q.limit.after " LIMIT "
    ++ (match q.offset with | .none => "" | .some e => " OFFSET " ++ e.text ++ q.offsetWord.text)
    ++ (match q.fetch with | none => "" | some f => " " ++ f.text)
    ++ String.join (q.locks.map (" " ++ ·.text))
    ++ (match q.form with | none => "" | some f => " " ++ f.text)

variable {q : Query} {s : Select}

/-- What a `SELECT` has in front of its filter does not depend on what comes after. -/
theorem text_clauses (s : Select) : ∃ front : String,
    ∀ (filter having qualify : MaybeExpr) (groupAll windowsFirst : Bool)
      (groupBy clusterBy distributeBy sortBy : Exprs) (windows : NamedWindows),
      ({ s with
        filter, having, qualify, groupAll, windowsFirst, groupBy, clusterBy, distributeBy, sortBy,
        windows } : Select).text
      = front ++ filter.after " WHERE "
        ++ (if groupAll then " GROUP BY ALL" else listClause " GROUP BY " groupBy.texts)
        ++ listClause " CLUSTER BY " clusterBy.texts
        ++ listClause " DISTRIBUTE BY " distributeBy.texts
        ++ listClause " SORT BY " sortBy.texts ++ having.after " HAVING "
        ++ (if windowsFirst then listClause " WINDOW " windows.texts ++ qualify.after " QUALIFY "
          else qualify.after " QUALIFY " ++ listClause " WINDOW " windows.texts) :=
  ⟨_, fun _ _ _ _ _ _ _ _ _ _ => rfl⟩

theorem text_select (s : Select) (e : Expr) :
    ({ s with filter := .some e } : Select).text
      = s.start.text ++ " WHERE " ++ e.text ++ s.endText := by
  obtain ⟨front, hfront⟩ := text_clauses s
  have hstart : s.start.text = front := by
    refine (hfront .none .none .none false false .nil .nil .nil .nil .nil).trans ?_
    show front ++ "" ++ "" ++ "" ++ "" ++ "" ++ "" ++ ("" ++ "") = front
    simp only [String.append_empty]
  have hsome := hfront (.some e) s.having s.qualify s.groupAll s.windowsFirst s.groupBy s.clusterBy
    s.distributeBy s.sortBy s.windows
  rw [hstart, hsome, Select.endText]
  show front ++ (" WHERE " ++ e.text) ++ _ ++ _ ++ _ ++ _ ++ _ ++ _ = _
  simp only [String.append_assoc]

/-- The common tables in front of the body of a query. -/
def withText (recursive : Bool) : List String → String
  | [] => ""
  | ts => "WITH " ++ wordIf recursive "RECURSIVE" ++ commas ts ++ " "

/-- What a query has in front of its body does not depend on what comes after. -/
theorem text_body (q : Query) : ∃ front : String, ∀ (body : Body) (order : OrderKeys)
    (limit offset : MaybeExpr) (offsetWord : OffsetWord) (fetch : Option Fetch) (locks : List Lock)
    (form : Option ResultForm),
    ({ q with body, order, limit, offset, offsetWord, fetch, locks, form } : Query).text
      = front ++ body.text ++ listClause " ORDER BY " order.texts
        ++ limit.after " LIMIT "
        ++ (match offset with | .none => "" | .some e => " OFFSET " ++ e.text ++ offsetWord.text)
        ++ (match fetch with | none => "" | some f => " " ++ f.text)
        ++ String.join (locks.map (" " ++ ·.text))
        ++ (match form with | none => "" | some f => " " ++ f.text) := by
  refine ⟨withText q.recursive q.tables.texts, ?_⟩
  intro body order limit offset offsetWord fetch locks form
  cases offset <;> rfl

theorem text_withFilter (hs : q.select? = some s) (e : Expr) :
    (q.withFilter (some e)).text
      = (q.openingWith s).text ++ " WHERE " ++ e.text ++ (s.endText ++ q.endText) := by
  obtain ⟨front, hfront⟩ := text_body q
  -- The opening is the same text with nothing after it.
  have hopening : (q.openingWith s).text = front ++ s.start.text := by
    refine (hfront (.select s.start) .nil .none .none .unstated none [] none).trans ?_
    show front ++ s.start.text ++ "" ++ "" ++ "" ++ "" ++ "" ++ "" = _
    simp only [String.append_empty]
  have hbody : q.withFilter (some e) = { q with body := .select { s with filter := .some e } } := by
    unfold select? at hs
    unfold withFilter mapSelect
    split at hs
    · next s' hbody =>
      cases hs
      rfl
    · cases hs
  have hsome := hfront (.select { s with filter := .some e }) q.order q.limit q.offset q.offsetWord
    q.fetch q.locks q.form
  rw [hbody, hsome, hopening, endText]
  show front ++ ({ s with filter := .some e } : Select).text ++ _ ++ _ ++ _ ++ _ ++ _ ++ _ = _
  rw [text_select]
  simp only [String.append_assoc]

/-- What follows the body begins with a clause, if anything does. -/
theorem beginsClause_endText (q : Query) : BeginsClause q.endText := by
  have hoffset : BeginsClause (match q.offset with
      | .none => ""
      | .some e => " OFFSET " ++ e.text ++ q.offsetWord.text) := by
    split
    · exact .inl rfl
    · rw [String.append_assoc]
      exact .lead "OFFSET" "" (by decide) rfl _
  have hfetch : BeginsClause (match q.fetch with | none => "" | some f => " " ++ f.text) := by
    split
    · exact .inl rfl
    · unfold Fetch.text
      rw [String.append_assoc, String.append_assoc, ← String.append_assoc]
      exact .lead "FETCH" "FIRST " (by decide) rfl _
  have hlocks : BeginsClause (String.join (q.locks.map (" " ++ ·.text))) := by
    refine .join (fun l => ?_) q.locks
    unfold Lock.text
    rw [String.append_assoc, String.append_assoc, ← String.append_assoc]
    exact .lead "FOR" "" (by decide) rfl _
  have hform : BeginsClause (match q.form with | none => "" | some f => " " ++ f.text) := by
    cases q.form with
    | none => exact .inl rfl
    | some f =>
        cases f <;> unfold ResultForm.text
        · exact .inr ⟨"FOR", by decide, "BROWSE", rfl⟩
        all_goals
          simp only [String.append_assoc]
          rw [← String.append_assoc]
        · exact .lead "FOR" "JSON " (by decide) rfl _
        · exact .lead "FOR" "XML " (by decide) rfl _
  -- The clauses may be missing one by one; what is there begins with its word.
  exact (((((BeginsClause.list "ORDER" "BY " (by decide) rfl _).append
    (.after "LIMIT" "" (by decide) rfl _)).append hoffset).append hfetch).append hlocks).append
    hform

/-! ## Reading the text -/

/-- What stands around the filter of the query is read as it was printed: up to the filter the
tokens are those of the opening, and whatever the filter is, the clauses after it are the
query's. -/
structure SurroundedBy (q : Query) (s : Select) (before after : List Token) : Prop where
  select : q.select? = some s
  cut : Cut (q.openingWith s).text before
  opened : ∀ ts, (grammar 48).opening (before ++ keywordToken "WHERE" :: ts)
    = .ok (q.openingWith s, keywordToken "WHERE" :: ts)
  tokens : lexed (s.endText ++ q.endText).toList = .ok after
  closed : ∀ e, (grammar 48).closing (q.openingWith s) e after = .ok (q.withFilter (some e), [])

/-- What stands around the filter of the query reads back. -/
def ReadsAround (q : Query) : Prop := ∃ s before after, q.SurroundedBy s before after

/-- A filter that is read back in front of what ends a test is read back in a query whose
surroundings are, and so is the whole query. -/
theorem parse_withFilter (hq : q.ReadsAround) {e : Expr} {ts : List Token} (hcut : Cut e.text ts)
    (hread : ∀ rest, Grammar.EndsTest rest → (grammar 47).Reads 0 (ts ++ rest) e rest) :
    parse (q.withFilter (some e)).text = .ok [.query (q.withFilter (some e))] := by
  obtain ⟨s, before, after, hq⟩ := hq
  have hclauses := s.beginsClause_endText.append q.beginsClause_endText
  obtain ⟨hends, hweak⟩ := hclauses.ends hq.tokens
  have hwhere : Closed " WHERE " [keywordToken "WHERE"] :=
    closed_blank.append (closed_keyword "WHERE" (by decide +kernel))
  have hfront : Closed ((q.openingWith s).text ++ " WHERE ") (before ++ [keywordToken "WHERE"]) :=
    hq.cut.closed_append hwhere fun _ => .inl rfl
  -- The filter is cut by itself, since a clause or nothing follows it.
  have hlexed : tokens (q.withFilter (some e)).text
      = .ok (before ++ keywordToken "WHERE" :: (ts ++ after)) := by
    rw [tokens_eq_lexed, text_withFilter hq.select, String.toList_append,
      hfront.cut_append hcut _ hclauses.stops, hq.tokens]
    show Except.ok _ = _
    simp only [List.append_assoc, List.cons_append, List.nil_append]
  have hfilter : (grammar 48).expression (ts ++ after) = .ok (e, after) :=
    (hread after hends).operation (Nat.le_of_eq hweak)
  exact parse_around hlexed (hq.opened _) hfilter (hq.closed e)

end Query

end QueryReport.Sql
