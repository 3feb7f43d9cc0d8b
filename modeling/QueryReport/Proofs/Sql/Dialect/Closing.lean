import QueryReport.Proofs.Sql.Dialect.Ending
import QueryReport.Proofs.Sql.Reading.Surroundings

/-!
# `QueryReport.Proofs.Sql.Dialect.Closing`: what the text of a query ends with

A query's text ends with the last name or constant in it, or with a keyword or a mark.  `closing`
is that name or constant, and empty in the other case; it is found along the clauses of the query
and down the right side of the last expression.

Keywords and marks are found in no limit, so a text is like a limit only if its closing is
(`Closes`).  There is one lemma for each kind of tree, and `closes_query` for a query without a
limit.
-/

set_option autoImplicit false

namespace QueryReport.Sql

open Dialect

/-! ## Closings -/

/-- The name or constant that an expression ends with. -/
def Expr.closing : Expr → String
  | .named _ _ value => value.closing
  | .unary .factorial _ => ""
  | .unary _ operand => operand.closing
  | .binary left op right =>
    -- An operator that is no mark might be a part of the end.
    if separates (" " ++ op.text ++ " ") then right.closing else (Expr.binary left op right).text
  | .distinctTest _ _ right => right.closing
  | .between _ _ _ high => high.closing
  | .pattern _ _ _ _ right none => right.closing
  | .regexp _ _ _ right => right.closing
  | .cast .colons _ type _ => type.text
  | .collate _ collation => Path.text collation
  | .atTimeZone _ zone => zone.closing
  | .field _ name => name.text
  | .star | .everyColumn _ | .nested _ | .tuple _ | .array _ _ | .subquery _ | .exist _ _
  | .nullTest _ _ | .truthTest _ _ _ | .inList _ _ _ | .inQuery _ _ _ | .inUnnest _ _ _
  | .pattern _ _ _ _ _ (some _) | .case _ _ _ | .subscript _ _ | .slice _ _ _ _ => ""
  | e => e.text

/-- The closing of an expression that may be left out, after a text with another closing. -/
def MaybeExpr.closingOr (before : String) : MaybeExpr → String
  | .none => before
  | .some e => e.closing

/-- The last of some closings, after a text with another closing. -/
def lastOr (before : String) (closings : List String) : String := closings.getLast?.getD before

def Exprs.closings : Exprs → List String
  | .nil => []
  | .cons e es => e.closing :: es.closings

def SelectItems.closings : SelectItems → List String
  | .nil => []
  | .cons e none rest => e.closing :: rest.closings
  | .cons _ (some label) rest => label.text :: rest.closings

def OrderKeys.closings : OrderKeys → List String
  | .nil => []
  | .cons e none none rest => e.closing :: rest.closings
  | .cons _ _ _ rest => "" :: rest.closings

def NamedWindows.closings : NamedWindows → List String
  | .nil => []
  | .cons _ window rest => window.text :: rest.closings

/-- What a label ends with. -/
def TableAlias.closing (a : TableAlias) : String :=
  match a.columns with
  | [] => a.name.text
  | _ => ""

def Table.closing : Table → String
  | .named _ _ (some label) .nil | .derived _ _ (some label) => label.closing
  | .derived _ _ none => ""
  | t => t.text

def Joins.closingOr (before : String) : Joins → String
  | .nil => before
  | .cons shape table matching condition rest =>
    rest.closingOr (match shape.shared with
      | some _ => ""
      | none => condition.closingOr (match matching with | .none => table.closing | .some _ => ""))

def Sources.closings : Sources → List String
  | .nil => []
  | .cons table joins rest => joins.closingOr table.closing :: rest.closings

def LateralViews.closingOr (before : String) : LateralViews → String
  | .nil => before
  | .cons _ expr name columns rest =>
    rest.closingOr (lastOr (expr.text ++ " " ++ Path.text name) (columns.map Ident.text))

/-- What a `SELECT` ends with, clause by clause. -/
def Select.closing (s : Select) : String :=
  let targets := lastOr "" s.targets.closings
  let into := match s.into with | none => targets | some t => Path.text t.name
  let sources := s.lateralViews.closingOr (lastOr into s.sources.closings)
  let filter := s.filter.closingOr sources
  let groupBy := if s.groupAll then "" else lastOr filter s.groupBy.closings
  let sorted := lastOr (lastOr (lastOr groupBy s.clusterBy.closings) s.distributeBy.closings)
    s.sortBy.closings
  let having := s.having.closingOr sorted
  if s.windowsFirst then s.qualify.closingOr (lastOr having s.windows.closings)
  else lastOr (s.qualify.closingOr having) s.windows.closings

/-- What a lock ends with. -/
def Lock.closing (l : Lock) : String :=
  match l.wait, l.of with
  | .block, some table => Path.text table
  | _, _ => ""

/-- What a query without a limit ends with. -/
def Query.closing (q : Query) : String :=
  let body := match q.body with | .select s => s.closing | body => body.text
  let order := lastOr body q.order.closings
  let fetch := match q.fetch with | none => order | some _ => ""
  match q.form with
  | none => lastOr fetch (q.locks.map Lock.closing)
  | some _ => ""

/-! ## What they decide -/

/-- A text is like a limit only if its closing is. -/
def Closes (text closing : String) : Prop := LimitLike text → LimitLike closing

namespace Closes

variable {text closing lead : String}

theorem refl (text : String) : Closes text text := id

theorem of_cuts (hlead : Cuts lead) (h : Closes text closing) : Closes (lead ++ text) closing :=
  fun hlimit => h (hlead text hlimit)

/-- After a keyword or a mark. -/
theorem after (front lead : String) (hlead : separates lead = true) (h : Closes text closing) :
    Closes (front ++ lead ++ text) closing :=
  of_cuts (cuts_of_separates hlead front) h

/-- After a keyword or a mark that belongs to the clause. -/
theorem follow (front lead : String) (hlead : separates lead = true) (h : Closes text closing) :
    Closes (front ++ (lead ++ text)) closing := by
  rw [← String.append_assoc]
  exact after front lead hlead h

theorem start (lead : String) (hlead : separates lead = true) (h : Closes text closing) :
    Closes (lead ++ text) closing := by
  have hafter := after "" lead hlead h
  rwa [String.empty_append] at hafter

/-- Before a clause that is left out. -/
theorem append_empty (h : Closes text closing) : Closes (text ++ "") closing := by
  rwa [String.append_empty]

/-- A text that ends with a keyword or a mark. -/
theorem mark (front lead : String) (hlead : separates lead = true) : Closes (front ++ lead) "" := by
  have hafter := after front lead hlead (refl "")
  rwa [String.append_empty] at hafter

end Closes

/-! ## Expressions -/

theorem closes_expr : (e : Expr) → Closes e.text e.closing
  | .named name m value => by
      have hmark : separates (m.text ++ " ") = true := by cases m <;> decide
      have hvalue := Closes.after (name.text ++ " ") _ hmark (closes_expr value)
      rwa [← String.append_assoc] at hvalue
  | .unary op operand => by
      cases op with
      | factorial => exact .mark operand.text "!" (by decide)
      | not => exact .start "NOT " (by decide) (closes_expr operand)
      | plus => exact .start "+" (by decide) (closes_expr operand)
      | minus => exact .start "-" (by decide) (closes_expr operand)
      | bitNot => exact .start "~" (by decide) (closes_expr operand)
      | squareRoot => exact .start "|/" (by decide) (closes_expr operand)
      | cubeRoot => exact .start "||/" (by decide) (closes_expr operand)
      | abs => exact .start "@" (by decide) (closes_expr operand)
      | leadingFactorial => exact .start "!!" (by decide) (closes_expr operand)
  | .binary left op right => by
      unfold Expr.closing
      split
      · next hop =>
        have hright := Closes.after left.text _ hop (closes_expr right)
        rwa [← String.append_assoc, ← String.append_assoc] at hright
      · exact .refl _
  | .distinctTest left negated right =>
      .after (left.text ++ " IS " ++ wordIf negated "NOT") "DISTINCT FROM "
        (by decide) (closes_expr right)
  | .between operand negated low high =>
      .after (operand.text ++ " " ++ wordIf negated "NOT" ++ "BETWEEN " ++ low.text) " AND "
        (by decide) (closes_expr high)
  | .pattern operand negated test any right none => by
      have htest : separates (test.text ++ " " ++ wordIf any "ANY") = true := by
        cases test <;> cases any <;> decide
      have hright := Closes.after (operand.text ++ " " ++ wordIf negated "NOT") _ htest
        (closes_expr right)
      rw [← String.append_assoc, ← String.append_assoc] at hright
      exact hright.append_empty
  | .pattern operand negated test any right (some c) => by
      show Closes (operand.text ++ " " ++ wordIf negated "NOT" ++ test.text ++ " "
        ++ wordIf any "ANY" ++ right.text ++ (" ESCAPE '" ++ c ++ "'")) ""
      rw [← String.append_assoc]
      exact .mark _ "'" (by decide)
  | .regexp operand negated short right => by
      have hshort : separates (if short then "RLIKE " else "REGEXP ") = true := by
        cases short <;> decide
      exact .after (operand.text ++ " " ++ wordIf negated "NOT") _ hshort (closes_expr right)
  | .cast form operand type format => by
      cases form with
      | colons => exact .after operand.text "::" (by decide) (.refl type.text)
      | _ => exact .refl _
  | .collate operand collation =>
      .after operand.text " COLLATE " (by decide) (.refl _)
  | .atTimeZone operand zone =>
      .after operand.text " AT TIME ZONE " (by decide) (closes_expr zone)
  | .field operand name => .after operand.text "." (by decide) (.refl _)
  -- What ends with a keyword or a mark closes with nothing.
  | .star => .mark "" "*" (by decide)
  | .everyColumn relation => .mark (Path.text relation) ".*" (by decide)
  | .nested inner => .mark ("(" ++ inner.text) ")" (by decide)
  | .tuple items => .mark ("(" ++ commas items.texts) ")" (by decide)
  | .array keyword items =>
      .mark ((if keyword then "ARRAY[" else "[") ++ commas items.texts) "]"
        (by decide)
  | .subquery query => .mark ("(" ++ query.text) ")" (by decide)
  | .exist negated query =>
      .mark (wordIf negated "NOT" ++ "EXISTS (" ++ query.text) ")" (by decide)
  | .nullTest operand negated => by
      have hnull : separates (if negated then " IS NOT NULL" else " IS NULL") = true := by
        cases negated <;> decide
      exact .mark operand.text _ hnull
  | .truthTest operand negated value => by
      have hvalue : separates value.text = true := by cases value <;> decide
      exact .mark (operand.text ++ " IS " ++ wordIf negated "NOT") _ hvalue
  | .inList operand negated items =>
      .mark (operand.text ++ " " ++ wordIf negated "NOT" ++ "IN (" ++ commas items.texts) ")"
        (by decide)
  | .inQuery operand negated query =>
      .mark (operand.text ++ " " ++ wordIf negated "NOT" ++ "IN (" ++ query.text) ")" (by decide)
  | .inUnnest operand negated items =>
      .mark (operand.text ++ " " ++ wordIf negated "NOT" ++ "IN UNNEST(" ++ items.text) ")"
        (by decide)
  | .case operand branches otherwise =>
      .mark ("CASE" ++ operand.after " " ++ branches.text ++ otherwise.after " ELSE ") " END"
        (by decide)
  | .subscript operand index =>
      .mark (operand.text ++ "[" ++ index.text) "]" (by decide)
  | .slice operand lower upper stride =>
      .mark (operand.text ++ "[" ++ lower.after "" ++ ":" ++ upper.after ""
        ++ stride.after ":") "]" (by decide)
  -- The others are not looked into: their whole text is their closing.
  | .column _ | .path _ | .literal _ | .typedText _ _ | .introduced _ _ | .call _
  | .quantified _ _ _ _ | .convert _ _ _ | .extract _ _ | .round _ _ _ | .position _ _
  | .substring _ _ _ _ | .trim _ _ _ | .overlay _ _ _ _ | .interval _ _ | .groupingSets _ | .cube _
  | .rollup _ => .refl _

/-! ## Lists and clauses -/

section
variable {texts closings : List String} {front lead before : String}

theorem closes_commas (h : List.Forall₂ Closes texts closings) (hlead : Cuts lead) :
    Closes (lead ++ commas texts) (lastOr "" closings) := by
  -- All but the last text goes to the lead, comma by comma.
  induction h generalizing lead with
  | nil => exact .of_cuts hlead (.refl "")
  | @cons text closing texts closings hfirst hrest ih =>
      cases hrest with
      | nil =>
          rw [commas, String.intercalate_singleton]
          exact .of_cuts hlead hfirst
      | @cons next closing' texts closings hnext hrest =>
          have hcommas : commas (text :: next :: texts)
              = text ++ ", " ++ commas (next :: texts) := by
            rw [commas, String.intercalate_cons_cons]
            rfl
          have hclosing := ih (cuts_of_separates (by decide : separates ", " = true) (lead ++ text))
          rw [hcommas, ← String.append_assoc, ← String.append_assoc]
          exact hclosing

/-- A clause that is only written if its list has entries. -/
theorem closes_listClause (hfront : Closes front before) (hlead : separates lead = true)
    (h : List.Forall₂ Closes texts closings) :
    Closes (front ++ listClause lead texts) (lastOr before closings) := by
  cases h with
  | nil => exact hfront.append_empty
  | cons hfirst hrest =>
      have hclosing := closes_commas (.cons hfirst hrest) (cuts_of_separates hlead front)
      show Closes (front ++ (lead ++ _)) _
      rw [← String.append_assoc]
      exact hclosing

/-- A clause that is only written if its expression is there. -/
theorem closes_after (hfront : Closes front before) (hlead : separates lead = true)
    (e : MaybeExpr) : Closes (front ++ e.after lead) (e.closingOr before) := by
  cases e with
  | none => exact hfront.append_empty
  | some e => exact .follow front lead hlead (closes_expr e)

end

/-! ## Sequences -/

theorem closes_exprs : (es : Exprs) → List.Forall₂ Closes es.texts es.closings
  | .nil => .nil
  | .cons e es => .cons (closes_expr e) (closes_exprs es)

theorem closes_selectItems : (is : SelectItems) → List.Forall₂ Closes is.texts is.closings
  | .nil => .nil
  | .cons e none is => .cons (closes_expr e) (closes_selectItems is)
  | .cons e (some label) is =>
      .cons (.after e.text " AS " (by decide) (.refl label.text)) (closes_selectItems is)

/-- Direction and place of nulls are keywords. -/
theorem closes_sortText (expr : String) {ascending nullsFirst : Option Bool}
    (h : ascending ≠ none ∨ nullsFirst ≠ none) :
    Closes (sortText expr ascending nullsFirst) "" := by
  cases nullsFirst with
  | some first =>
      cases first with
      | true => exact .mark _ " NULLS FIRST" (by decide)
      | false => exact .mark _ " NULLS LAST" (by decide)
  | none =>
      refine Closes.append_empty ?_
      match ascending with
      | some true => exact .mark expr " ASC" (by decide)
      | some false => exact .mark expr " DESC" (by decide)
      | none => simp at h

theorem closes_orderKeys : (ks : OrderKeys) → List.Forall₂ Closes ks.texts ks.closings
  | .nil => .nil
  | .cons e none none ks =>
      .cons (closes_expr e).append_empty.append_empty (closes_orderKeys ks)
  | .cons e (some _) _ ks =>
      .cons (closes_sortText e.text (.inl nofun)) (closes_orderKeys ks)
  | .cons e none (some _) ks =>
      .cons (closes_sortText e.text (.inr nofun)) (closes_orderKeys ks)

theorem closes_namedWindows : (ws : NamedWindows) → List.Forall₂ Closes ws.texts ws.closings
  | .nil => .nil
  | .cons name window ws =>
      .cons (.after name.text " AS " (by decide) (.refl window.text)) (closes_namedWindows ws)

/-! ## Tables -/

theorem closes_label (front : String) (a : TableAlias) :
    Closes (front ++ labelText (some a)) a.closing := by
  have hname : Closes a.text a.closing := by
    unfold TableAlias.text TableAlias.closing
    cases a.columns with
    | nil => exact .refl _
    | cons c cs => exact .mark _ ")" (by decide)
  exact .follow front " AS " (by decide) hname

theorem closes_table (t : Table) : Closes t.text t.closing := by
  cases t with
  | named name ordinality label hints =>
      cases label with
      | none => exact .refl _
      | some label =>
          cases hints with
          | nil => exact (closes_label _ label).append_empty
          | cons hint hints => exact .refl _
  | derived lateral query label =>
      cases label with
      | none => exact (Closes.mark _ ")" (by decide)).append_empty
      | some label => exact closes_label _ label
  | _ => exact .refl _

theorem cuts_joinShape (front : String) (shape : JoinShape) : Cuts (front ++ shape.text) := by
  have hkind : separates (shape.kind.text ++ " ") = true := by cases shape.kind <;> decide
  have hcuts := cuts_of_separates hkind
    (front ++ tailIf shape.global "GLOBAL" ++ " " ++ wordIf shape.natural "NATURAL")
  unfold JoinShape.text
  simpa only [String.append_assoc] using hcuts

theorem closes_matching {front : String} {t : Table} (h : Closes (front ++ t.text) t.closing)
    (matching : MaybeExpr) : Closes (front ++ t.text
        ++ (match matching with | .none => "" | .some e => " MATCH_CONDITION (" ++ e.text ++ ")"))
      (match matching with | .none => t.closing | .some _ => "") := by
  cases matching with
  | none => exact h.append_empty
  | some e =>
      rw [← String.append_assoc]
      exact .mark _ ")" (by decide)

theorem closes_shared {front before : String} (h : Closes front before)
    (shared : Option (List Ident)) : Closes (front ++ (match shared with
        | none => ""
        | some columns => " USING(" ++ commas (columns.map Ident.text) ++ ")"))
      (match shared with | some _ => "" | none => before) := by
  cases shared with
  | none => exact h.append_empty
  | some columns =>
      rw [← String.append_assoc]
      exact .mark _ ")" (by decide)

theorem Joins.text_cons (shape : JoinShape) (table : Table) (matching condition : MaybeExpr)
    (rest : Joins) : (Joins.cons shape table matching condition rest).text
      = shape.text ++ table.text
        ++ (match matching with | .none => "" | .some e => " MATCH_CONDITION (" ++ e.text ++ ")")
        ++ condition.after " ON "
        ++ (match shape.shared with
            | none => ""
            | some columns => " USING(" ++ commas (columns.map Ident.text) ++ ")")
        ++ rest.text := by
  cases matching <;> rfl

theorem closes_joins : (joins : Joins) → ∀ {front before : String}, Closes front before →
    Closes (front ++ joins.text) (joins.closingOr before)
  | .nil, _, _, h => h.append_empty
  | .cons shape table matching condition rest, front, before, h => by
      have htable := Closes.of_cuts (cuts_joinShape front shape) (closes_table table)
      have hmatching := closes_matching htable matching
      have hcondition := closes_after hmatching (by decide : separates " ON " = true) condition
      have hrest := closes_joins rest (closes_shared hcondition shape.shared)
      have hassoc : ∀ a b c d e f g : String,
          a ++ (b ++ c ++ d ++ e ++ f ++ g) = a ++ b ++ c ++ d ++ e ++ f ++ g := by
        simp only [String.append_assoc, implies_true]
      rw [Joins.text_cons, hassoc]
      exact hrest

theorem closes_sources : (ss : Sources) → List.Forall₂ Closes ss.texts ss.closings
  | .nil => .nil
  | .cons table joins ss => .cons (closes_joins joins (closes_table table)) (closes_sources ss)

theorem closes_lateralViews : (vs : LateralViews) → ∀ {front before : String},
    Closes front before → Closes (front ++ vs.text) (vs.closingOr before)
  | .nil, _, _, h => h.append_empty
  | .cons outer expr name columns rest, front, before, h => by
      have hlead : separates (" LATERAL VIEW" ++ tailIf outer "OUTER" ++ " ") = true := by
        cases outer <;> decide
      have hview := Closes.after front _ hlead (.refl (expr.text ++ " " ++ Path.text name))
      have hcolumns := closes_listClause hview (by decide : separates " AS " = true)
        (List.forall₂_same.mpr fun text _ => Closes.refl text : List.Forall₂ Closes
          (columns.map Ident.text) (columns.map Ident.text))
      have hrest := closes_lateralViews rest hcolumns
      have hassoc : ∀ a b c d e f g h i : String, a ++ (b ++ c ++ d ++ e ++ f ++ g ++ h ++ i)
          = a ++ (b ++ c ++ d) ++ (e ++ f ++ g) ++ h ++ i := by
        simp only [String.append_assoc, implies_true]
      show Closes (front ++ (" LATERAL VIEW" ++ tailIf outer "OUTER" ++ " " ++ expr.text ++ " "
        ++ Path.text name ++ listClause " AS " (columns.map Ident.text) ++ rest.text)) _
      rw [hassoc]
      exact hrest

/-! ## Queries -/

def Select.distinctText (s : Select) : String :=
  match s.distinct with
  | .unstated => ""
  | .distinct => " DISTINCT"
  | .on => " DISTINCT ON (" ++ commas s.distinctOn.texts ++ ")"

def Select.topText (s : Select) : String :=
  match s.top with
  | .unstated => ""
  | .count n percent withTies => " TOP " ++ toString n ++ topWords percent withTies
  | .computed percent withTies =>
    " TOP (" ++ s.topCount.after "" ++ ")" ++ topWords percent withTies

/-- A `SELECT` up to its targets. -/
def Select.leadText (s : Select) : String := "SELECT" ++ s.distinctText ++ s.topText ++ " "

theorem Select.text_eq (s : Select) : s.text = s.leadText ++ commas s.targets.texts
    ++ (match s.into with | none => "" | some t => t.text)
    ++ listClause " FROM " s.sources.texts
    ++ s.lateralViews.text
    ++ s.filter.after " WHERE "
    ++ (if s.groupAll then " GROUP BY ALL" else listClause " GROUP BY " s.groupBy.texts)
    ++ listClause " CLUSTER BY " s.clusterBy.texts
    ++ listClause " DISTRIBUTE BY " s.distributeBy.texts
    ++ listClause " SORT BY " s.sortBy.texts
    ++ s.having.after " HAVING "
    ++ (if s.windowsFirst then listClause " WINDOW " s.windows.texts ++ s.qualify.after " QUALIFY "
      else s.qualify.after " QUALIFY " ++ listClause " WINDOW " s.windows.texts) := by
  obtain ⟨_, _, _, _, _, _, _, _, _, _, _, _, _, _, _, _, _, _⟩ := s
  rfl

/-- Any words that there are after a `TOP` count cut. -/
theorem cuts_topWords (percent withTies : Bool) {front : String} (h : Cuts (front ++ " ")) :
    Cuts (front ++ topWords percent withTies ++ " ") := by
  by_cases hnone : percent = false ∧ withTies = false
  · rw [hnone.1, hnone.2]
    show Cuts (front ++ "" ++ " ")
    rwa [String.append_empty]
  · have hwords : separates (topWords percent withTies ++ " ") = true := by
      cases percent <;> cases withTies
      · exact absurd ⟨rfl, rfl⟩ hnone
      all_goals decide
    rw [String.append_assoc]
    exact cuts_of_separates hwords front

theorem cuts_distinctText (front : String) (s : Select) :
    Cuts (front ++ "SELECT" ++ s.distinctText ++ " ") := by
  unfold Select.distinctText
  cases s.distinct with
  | unstated =>
      have hcuts := cuts_of_separates (by decide : separates ("SELECT" ++ " ") = true) front
      show Cuts (front ++ "SELECT" ++ "" ++ " ")
      rwa [String.append_empty, String.append_assoc]
  | distinct =>
      have hcuts := cuts_of_separates (by decide : separates (" DISTINCT" ++ " ") = true)
        (front ++ "SELECT")
      rwa [← String.append_assoc] at hcuts
  | on =>
      have hcuts := cuts_of_separates (by decide : separates (")" ++ " ") = true)
        (front ++ "SELECT" ++ " DISTINCT ON (" ++ commas s.distinctOn.texts)
      simpa only [← String.append_assoc] using hcuts

theorem cuts_leadText (front : String) (s : Select) : Cuts (front ++ s.leadText) := by
  have hdistinct := cuts_distinctText front s
  unfold Select.leadText Select.topText
  rw [← String.append_assoc, ← String.append_assoc, ← String.append_assoc]
  generalize front ++ "SELECT" ++ s.distinctText = start at hdistinct ⊢
  cases s.top with
  | unstated => rwa [String.append_empty]
  | count n percent withTies =>
      -- The number may be that of a limit, but the word before it is not.
      have htop := (cuts_of_separates (by decide : separates " TOP " = true) start).number n
      rw [← String.append_assoc, ← String.append_assoc]
      exact cuts_topWords percent withTies htop
  | computed percent withTies =>
      have htop := cuts_of_separates (by decide : separates (")" ++ " ") = true)
        (start ++ " TOP (" ++ s.topCount.after "")
      rw [← String.append_assoc] at htop
      simp only [← String.append_assoc]
      exact cuts_topWords percent withTies htop

theorem closes_into {front before : String} (h : Closes front before) (into : Option IntoTable) :
    Closes (front ++ (match into with | none => "" | some t => t.text))
      (match into with | none => before | some t => Path.text t.name) := by
  cases into with
  | none => exact h.append_empty
  | some t =>
      have hlead : separates (" INTO " ++ wordIf t.temporary "TEMPORARY"
          ++ wordIf t.unlogged "UNLOGGED" ++ wordIf t.table "TABLE") = true := by
        cases t.temporary <;> cases t.unlogged <;> cases t.table <;> decide
      exact .follow front _ hlead (.refl _)

theorem closes_groupBy {front before : String} (h : Closes front before) (s : Select) :
    Closes (front ++ (if s.groupAll then " GROUP BY ALL"
        else listClause " GROUP BY " s.groupBy.texts))
      (if s.groupAll then "" else lastOr before s.groupBy.closings) := by
  split
  · exact .mark front " GROUP BY ALL" (by decide)
  · exact closes_listClause h (by decide) (closes_exprs s.groupBy)

theorem closes_windows {front before : String} (h : Closes front before) (s : Select) :
    Closes (front ++ (if s.windowsFirst
        then listClause " WINDOW " s.windows.texts ++ s.qualify.after " QUALIFY "
        else s.qualify.after " QUALIFY " ++ listClause " WINDOW " s.windows.texts))
      (if s.windowsFirst then s.qualify.closingOr (lastOr before s.windows.closings)
        else lastOr (s.qualify.closingOr before) s.windows.closings) := by
  split
  · rw [← String.append_assoc]
    exact closes_after (closes_listClause h (by decide) (closes_namedWindows s.windows))
      (by decide) s.qualify
  · rw [← String.append_assoc]
    exact closes_listClause (closes_after h (by decide) s.qualify) (by decide)
      (closes_namedWindows s.windows)

theorem closes_select (front : String) (s : Select) : Closes (front ++ s.text) s.closing := by
  -- The clauses in the order in which they are written, each behind those before it.
  have htargets := closes_commas (closes_selectItems s.targets) (cuts_leadText front s)
  have hsources := closes_lateralViews s.lateralViews (closes_listClause
    (closes_into htargets s.into) (by decide : separates " FROM " = true)
    (closes_sources s.sources))
  have hgroup := closes_groupBy (closes_after hsources (by decide : separates " WHERE " = true)
    s.filter) s
  have hcluster := closes_listClause hgroup (by decide : separates " CLUSTER BY " = true)
    (closes_exprs s.clusterBy)
  have hdistribute := closes_listClause hcluster (by decide : separates " DISTRIBUTE BY " = true)
    (closes_exprs s.distributeBy)
  have hsort := closes_listClause hdistribute (by decide : separates " SORT BY " = true)
    (closes_exprs s.sortBy)
  have hwindows := closes_windows (closes_after hsort (by decide : separates " HAVING " = true)
    s.having) s
  rw [s.text_eq]
  simp only [← String.append_assoc]
  exact hwindows

theorem closes_lock (front : String) (l : Lock) : Closes (front ++ " " ++ l.text) l.closing := by
  have hkind : separates (if l.exclusive then "UPDATE" else "SHARE") = true := by
    cases l.exclusive <;> decide
  unfold Lock.text Lock.closing
  simp only [← String.append_assoc]
  cases l.wait with
  | nowait => exact .mark _ " NOWAIT" (by decide)
  | skip => exact .mark _ " SKIP LOCKED" (by decide)
  | block =>
      refine Closes.append_empty ?_
      cases l.of with
      | none => exact (Closes.mark _ _ hkind).append_empty
      | some table =>
          simp only [← String.append_assoc]
          exact .after _ " OF " (by decide) (.refl _)

theorem lastOr_cons (before closing : String) (closings : List String) :
    lastOr before (closing :: closings) = lastOr closing closings := by
  rw [lastOr, List.getLast?_cons, Option.getD_some, lastOr]

theorem closes_locks {front before : String} (h : Closes front before) (locks : List Lock) :
    Closes (front ++ String.join (locks.map (" " ++ ·.text)))
      (lastOr before (locks.map Lock.closing)) := by
  induction locks generalizing front before with
  | nil => exact h.append_empty
  | cons l locks ih =>
      have hrest := ih (closes_lock front l)
      rw [List.map_cons, List.map_cons, lastOr_cons, String.join_cons]
      simpa only [← String.append_assoc] using hrest

section
variable {front : String} (h : Closes front "")
include h

theorem closes_namedBy (name : Option String) : Closes (front ++ namedBy name) "" := by
  cases name with
  | none => exact h.append_empty
  | some name =>
      show Closes (front ++ ("('" ++ name ++ "')")) ""
      rw [← String.append_assoc]
      exact .mark _ "')" (by decide)

theorem closes_optionIf {option : String} (hoption : separates (", " ++ option) = true)
    (present : Bool) : Closes (front ++ optionIf present option) "" := by
  cases present with
  | false => exact h.append_empty
  | true => exact .mark front _ hoption

theorem closes_rootText (root : Option String) : Closes (front ++ rootText root) "" := by
  cases root with
  | none => exact h.append_empty
  | some name =>
      have hroot := closes_namedBy (.mark front ", ROOT" (by decide)) (some name)
      rwa [String.append_assoc] at hroot

end

theorem closes_xmlShape (front : String) (shape : XmlShape) : Closes (front ++ shape.text) "" := by
  cases shape with
  | auto => exact .mark front "AUTO" (by decide)
  | explicit => exact .mark front "EXPLICIT" (by decide)
  | raw name =>
      have hname := closes_namedBy (.mark front "RAW" (by decide)) name
      rwa [String.append_assoc] at hname
  | path name =>
      have hname := closes_namedBy (.mark front "PATH" (by decide)) name
      rwa [String.append_assoc] at hname

theorem closes_form (front : String) (f : ResultForm) : Closes (front ++ f.text) "" := by
  cases f with
  | browse => exact .mark front "FOR BROWSE" (by decide)
  | json auto root withNulls withoutArray =>
      have hkind : separates ("FOR JSON " ++ if auto then "AUTO" else "PATH") = true := by
        cases auto <;> decide
      have hform := closes_optionIf (closes_optionIf (closes_rootText (.mark front _ hkind) root)
        (by decide : separates (", " ++ "INCLUDE_NULL_VALUES") = true) withNulls)
        (by decide : separates (", " ++ "WITHOUT_ARRAY_WRAPPER") = true) withoutArray
      show Closes (front ++ (_ ++ _ ++ _ ++ _ ++ _)) ""
      simpa only [← String.append_assoc] using hform
  | xml shape elements base64 root typed =>
      have hshape := closes_xmlShape (front ++ "FOR XML ") shape
      have hoptions := closes_optionIf (closes_optionIf hshape
        (by decide : separates (", " ++ "BINARY BASE64") = true) base64)
        (by decide : separates (", " ++ "TYPE") = true) typed
      have hform := closes_optionIf (closes_rootText hoptions root)
        (by decide : separates (", " ++ "ELEMENTS") = true) elements
      show Closes (front ++ (_ ++ _ ++ _ ++ _ ++ _ ++ _)) ""
      simpa only [← String.append_assoc] using hform

theorem closes_fetch (front : String) (f : Fetch) : Closes (front ++ f.text) "" := by
  have hlast : separates (if f.withTies then "WITH TIES" else "ONLY") = true := by
    cases f.withTies <;> decide
  unfold Fetch.text
  rw [← String.append_assoc]
  exact .mark _ _ hlast

/-- The text of a query without paging. -/
theorem Query.text_unlimited {q : Query} (hlimit : q.limit = .none) (hoffset : q.offset = .none) :
    q.text = Query.withText q.recursive q.tables.texts ++ q.body.text
      ++ listClause " ORDER BY " q.order.texts
      ++ (match q.fetch with | none => "" | some f => " " ++ f.text)
      ++ String.join (q.locks.map (" " ++ ·.text))
      ++ (match q.form with | none => "" | some f => " " ++ f.text) := by
  obtain ⟨recursive, tables, body, order, limit, offset, offsetWord, fetch, locks, form⟩ := q
  cases hlimit
  cases hoffset
  have hempty : ∀ a b c d : String, a ++ "" ++ "" ++ b ++ c ++ d = a ++ b ++ c ++ d := by
    simp only [String.append_empty, implies_true]
  exact hempty _ _ _ _

/-- A query without a limit is like one only if what it ends with is. -/
theorem closes_query {q : Query} {s : Select} (hs : q.body = .select s) (hlimit : q.limit = .none)
    (hoffset : q.offset = .none) : Closes q.text q.closing := by
  have horder := closes_listClause
    (closes_select (Query.withText q.recursive q.tables.texts) s)
    (by decide : separates " ORDER BY " = true) (closes_orderKeys q.order)
  -- The closing is carried along the clauses, and one that is missing leaves it as it was.
  have hfetch : Closes (Query.withText q.recursive q.tables.texts ++ s.text
      ++ listClause " ORDER BY " q.order.texts
      ++ (match q.fetch with | none => "" | some f => " " ++ f.text))
      (match q.fetch with | none => lastOr s.closing q.order.closings | some _ => "") := by
    cases q.fetch with
    | none => exact horder.append_empty
    | some f =>
        rw [← String.append_assoc]
        exact closes_fetch _ f
  have hlocks := closes_locks hfetch q.locks
  have hbody : q.body.text = s.text := congrArg Body.text hs
  rw [Query.text_unlimited hlimit hoffset, hbody]
  unfold Query.closing
  rw [hs]
  cases q.form with
  | none => exact hlocks.append_empty
  | some f =>
      rw [← String.append_assoc]
      exact closes_form _ f

end QueryReport.Sql
