import QueryReport.Proofs.Sql.Dialect.Laid

/-!
# `QueryReport.Proofs.Sql.Dialect.LaidQuery`: the text of a query and its leaves

The leaves of a query stand in its text one after the other (`lays_query`).  Expressions have
queries in them and the other way round, so it is proved for all kinds of tree at once, with one
case for each constructor.

Some texts look at a part of the tree to tell whether there is anything to write: `clauseIf`,
`enclosedIf` and `MaybeExpr.enclosed` are such texts, as functions of what may be left out.  They
are what the text of the tree is by definition, so the cases below need no equation for them.
-/

set_option autoImplicit false

namespace QueryReport.Sql

open Dialect

/-! ## Lists of clauses -/

/-- The leaves stand in the texts one after the other. -/
def LaysAll (ls : List Leaf) (texts : List String) : Prop :=
  ∃ leaves, leaves.flatten = ls ∧ List.Forall₂ Lays leaves texts

section
variable {ls ms : List Leaf} {texts texts' : List String} {leaves leaves' : List (List Leaf)}

theorem laysAll_nil : LaysAll [] [] := ⟨[], rfl, .nil⟩

theorem laysAll_single {s : String} (h : Lays ls s) : LaysAll ls [s] :=
  ⟨[ls], by rw [List.flatten_cons, List.flatten_nil, List.append_nil], .cons h .nil⟩

theorem LaysAll.append (h : LaysAll ls texts) (h' : LaysAll ms texts') :
    LaysAll (ls ++ ms) (texts ++ texts') := by
  obtain ⟨leaves, rfl, h⟩ := h
  obtain ⟨leaves', rfl, h'⟩ := h'
  exact ⟨leaves ++ leaves', List.flatten_append, List.rel_append h h'⟩

/-- One more clause if a list has entries. -/
def clauseIf (lead : String) (texts : List String) : List String :=
  match texts with
  | [] => []
  | ts => [lead ++ commas ts]

theorem laysAll_clauseIf {lead : String} (hlead : Gap lead) (h : List.Forall₂ Lays leaves texts) :
    LaysAll leaves.flatten (clauseIf lead texts) := by
  cases h with
  | nil => exact laysAll_nil
  | cons hfirst hrest => exact laysAll_single (.lead lead hlead (.commas (.cons hfirst hrest)))

theorem LaysAll.intercalate {between : String} (hbetween : Gap between) (h : LaysAll ls texts) :
    Lays ls (between.intercalate texts) := by
  obtain ⟨leaves, rfl, h⟩ := h
  exact .intercalate hbetween h

end

/-! ## Frames and windows -/

theorem gap_precisions (p f : Option Nat) : Gap (match p with | none => "" | some p => s!" ({p})")
    ∧ Gap (match f with | none => "" | some f => s!" ({f})") := by
  have hnumber (n : Nat) : Gap (" (" ++ toString n ++ ")") :=
    gap_append (gap_append (by decide) (gap_nat n)) (by decide)
  constructor
  · cases p with
    | none => exact gap_empty
    | some p => exact hnumber p
  · cases f with
    | none => exact gap_empty
    | some f => exact hnumber f

/-- Units are written one after the other, but for seconds with both precisions. -/
theorem IntervalUnits.written (leading last : Option DateField) (p f : Option Nat) :
    (∃ m n, leading = some (.known "SECOND") ∧ p = some m ∧ f = some n)
      ∨ IntervalUnits.leaves ⟨leading, p, last, f⟩
          = (match leading with | none => [] | some l => [l.leaf])
            ++ (match last with | none => [] | some l => [l.leaf])
        ∧ IntervalUnits.text ⟨leading, p, last, f⟩
          = (match leading with | none => "" | some l => " " ++ l.text)
            ++ (match p with | none => "" | some p => s!" ({p})")
            ++ (match last with | none => "" | some l => " TO " ++ l.text)
            ++ (match f with | none => "" | some f => s!" ({f})") := by
  by_cases hseconds : ∃ m n, leading = some (.known "SECOND") ∧ p = some m ∧ f = some n
  · exact .inl hseconds
  · refine .inr ⟨?_, ?_⟩
    · unfold IntervalUnits.leaves
      dsimp only
      split
      · exact (hseconds ⟨_, _, rfl, rfl, rfl⟩).elim
      · rfl
    · unfold IntervalUnits.text
      dsimp only
      split
      · exact (hseconds ⟨_, _, rfl, rfl, rfl⟩).elim
      · rfl

theorem lays_units (u : IntervalUnits) : Lays u.leaves u.text := by
  obtain ⟨leading, p, last, f⟩ := u
  obtain ⟨m, n, rfl, rfl, rfl⟩ | ⟨hleaves, htext⟩ := IntervalUnits.written leading last p f
  · refine lays_gap (gap_append (gap_append (gap_append (gap_append ?_ (gap_nat m)) ?_) (gap_nat n))
      ?_)
    all_goals decide
  · rw [hleaves, htext]
    obtain ⟨hp, hf⟩ := gap_precisions p f
    refine Lays.trail (.append (.trail ?_ _ hp) ?_) _ hf
    · cases leading with
      | none => exact lays_empty
      | some l => exact .lead " " (by decide) (lays_dateField l)
    · cases last with
      | none => exact lays_empty
      | some l => exact .lead " TO " (by decide) (lays_dateField l)

section
variable {texts : List String} {leaves : List (List Leaf)}

/-- One end of a frame takes its distance from the front of those that are left. -/
theorem lays_frameBound (b : FrameBound) (h : List.Forall₂ Lays leaves texts) :
    Lays (b.leaves leaves).1 (b.text texts).1
      ∧ List.Forall₂ Lays (b.leaves leaves).2 (b.text texts).2 := by
  cases b with
  | currentRow => exact ⟨lays_gap (by decide : Gap "CURRENT ROW"), h⟩
  | unboundedPreceding => exact ⟨lays_gap (by decide : Gap "UNBOUNDED PRECEDING"), h⟩
  | unboundedFollowing => exact ⟨lays_gap (by decide : Gap "UNBOUNDED FOLLOWING"), h⟩
  | preceding =>
      cases h with
      | nil => exact ⟨lays_gap (by decide), .nil⟩
      | cons hfirst hrest => exact ⟨hfirst.trail " PRECEDING" (by decide), hrest⟩
  | following =>
      cases h with
      | nil => exact ⟨lays_gap (by decide), .nil⟩
      | cons hfirst hrest => exact ⟨hfirst.trail " FOLLOWING" (by decide), hrest⟩

theorem lays_frame (f : Frame) (h : List.Forall₂ Lays leaves texts) :
    Lays (f.leaves leaves) (f.text texts) := by
  obtain ⟨unit, first, last⟩ := f
  have hunit : Gap unit.text := by cases unit <;> decide
  obtain ⟨hfirst, hrest⟩ := lays_frameBound first h
  cases last with
  | none => exact .lead _ (gap_append hunit (by decide)) hfirst
  | some last =>
      exact (Lays.lead _ (gap_append hunit (by decide)) hfirst).follow " AND " (by decide)
        (lays_frameBound last hrest).1

end

/-- What stands between the parentheses of a window. -/
theorem laysAll_window {partition order distances : List (List Leaf)}
    {partitionTexts orderTexts distanceTexts : List String} (base : Option Ident)
    (hpartition : List.Forall₂ Lays partition partitionTexts)
    (horder : List.Forall₂ Lays order orderTexts) (frame : Option Frame)
    (hdistances : List.Forall₂ Lays distances distanceTexts) :
    LaysAll
      ((match base with | none => [] | some b => [.name b])
        ++ partition.flatten ++ order.flatten
        ++ (match frame with | none => [] | some f => f.leaves distances))
      ((match base with | none => [] | some b => [b.text])
        ++ clauseIf "PARTITION BY " partitionTexts ++ clauseIf "ORDER BY " orderTexts
        ++ (match frame with | none => [] | some f => [f.text distanceTexts])) := by
  have hlists := (laysAll_clauseIf (by decide : Gap "PARTITION BY ") hpartition).append
    (laysAll_clauseIf (by decide : Gap "ORDER BY ") horder)
  rw [List.append_assoc _ partition.flatten, List.append_assoc _ (clauseIf _ partitionTexts)]
  refine LaysAll.append (LaysAll.append ?_ hlists) ?_
  · cases base with
    | none => exact laysAll_nil
    | some b => exact laysAll_single (lays_name b)
  · cases frame with
    | none => exact laysAll_nil
    | some f => exact laysAll_single (lays_frame f hdistances)

/-! ## Clauses of calls -/

theorem laysAll_nulls (nulls : Option JsonNulls) :
    LaysAll [] (match nulls with | none => [] | some n => [n.text]) := by
  cases nulls with
  | none => exact laysAll_nil
  | some n => exact laysAll_single (lays_gap (by cases n <;> decide))

/-- The clauses behind the arguments of a call. -/
theorem laysAll_argumentClauses {order overflow : List (List Leaf)} {limit : List Leaf}
    {orderTexts overflowTexts : List String} {limitText : Option String}
    (leading nulls : Option JsonNulls) (horder : List.Forall₂ Lays order orderTexts)
    (hlimit : LaysAll limit (match limitText with | none => [] | some e => ["LIMIT " ++ e]))
    (hoverflow : List.Forall₂ Lays overflow overflowTexts) :
    LaysAll (order.flatten ++ limit ++ overflow.flatten)
      (argumentClauses leading orderTexts limitText overflowTexts nulls) := by
  have hkeys := laysAll_clauseIf (by decide : Gap "ORDER BY ") horder
  have hclauses := ((((laysAll_nulls leading).append hkeys).append hlimit).append
    ⟨_, rfl, hoverflow⟩).append (laysAll_nulls nulls)
  rw [List.nil_append, List.append_nil] at hclauses
  exact hclauses

/-- Clauses with a blank before them if there are arguments. -/
theorem lays_argumentTail {ls : List Leaf} (args : Exprs) (clauses : List String) :
    LaysAll ls clauses → Lays ls (match args, clauses with
      | _, [] => ""
      | .nil, cs => " ".intercalate cs
      | _, cs => " " ++ " ".intercalate cs) := by
  intro h
  cases clauses with
  | nil =>
      obtain ⟨_, rfl, h⟩ := h
      cases h
      cases args <;> exact lays_empty
  | cons c cs =>
      have hclauses := h.intercalate (by decide : Gap " ")
      cases args with
      | nil => exact hclauses
      | cons => exact .lead " " (by decide) hclauses

/-! ## Clauses of queries -/

/-- A list between two texts, if it has entries. -/
def enclosedIf (opening closing : String) (texts : List String) : String :=
  match texts with
  | [] => ""
  | ts => opening ++ commas ts ++ closing

theorem lays_enclosedIf {opening closing : String} {leaves : List (List Leaf)} {texts : List String}
    (hmarks : Gap (opening ++ closing)) (h : List.Forall₂ Lays leaves texts) :
    Lays leaves.flatten (enclosedIf opening closing texts) := by
  cases h with
  | nil => exact lays_empty
  | cons hfirst hrest => exact .within opening closing hmarks (.commas (.cons hfirst hrest))

/-- An expression between two texts, if it is there. -/
def MaybeExpr.enclosed (opening closing : String) : MaybeExpr → String
  | .none => ""
  | .some e => opening ++ e.text ++ closing

/-- A clause of names. -/
theorem lays_nameClause {lead : String} (hlead : Gap lead) (names : List Ident) :
    Lays (names.map .name) (listClause lead (names.map Ident.text)) := by
  cases names with
  | nil => exact lays_empty
  | cons i names => exact .lead lead hlead (lays_names (i :: names))

theorem lays_sortText {ls : List Leaf} {expr : String} (ascending nullsFirst : Option Bool)
    (h : Lays ls expr) : Lays ls (sortText expr ascending nullsFirst) := by
  refine Lays.trail (Lays.trail h _ ?direction) _ ?nulls
  case direction =>
    rcases ascending with - | ascending
    · decide
    · cases ascending <;> decide
  case nulls =>
    rcases nullsFirst with - | nullsFirst
    · decide
    · cases nullsFirst <;> decide

theorem lays_fetchClause (fetch : Option Fetch) :
    Lays (match fetch with | none => [] | some f => f.leaves)
      (match fetch with | none => "" | some f => " " ++ f.text) := by
  cases fetch with
  | none => exact lays_empty
  | some f => exact .lead " " (by decide) (lays_fetch f)

theorem lays_formClause (form : Option ResultForm) :
    Lays (match form with | none => [] | some f => f.leaves)
      (match form with | none => "" | some f => " " ++ f.text) := by
  cases form with
  | none => exact lays_empty
  | some f => exact .lead " " (by decide) (lays_form f)

theorem lays_lockClause (l : Lock) : Lays l.leaves (" " ++ l.text) :=
  .lead " " (by decide) (lays_lock l)

theorem gap_joinShape (shape : JoinShape) : Gap shape.text := by
  obtain ⟨global, kind, natural, shared⟩ := shape
  have hglobal : Gap (tailIf global "GLOBAL" ++ " ") :=
    gap_append (gap_tailIf global (by decide)) (by decide)
  have hkind : Gap (kind.text ++ " ") := by cases kind <;> decide
  have hnatural : Gap (wordIf natural "NATURAL") := gap_wordIf natural (by decide)
  have hshape := gap_append (gap_append hglobal hnatural) hkind
  rwa [← String.append_assoc] at hshape

/-- The columns that both sides of a join have. -/
theorem lays_shared (shared : Option (List Ident)) :
    Lays (match shared with | none => [] | some columns => columns.map .name)
      (match shared with
        | none => ""
        | some columns => " USING(" ++ commas (columns.map Ident.text) ++ ")") := by
  cases shared with
  | none => exact lays_empty
  | some columns => exact .within " USING(" ")" (by decide) (lays_names columns)

section
variable {ls ms : List Leaf} {s t : String} {leaves : List (List Leaf)} {texts : List String}

theorem lays_distinct (word : DistinctWord) (h : List.Forall₂ Lays leaves texts) :
    Lays (match word with | .unstated | .distinct => [] | .on => leaves.flatten)
      ("SELECT" ++ (match word with
        | .unstated => ""
        | .distinct => " DISTINCT"
        | .on => " DISTINCT ON (" ++ commas texts ++ ")")) := by
  cases word with
  | unstated => exact lays_gap (by decide : Gap "SELECT")
  | distinct => exact lays_gap (by decide : Gap "SELECT DISTINCT")
  | on => exact .lead "SELECT" (by decide) (.within " DISTINCT ON (" ")" (by decide) (.commas h))

theorem lays_top (top : Top) (h : Lays ls s) :
    Lays (match top with | .unstated | .count _ _ _ => [] | .computed _ _ => ls)
      (match top with
        | .unstated => ""
        | .count n percent withTies => s!" TOP {n}" ++ topWords percent withTies
        | .computed percent withTies => " TOP (" ++ s ++ ")" ++ topWords percent withTies) := by
  have hwords (percent withTies : Bool) : Gap (topWords percent withTies) := by
    cases percent <;> cases withTies <;> decide
  cases top with
  | unstated => exact lays_empty
  | count n percent withTies =>
      exact lays_gap (gap_append (gap_append (by decide) (gap_nat n)) (hwords _ _))
  | computed percent withTies =>
      exact (Lays.within " TOP (" ")" (by decide) h).trail _ (hwords _ _)

theorem lays_groupBy (all : Bool) (h : List.Forall₂ Lays leaves texts) :
    Lays (if all then [] else leaves.flatten)
      (if all then " GROUP BY ALL" else listClause " GROUP BY " texts) := by
  cases all with
  | true => exact lays_gap (by decide : Gap " GROUP BY ALL")
  | false => exact Lays.listClause (by decide : Gap " GROUP BY ") h

/-- The windows and the filter on them, in either order. -/
theorem lays_lastClauses (windowsFirst : Bool) (h : Lays ls s) (h' : Lays ms t) :
    Lays (if windowsFirst then ls ++ ms else ms ++ ls)
      (if windowsFirst then s ++ t else t ++ s) := by
  cases windowsFirst with
  | true => exact h.append h'
  | false => exact h'.append h

end

theorem lays_into (t : IntoTable) : Lays (Path.leaves t.name) t.text := by
  obtain ⟨temporary, unlogged, table, name⟩ := t
  have hwords : Gap (" INTO " ++ wordIf temporary "TEMPORARY" ++ wordIf unlogged "UNLOGGED"
      ++ wordIf table "TABLE") := by
    cases temporary <;> cases unlogged <;> cases table <;> decide
  exact .lead _ hwords (lays_path name)

theorem lays_intoClause (into : Option IntoTable) :
    Lays (match into with | none => [] | some t => Path.leaves t.name)
      (match into with | none => "" | some t => t.text) := by
  cases into with
  | none => exact lays_empty
  | some t => exact lays_into t

/-- A table's name with the other name that it goes by. -/
theorem lays_renamed (name : Path) (label : Option Ident) :
    Lays (Path.leaves name ++ (match label with | none => [] | some l => [.name l]))
      (Path.text name ++ (match label with | none => "" | some l => " AS " ++ l.text)) := by
  cases label with
  | none => exact (lays_path name).none
  | some l => exact (lays_path name).append (.lead " AS " (by decide) (lays_name l))

theorem lays_insertShape (shape : InsertShape) : Lays shape.leaves shape.text := by
  obtain ⟨rule, overwrite, into, table, name, label, columns⟩ := shape
  have hname := lays_renamed name label
  refine Lays.append ?names ?columns
  case names =>
    cases rule with
    | some rule =>
        have hrule : Gap ("INSERT " ++ rule.text ++ " INTO ") := by cases rule <;> decide
        exact (Lays.lead _ hrule hname).trail " " (by decide)
    | none =>
        have hwords : Gap ("INSERT" ++ tailIf overwrite "OVERWRITE" ++ tailIf into "INTO"
            ++ tailIf table "TABLE" ++ " ") := by
          cases overwrite <;> cases into <;> cases table <;> decide
        exact (Lays.lead _ hwords hname).trail " " (by decide)
  case columns =>
    cases columns with
    | nil => exact lays_empty
    | cons c cs => exact .within "(" ") " (by decide) (lays_names (c :: cs))

/-- Where the rows are written to, and in which format. -/
theorem lays_directory (overwrite onHost : Bool) (directory : String) (format : Option String) :
    Lays ([.raw ("'" ++ directory ++ "'")] ++ (match format with | none => [] | some f => [.raw f]))
      ("INSERT" ++ tailIf overwrite "OVERWRITE" ++ tailIf onHost "LOCAL" ++ " DIRECTORY '"
        ++ directory ++ "'"
        ++ (match format with | none => "" | some f => " STORED AS " ++ f)) := by
  have hwords : Gap ("INSERT" ++ tailIf overwrite "OVERWRITE" ++ tailIf onHost "LOCAL") := by
    cases overwrite <;> cases onHost <;> decide
  have hdirectory : Lays [.raw ("'" ++ directory ++ "'")] (" DIRECTORY '" ++ directory ++ "'") :=
    lays_quoted " DIRECTORY " directory "" (by decide) (by decide)
  have hlead := Lays.lead _ hwords hdirectory
  rw [← String.append_assoc, ← String.append_assoc] at hlead
  cases format with
  | none => exact hlead.none
  | some f => exact hlead.append (.lead " STORED AS " (by decide) (lays_raw f))

theorem lays_place (place : Option Literal) :
    Lays (match place with | none => [] | some p => [.literal p])
      (match place with | none => "" | some p => ", " ++ p.text) := by
  cases place with
  | none => exact lays_empty
  | some p => exact .lead ", " (by decide) (lays_literal p)

theorem lays_openJsonColumns (columns : List OpenJsonColumn) :
    Lays (columns.map OpenJsonColumn.leaves).flatten (match columns with
      | [] => ""
      | cs => " WITH (" ++ commas (cs.map OpenJsonColumn.text) ++ ")") := by
  cases columns with
  | nil => exact lays_empty
  | cons c cs =>
      have hentries := forall_lays lays_openJsonColumn (c :: cs)
      exact .within " WITH (" ")" (by decide) (.commas hentries)

/-! ## Expressions -/

theorem gap_blank : Gap " " := by decide

theorem gap_close : Gap ")" := by decide

theorem gap_parens : Gap ("(" ++ ")") := by decide

theorem gap_not : Gap "NOT" := by decide

mutual

theorem lays_expr : (e : Expr) → Lays e.leaves e.text
  | .column name => lays_name name
  | .path parts => lays_path parts
  | .star => lays_gap (by decide)
  | .everyColumn relation => (lays_path relation).trail ".*" (by decide)
  | .literal value => lays_literal value
  | .typedText type text => (lays_type type).follow " " gap_blank (lays_literal (.string text))
  | .introduced charset value => (lays_raw charset).follow " " gap_blank (lays_literal value)
  | .call call => lays_call call
  | .named name mark value => by
      have hmark : Gap mark.text := by cases mark <;> decide
      exact (((lays_expr name).trail " " gap_blank).trail _ hmark).follow " " gap_blank
        (lays_expr value)
  | .nested inner => .within "(" ")" gap_parens (lays_expr inner)
  | .tuple items => .within "(" ")" gap_parens (.commas (lays_exprs items))
  | .array keyword items =>
      .within (if keyword then "ARRAY[" else "[") "]" (by cases keyword <;> decide)
        (.commas (lays_exprs items))
  | .subquery query => .within "(" ")" gap_parens (lays_query query)
  | .exist negated query => by
      have hlead : Gap (wordIf negated "NOT" ++ "EXISTS (") :=
        gap_append (gap_wordIf negated (by decide)) (by decide)
      exact (Lays.lead _ hlead (lays_query query)).trail ")" gap_close
  | .unary op operand => by
      have hoperand := lays_expr operand
      cases op with
      | factorial => exact hoperand.trail "!" (by decide)
      | not => exact .lead "NOT " (by decide) hoperand
      | plus => exact .lead "+" (by decide) hoperand
      | minus => exact .lead "-" (by decide) hoperand
      | bitNot => exact .lead "~" (by decide) hoperand
      | squareRoot => exact .lead "|/" (by decide) hoperand
      | cubeRoot => exact .lead "||/" (by decide) hoperand
      | abs => exact .lead "@" (by decide) hoperand
      | leadingFactorial => exact .lead "!!" (by decide) hoperand
  | .binary left op right =>
      ((lays_expr left).follow " " gap_blank (lays_binaryOp op)).follow " " gap_blank
        (lays_expr right)
  | .quantified left op quantifier right => by
      have hquantifier : Gap quantifier.text := by cases quantifier <;> decide
      have hop := (lays_expr left).follow " " gap_blank (lays_binaryOp op)
      have hlead := (hop.trail " " gap_blank).trail _ hquantifier
      have hright := lays_expr right
      -- A query on the right has its parentheses anyway, and no second pair is written.
      cases right with
      | subquery q => exact hlead.append (.within "(" ")" gap_parens (lays_query q))
      | _ => exact hlead.append (.within "(" ")" gap_parens hright)
  | .nullTest operand negated =>
      (lays_expr operand).trail _ (by cases negated <;> decide)
  | .truthTest operand negated value => by
      have hvalue : Gap value.text := by cases value <;> decide
      exact (((lays_expr operand).trail " IS " (by decide)).word negated "NOT" gap_not).trail _
        hvalue
  | .distinctTest left negated right =>
      (((lays_expr left).trail " IS " (by decide)).word negated "NOT" gap_not).follow
        "DISTINCT FROM " (by decide) (lays_expr right)
  | .inList operand negated items =>
      ((((lays_expr operand).trail " " gap_blank).word negated "NOT" gap_not).follow "IN ("
        (by decide) (.commas (lays_exprs items))).trail ")" gap_close
  | .inQuery operand negated query =>
      ((((lays_expr operand).trail " " gap_blank).word negated "NOT" gap_not).follow "IN ("
        (by decide) (lays_query query)).trail ")" gap_close
  | .inUnnest operand negated items =>
      ((((lays_expr operand).trail " " gap_blank).word negated "NOT" gap_not).follow
        "IN UNNEST(" (by decide) (lays_expr items)).trail ")" gap_close
  | .between operand negated low high =>
      ((((lays_expr operand).trail " " gap_blank).word negated "NOT" gap_not).follow
        "BETWEEN " (by decide) (lays_expr low)).follow " AND " (by decide) (lays_expr high)
  | .pattern operand negated test any pattern escape => by
      have htest : Gap test.text := by cases test <;> decide
      have hoperand := ((lays_expr operand).trail " " gap_blank).word negated "NOT" gap_not
      have hpattern := (((hoperand.trail _ htest).trail " " gap_blank).word any "ANY"
        (by decide)).append (lays_expr pattern)
      refine hpattern.append ?_
      cases escape with
      | none => exact lays_empty
      | some c => exact lays_quoted " ESCAPE " c "" (by decide) (by decide)
  | .regexp operand negated short pattern =>
      ((((lays_expr operand).trail " " gap_blank).word negated "NOT" gap_not).trail _
        (by cases short <;> decide)).append (lays_expr pattern)
  | .cast form operand type format => by
      have hoperand := lays_expr operand
      have hformat : Lays (match format with | none => [] | some f => f.leaves)
          (match format with | none => "" | some f => " FORMAT " ++ f.text) := by
        cases format with
        | none => exact lays_empty
        | some f => exact .lead " FORMAT " (by decide) (lays_castFormat f)
      have hcalled (word : String) (hword : Gap word) :=
        (((Lays.lead word hword hoperand).follow " AS " (by decide) (lays_type type)).append
          hformat).trail ")" gap_close
      -- With colons no format is written, and the leaves have none either.
      cases form with
      | colons => exact hoperand.follow "::" (by decide) (lays_type type)
      | cast => exact hcalled "CAST(" (by decide)
      | tryCast => exact hcalled "TRY_CAST(" (by decide)
      | safeCast => exact hcalled "SAFE_CAST(" (by decide)
  | .convert operand type charset => by
      have hoperand := Lays.lead "CONVERT(" (by decide) (lays_expr operand)
      refine (hoperand.append ?_).trail ")" gap_close
      cases type with
      | none =>
          cases charset with
          | none => exact lays_empty
          | some c => exact .lead " USING " (by decide) (lays_path c)
      | some t =>
          have htype := Lays.lead ", " (by decide) (lays_type t)
          cases charset with
          | none => exact htype
          | some c => exact htype.follow " CHARACTER SET " (by decide) (lays_path c)
  | .case operand branches otherwise =>
      (((Lays.lead "CASE" (by decide) (lays_after (by decide) operand)).append
        (lays_branches branches)).append (lays_after (by decide) otherwise)).trail " END"
        (by decide)
  | .extract field operand =>
      ((Lays.lead "EXTRACT(" (by decide) (lays_dateField field)).follow " FROM " (by decide)
        (lays_expr operand)).trail ")" gap_close
  | .round up operand target =>
      ((Lays.lead (if up then "CEIL(" else "FLOOR(") (by cases up <;> decide)
        (lays_expr operand)).append (lays_roundTarget target)).trail ")" gap_close
  | .position part whole =>
      ((Lays.lead "POSITION(" (by decide) (lays_expr part)).follow " IN " (by decide)
        (lays_expr whole)).trail ")" gap_close
  | .substring operand start length commas =>
      (((Lays.lead "SUBSTRING(" (by decide) (lays_expr operand)).append
        (lays_after (by cases commas <;> decide) start)).append
        (lays_after (by cases commas <;> decide) length)).trail ")" gap_close
  | .trim operand side characters => by
      have hside : Gap ("TRIM(" ++ match side with | none => "" | some s => s.text ++ " ") := by
        cases side with
        | none => decide
        | some s => cases s <;> decide
      exact ((Lays.lead _ hside (lays_before (by decide) characters)).append
        (lays_expr operand)).trail ")" gap_close
  | .overlay operand replacement start length =>
      ((((Lays.lead "OVERLAY(" (by decide) (lays_expr operand)).follow " PLACING " (by decide)
        (lays_expr replacement)).follow " FROM " (by decide) (lays_expr start)).append
        (lays_after (by decide) length)).trail ")" gap_close
  | .interval value units =>
      (Lays.lead "INTERVAL " (by decide) (lays_expr value)).append (lays_units units)
  | .collate operand collation =>
      (lays_expr operand).follow " COLLATE " (by decide) (lays_path collation)
  | .atTimeZone operand zone =>
      (lays_expr operand).follow " AT TIME ZONE " (by decide) (lays_expr zone)
  | .subscript operand index =>
      ((lays_expr operand).follow "[" (by decide) (lays_expr index)).trail "]" (by decide)
  | .slice operand lower upper stride =>
      ((((lays_expr operand).follow "[" (by decide) (lays_after (by decide) lower)).follow ":"
        (by decide) (lays_after (by decide) upper)).append
        (lays_after (by decide) stride)).trail "]" (by decide)
  | .field operand name => (lays_expr operand).follow "." (by decide) (lays_name name)
  | .groupingSets rows => .within "GROUPING SETS (" ")" (by decide) (.commas (lays_exprs rows))
  | .cube rows => .within "CUBE (" ")" (by decide) (.commas (lays_rows rows))
  | .rollup rows => .within "ROLLUP (" ")" (by decide) (.commas (lays_rows rows))

theorem lays_after {lead : String} (hlead : Gap lead) : (e : MaybeExpr) →
    Lays e.leaves (e.after lead)
  | .none => lays_empty
  | .some e => .lead lead hlead (lays_expr e)

theorem lays_before {trailer : String} (htrailer : Gap trailer) : (e : MaybeExpr) →
    Lays e.leaves (e.before trailer)
  | .none => lays_empty
  | .some e => (lays_expr e).trail trailer htrailer

theorem lays_enclosed {opening closing : String} (hmarks : Gap (opening ++ closing)) :
    (e : MaybeExpr) → Lays e.leaves (e.enclosed opening closing)
  | .none => lays_empty
  | .some e => .within opening closing hmarks (lays_expr e)

/-- The limit of a call. -/
theorem laysAll_limit : (e : MaybeExpr) →
    LaysAll e.leaves (match e.text? with | none => [] | some e => ["LIMIT " ++ e])
  | .none => laysAll_nil
  | .some e => laysAll_single (.lead "LIMIT " (by decide) (lays_expr e))

theorem lays_textOr {absent : String} (habsent : Gap absent) : (q : MaybeQuery) →
    Lays q.leaves (q.textOr absent)
  | .none => lays_gap habsent
  | .some q => lays_query q

theorem lays_exprs : (es : Exprs) → List.Forall₂ Lays es.leaves es.texts
  | .nil => .nil
  | .cons e es => .cons (lays_expr e) (lays_exprs es)

/-- A row of one is written without its parentheses. -/
theorem lays_rows : (es : Exprs) → List.Forall₂ Lays es.leaves es.rowTexts
  | .nil => .nil
  | .cons e es => by
      have hfirst := lays_expr e
      have hrest := lays_rows es
      cases e with
      | tuple items =>
          cases items with
          | nil => exact .cons hfirst hrest
          | cons e' items =>
              cases items with
              | nil => exact .cons (Lays.commas (.cons (lays_expr e') .nil)) hrest
              | cons => exact .cons hfirst hrest
      | _ => exact .cons hfirst hrest

theorem lays_branches : (bs : Branches) → Lays bs.leaves bs.text
  | .nil => lays_empty
  | .cons condition result rest =>
      ((Lays.lead " WHEN " (by decide) (lays_expr condition)).follow " THEN " (by decide)
        (lays_expr result)).append (lays_branches rest)

theorem lays_call : (c : Call) → Lays c.leaves c.text
  | ⟨name, braces, args, withinGroup, filter, nulls, window⟩ => by
      have hname : Lays (Path.leaves name ++ args.leaves)
          ((if braces then "\x7bfn " else "") ++ Path.text name ++ args.text) :=
        (Lays.lead _ (by cases braces <;> decide) (lays_path name)).append (lays_callArgs args)
      have hgroup : Lays withinGroup.leaves.flatten
          (enclosedIf " WITHIN GROUP (ORDER BY " ")" withinGroup.texts) :=
        lays_enclosedIf (by decide) (lays_orderKeys withinGroup)
      have hnulls : Gap (match nulls with | none => "" | some n => " " ++ n.text) := by
        cases nulls with
        | none => decide
        | some n => cases n <;> decide
      have hfilter := lays_enclosed (by decide : Gap (" FILTER (WHERE " ++ ")")) filter
      have hcall := ((((hname.append hgroup).append hfilter).trail _ hnulls).append
        (lays_overAfter window)).trail (if braces then "\x7d" else "") (by cases braces <;> decide)
      -- The text looks whether there is a filter, and is what `enclosed` writes in both cases.
      cases filter <;> exact hcall

theorem lays_callArgs : (args : CallArgs) → Lays args.leaves args.text
  | .absent => lays_empty
  | .subquery query => .within "(" ")" gap_parens (lays_query query)
  | .list duplicates leading args order limit overflow nulls => by
      have hduplicates : Gap ("(" ++ match duplicates with
          | none => ""
          | some d => d.text ++ " ") := by
        cases duplicates with
        | none => decide
        | some d => cases d <;> decide
      have hclauses := laysAll_argumentClauses leading nulls (lays_orderKeys order)
        (laysAll_limit limit) (lays_overflow overflow)
      exact ((Lays.lead _ hduplicates (.commas (lays_exprs args))).append
        (lays_argumentTail args _ hclauses)).trail ")" gap_close

theorem lays_overflow : (o : Overflow) → List.Forall₂ Lays o.leaves o.texts
  | .unstated => .nil
  | .error => .cons (lays_gap (by decide)) .nil
  | .truncate filler counted =>
      .cons ((Lays.lead "ON OVERFLOW TRUNCATE" (by decide) (lays_after (by decide) filler)).trail
        (if counted then " WITH COUNT" else " WITHOUT COUNT") (by cases counted <;> decide)) .nil

theorem lays_over : (w : Over) → Lays w.leaves w.text
  | .none => lays_empty
  | .named name => lays_name name
  | .window base partition order frame distances =>
      .within "(" ")" gap_parens ((laysAll_window base (lays_exprs partition)
        (lays_orderKeys order) frame (lays_exprs distances)).intercalate (by decide))

theorem lays_overAfter : (w : Over) → Lays w.leaves w.after
  | .none => lays_empty
  | .named name => .lead " OVER " (by decide) (lays_name name)
  | .window base partition order frame distances =>
      .within " OVER (" ")" (by decide) ((laysAll_window base (lays_exprs partition)
        (lays_orderKeys order) frame (lays_exprs distances)).intercalate (by decide))

theorem lays_orderKeys : (ks : OrderKeys) → List.Forall₂ Lays ks.leaves ks.texts
  | .nil => .nil
  | .cons e ascending nullsFirst rest =>
      .cons (lays_sortText ascending nullsFirst (lays_expr e)) (lays_orderKeys rest)

theorem lays_query : (q : Query) → Lays q.leaves q.text
  | ⟨recursive, tables, body, order, limit, offset, offsetWord, fetch, locks, form⟩ => by
      have htables : Lays tables.leaves.flatten
          (enclosedIf ("WITH " ++ wordIf recursive "RECURSIVE") " " tables.texts) :=
        lays_enclosedIf (by cases recursive <;> decide) (lays_commonTables tables)
      have hbody := (htables.append (lays_body body)).append
        (.listClause (by decide : Gap " ORDER BY ") (lays_orderKeys order))
      have hword : Gap (" OFFSET " ++ offsetWord.text) := by cases offsetWord <;> decide
      have hoffset := lays_enclosed hword offset
      have hpaged := (hbody.append (lays_after (by decide : Gap " LIMIT ") limit)).append hoffset
      have hquery := ((hpaged.append (lays_fetchClause fetch)).append
        (.join (forall_lays lays_lockClause locks))).append (lays_formClause form)
      -- The word after an offset is written only with one.
      cases offset <;> exact hquery

theorem lays_commonTables : (ts : CommonTables) → List.Forall₂ Lays ts.leaves ts.texts
  | .nil => .nil
  | .cons label materialized query source rest => by
      have hlabel := ((lays_tableAlias label).trail " AS " (by decide)).trail materialized.text
        (by cases materialized <;> decide)
      have hquery := (hlabel.follow "(" (by decide) (lays_query query)).trail ")" gap_close
      have hsource : Lays (match source with | none => [] | some s => [.name s])
          (match source with | none => "" | some s => " FROM " ++ s.text) := by
        cases source with
        | none => exact lays_empty
        | some s => exact .lead " FROM " (by decide) (lays_name s)
      exact .cons (hquery.append hsource) (lays_commonTables rest)

theorem lays_body : (b : Body) → Lays b.leaves b.text
  | .select s => lays_select s
  | .query q => .within "(" ")" gap_parens (lays_query q)
  | .values rowWord rows =>
      .lead "VALUES " (by decide) (.commas (forall_lays_lead (by cases rowWord <;> decide)
        (lays_exprs rows)))
  | .table none name => .lead "TABLE " (by decide) (lays_raw name)
  | .table (some schema) name =>
      (Lays.lead "TABLE " (by decide) (lays_raw schema)).follow "." (by decide) (lays_raw name)
  | .setOp left op quantifier right => by
      have hop : Gap op.text := by cases op <;> decide
      have hquantifier : Gap quantifier.text := by cases quantifier <;> decide
      have hleft := (((lays_body left).trail " " gap_blank).trail _ hop).trail _ hquantifier
      exact hleft.follow " " gap_blank (lays_body right)
  | .insert shape partition rows existing returning =>
      ((((lays_insertShape shape).append
        (lays_enclosedIf (by decide : Gap ("PARTITION (" ++ ") ")) (lays_exprs partition))).append
        (lays_textOr (by decide) rows)).append (lays_onExisting existing)).append
        (.listClause (by decide) (lays_selectItems returning))
  | .insertFiles overwrite onHost directory format rows =>
      (lays_directory overwrite onHost directory format).follow " " gap_blank (lays_query rows)
  | .update rule table joins values sources filter returning => by
      have hrule : Gap (match rule with | none => "" | some r => r.text ++ " ") := by
        cases rule with
        | none => decide
        | some r => cases r <;> decide
      have htable := (Lays.lead _ (gap_append (by decide : Gap "UPDATE ") hrule)
        (lays_table table)).append (lays_joins joins)
      exact (((htable.append (.listClause (by decide) (lays_assignments values))).append
        (.listClause (by decide) (lays_sources sources))).append
        (lays_after (by decide) filter)).append
        (.listClause (by decide) (lays_selectItems returning))

theorem lays_onExisting : (o : OnExisting) → Lays o.leaves o.text
  | .unstated => lays_empty
  | .skip target =>
      .within " ON CONFLICT" " DO NOTHING" (by decide) (lays_conflictTarget target)
  | .update target values filter =>
      (((Lays.within " ON CONFLICT" " DO UPDATE" (by decide) (lays_conflictTarget target)).append
        (.listClause (by decide) (lays_assignments values))).append
        (lays_after (by decide) filter))
  | .updateDuplicates values => .listClause (by decide) (lays_assignments values)

theorem lays_assignments : (as : Assignments) → List.Forall₂ Lays as.leaves as.texts
  | .nil => .nil
  | .cons target value rest =>
      .cons ((lays_assignmentTarget target).follow " = " (by decide) (lays_expr value))
        (lays_assignments rest)

theorem lays_select : (s : Select) → Lays s.leaves s.text
  | ⟨word, distinctOn, top, topCount, targets, into, sources, lateralViews, filter, groupAll,
      groupBy, clusterBy, distributeBy, sortBy, having, windows, qualify, windowsFirst⟩ => by
      have hdistinct := lays_distinct word (lays_exprs distinctOn)
      have htop := lays_top top (lays_after gap_empty topCount)
      have hinto := lays_intoClause into
      have hgroup := lays_groupBy groupAll (lays_exprs groupBy)
      have hlast := lays_lastClauses windowsFirst
        (.listClause (by decide : Gap " WINDOW ") (lays_namedWindows windows))
        (lays_after (by decide : Gap " QUALIFY ") qualify)
      have htargets := ((hdistinct.append htop).follow " " gap_blank
        (.commas (lays_selectItems targets))).append hinto
      have hsources := (htargets.append (.listClause (by decide : Gap " FROM ")
        (lays_sources sources))).append (lays_lateralViews lateralViews)
      have hgrouped := (hsources.append (lays_after (by decide : Gap " WHERE ") filter)).append
        hgroup
      have hsorted := ((hgrouped.append (.listClause (by decide : Gap " CLUSTER BY ")
        (lays_exprs clusterBy))).append (.listClause (by decide : Gap " DISTRIBUTE BY ")
        (lays_exprs distributeBy))).append (.listClause (by decide : Gap " SORT BY ")
        (lays_exprs sortBy))
      exact (hsorted.append (lays_after (by decide : Gap " HAVING ") having)).append hlast

theorem lays_selectItems : (is : SelectItems) → List.Forall₂ Lays is.leaves is.texts
  | .nil => .nil
  | .cons e none rest => .cons (lays_expr e) (lays_selectItems rest)
  | .cons e (some label) rest =>
      .cons ((lays_expr e).follow " AS " (by decide) (lays_name label)) (lays_selectItems rest)

theorem lays_lateralViews : (vs : LateralViews) → Lays vs.leaves vs.text
  | .nil => lays_empty
  | .cons outer expr name columns rest =>
      (((Lays.lead (" LATERAL VIEW" ++ tailIf outer "OUTER" ++ " ") (by cases outer <;> decide)
        (lays_expr expr)).follow " " gap_blank (lays_path name)).append
        (lays_nameClause (by decide) columns)).append (lays_lateralViews rest)

theorem lays_namedWindows : (ws : NamedWindows) → List.Forall₂ Lays ws.leaves ws.texts
  | .nil => .nil
  | .cons name window rest =>
      .cons ((lays_name name).follow " AS " (by decide) (lays_over window))
        (lays_namedWindows rest)

theorem lays_sources : (ss : Sources) → List.Forall₂ Lays ss.leaves ss.texts
  | .nil => .nil
  | .cons table joins rest =>
      .cons ((lays_table table).append (lays_joins joins)) (lays_sources rest)

theorem lays_joins : (joins : Joins) → Lays joins.leaves joins.text
  | .nil => lays_empty
  | .cons shape table matching condition rest => by
      have hmatching := lays_enclosed (by decide : Gap (" MATCH_CONDITION (" ++ ")")) matching
      have htable := (Lays.lead _ (gap_joinShape shape) (lays_table table)).append hmatching
      have hjoins := ((htable.append (lays_after (by decide : Gap " ON ") condition)).append
        (lays_shared shape.shared)).append (lays_joins rest)
      cases matching <;> exact hjoins

theorem lays_table : (t : Table) → Lays t.leaves t.text
  | .named name ordinality label hints => by
      have hhints := lays_enclosedIf (by decide : Gap (" WITH (" ++ ")")) (lays_exprs hints)
      have hname := (lays_path name).tail ordinality "WITH ORDINALITY" (by decide)
      exact (hname.append (lays_label label)).append hhints
  | .called name args ordinality label hints => by
      have hhints := lays_enclosedIf (by decide : Gap (" WITH (" ++ ")")) (lays_exprs hints)
      have hcall := ((lays_path name).follow "(" (by decide) (.commas (lays_exprs args))).trail ")"
        gap_close
      exact ((hcall.tail ordinality "WITH ORDINALITY" (by decide)).append (lays_label label)).append
        hhints
  | .derived lateral query label => by
      have hlead : Gap (wordIf lateral "LATERAL" ++ "(") :=
        gap_append (gap_wordIf lateral (by decide)) (by decide)
      exact ((Lays.lead _ hlead (lays_query query)).trail ")" gap_close).append (lays_label label)
  | .lateralCall name args label =>
      (((Lays.lead "LATERAL " (by decide) (lays_path name)).follow "(" (by decide)
        (.commas (lays_exprs args))).trail ")" gap_close).append (lays_label label)
  | .tableOf expr label =>
      (Lays.within "TABLE(" ")" (by decide) (lays_expr expr)).append (lays_label label)
  | .unnest arrays ordinality label offset offsetLabel => by
      have harrays := (((Lays.within "UNNEST(" ")" (by decide)
        (.commas (lays_exprs arrays))).tail ordinality "WITH ORDINALITY" (by decide)).append
        (lays_label label)).tail offset "WITH OFFSET" (by decide)
      refine harrays.append ?_
      cases offsetLabel with
      | none => exact lays_empty
      | some l => exact .lead " AS " (by decide) (lays_name l)
  | .nested table joins label =>
      (((Lays.lead "(" (by decide) (lays_table table)).append (lays_joins joins)).trail ")"
        gap_close).append (lays_label label)
  | .jsonTable value place columns label =>
      ((((Lays.lead "JSON_TABLE(" (by decide) (lays_expr value)).follow ", " (by decide)
        (lays_literal place)).follow " COLUMNS(" (by decide)
        (.commas (lays_jsonColumns columns))).trail "))" (by decide)).append (lays_label label)
  | .openJson value place columns label => by
      have hvalue := Lays.lead "OPENJSON(" (by decide) (lays_expr value)
      exact (((hvalue.append (lays_place place)).trail ")" gap_close).append
        (lays_openJsonColumns columns)).append (lays_label label)
  | .pivot table aggregates column values otherwise label => by
      have htable := ((lays_table table).follow " PIVOT(" (by decide)
        (.commas (lays_selectItems aggregates))).follow " FOR " (by decide) (lays_path column)
      have hvalues := (htable.follow " IN (" (by decide) (lays_pivotValues values)).trail ")"
        gap_close
      have hotherwise := lays_enclosed (by decide : Gap (" DEFAULT ON NULL (" ++ ")")) otherwise
      have hpivot := ((hvalues.append hotherwise).trail ")" gap_close).append (lays_label label)
      cases otherwise <;> exact hpivot
  | .unpivot table value name columns label => by
      have htable := ((lays_table table).follow " UNPIVOT(" (by decide) (lays_name value)).follow
        " FOR " (by decide) (lays_name name)
      exact ((htable.follow " IN (" (by decide) (lays_names columns)).trail "))" (by decide)).append
        (lays_label label)

theorem lays_pivotValues : (v : PivotValues) → Lays v.leaves v.text
  | .any order => .lead "ANY" (by decide) (.listClause (by decide) (lays_orderKeys order))
  | .query query => lays_query query
  | .list values => .commas (lays_selectItems values)

end

end QueryReport.Sql
