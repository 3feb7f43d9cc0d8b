import QueryReport.Proofs.Sql.Lexing.Numeral
import QueryReport.Proofs.Sql.Reading.Around
import QueryReport.Proofs.Sql.Reading.Expression
import QueryReport.Sql.Edit

/-!
# `QueryReport.Proofs.Sql.Reading.Fragment`: lifting a filter out of a text

`liftFilter` puts a text behind `SELECT 1 WHERE` and takes the filter of the query that is read.
`liftFilter_of_cut`: if the tokens of the text are read as an expression, that is the filter.
-/

set_option autoImplicit false

namespace QueryReport.Sql

open QueryReport.Sql.Parser

/-- The `SELECT` that a filter is lifted out of, up to the filter. -/
def fragmentSelect : Select where
  distinct := .unstated
  distinctOn := .nil
  top := .unstated
  topCount := .none
  targets := .ofList [⟨.literal (.number "1" false), none⟩]
  into := none
  sources := .nil
  lateralViews := .nil
  filter := .none
  groupAll := false
  groupBy := .nil
  clusterBy := .nil
  distributeBy := .nil
  sortBy := .nil
  having := .none
  windows := .nil
  qualify := .none
  windowsFirst := false

/-- The query that a filter is lifted out of. -/
def fragmentQuery (e : Expr) : Query :=
  Grammar.bareQuery false .nil (.select { fragmentSelect with filter := .some e })

/-- The tokens before the text. -/
def fragmentTokens (ts : List Token) : List Token :=
  keywordToken "SELECT" :: .literal (.number "1" false) :: keywordToken "WHERE" :: ts

namespace Parser.Grammar

variable {g : Grammar} {ts : List Token}

/-- The words that may stand between `SELECT` and its targets. -/
def modifierWords : List String := ["ALL", "DISTINCT", "TOP"]

theorem distinctClause_none (hword : keyOf ts.head? ∉ modifierWords) :
    distinctClause g ts = .ok ((.unstated, .nil), ts) := by
  unfold distinctClause
  rw [bind_ok (keyword_ne fun heq => hword (heq ▸ .head _)),
    bind_ok (keyword_ne fun heq => hword (heq ▸ .tail _ (.head _)))]
  rfl

theorem topClause_none (hword : keyOf ts.head? ∉ modifierWords) :
    topClause g ts = .ok ((.unstated, .none), ts) := by
  unfold topClause
  rw [bind_ok (keyword_ne fun heq => hword (heq ▸ .tail _ (.tail _ (.head _))))]
  rfl

/-- A `SELECT` with a single target up to its filter. -/
theorem selectStart_item {item : SelectItem} {rest : List Token}
    (hword : keyOf ts.head? ∉ modifierWords) (hitem : g.selectItem ts = .ok (item, rest))
    (hcomma : rest.head? ≠ some (.symbol ","))
    (hrest : keyOf rest.head? ∉ ["INTO", "FROM", "LATERAL"]) :
    g.selectStart (keywordToken "SELECT" :: ts)
      = .ok ({ fragmentSelect with targets := .ofList [item] }, rest) := by
  -- None of the clauses that may follow the target finds its word.
  have hinto : intoClause rest = .ok (none, rest) := by
    unfold intoClause
    rw [bind_ok (keyword_ne fun heq => hrest (heq ▸ .head _))]
    rfl
  have hfrom : listAfter ["FROM"] g.source rest = .ok ([], rest) := by
    unfold listAfter
    rw [bind_ok (keywords_ne fun heq => hrest (heq ▸ .tail _ (.head _)))]
    rfl
  have hviews : ∀ n, g.lateralViews (n + 1) rest = .ok ([], rest) := by
    intro n
    unfold lateralViews
    rw [bind_ok (keywords_ne fun heq => hrest (heq ▸ .tail _ (.tail _ (.head _))))]
    rfl
  unfold selectStart
  rw [keywordToken, bind_ok (expect_self _ _ _), bind_ok (distinctClause_none hword)]
  refine (bind_ok (topClause_none hword) _).trans ?_
  refine (bind_ok (separated_one hitem hcomma) _).trans ?_
  refine (bind_ok hinto _).trans ?_
  refine (bind_ok hfrom _).trans ?_
  rw [rest_bind]
  exact bind_ok (hviews _) _

/-- The target of the `SELECT` that a piece is lifted out of. -/
theorem selectItem_fragment {key : String} (hkey : key ∈ notColumnLabels)
    (h : g.expression (.literal (.number "1" false) :: keywordToken key :: ts)
      = .ok (.literal (.number "1" false), keywordToken key :: ts)) :
    g.selectItem (.literal (.number "1" false) :: keywordToken key :: ts)
      = .ok (⟨.literal (.number "1" false), none⟩, keywordToken key :: ts) := by
  have hstar : star (.literal (.number "1" false) :: keywordToken key :: ts)
      = .ok (none, .literal (.number "1" false) :: keywordToken key :: ts) := rfl
  -- The word behind the target begins a clause, and so is no label of it.
  have hlabel : label notColumnLabels (keywordToken key :: ts)
      = .ok (none, keywordToken key :: ts) := by
    have hne : key ≠ "AS" := by
      rintro rfl
      exact absurd hkey (by decide)
    have hkeyword : keyword "AS" (keywordToken key :: ts) = .ok (false, keywordToken key :: ts) :=
      keyword_ne hne
    unfold label
    rw [bind_ok hkeyword, rest_bind]
    show (if (false || !notColumnLabels.contains key) = true then _ else _ : Parser _) _ = _
    rw [List.contains_iff_mem.mpr hkey]
    rfl
  unfold selectItem
  rw [bind_ok hstar]
  refine (bind_ok h _).trans ?_
  exact bind_ok hlabel _

/-- The `SELECT` that a piece is lifted out of, in front of the clause that holds the piece. -/
theorem selectStart_fragment {key : String} (hkey : key ∈ ["WHERE", "ORDER"])
    (hone : g.expression (.literal (.number "1" false) :: keywordToken key :: ts)
      = .ok (.literal (.number "1" false), keywordToken key :: ts)) :
    g.selectStart (keywordToken "SELECT" :: .literal (.number "1" false) :: keywordToken key :: ts)
      = .ok (fragmentSelect, keywordToken key :: ts) := by
  have hlabels : ∀ key ∈ ["WHERE", "ORDER"],
      key ∈ notColumnLabels ∧ key ∉ ["INTO", "FROM", "LATERAL"] := by decide
  obtain ⟨hlabel, hclause⟩ := hlabels key hkey
  have hword : keyOf (some (.literal (.number "1" false))) ∉ modifierWords := by decide
  exact selectStart_item hword (selectItem_fragment hlabel hone) nofun hclause

theorem opening_fragment
    (hone : g.expression (.literal (.number "1" false) :: keywordToken "WHERE" :: ts)
      = .ok (.literal (.number "1" false), keywordToken "WHERE" :: ts)) :
    g.opening (fragmentTokens ts)
      = .ok (⟨false, .nil, fragmentSelect⟩, keywordToken "WHERE" :: ts) := by
  have hwith : g.withClause (fragmentTokens ts) = .ok ((false, .nil), fragmentTokens ts) := rfl
  unfold opening
  refine (bind_ok hwith _).trans ?_
  exact bind_ok (selectStart_fragment (.head _) hone) _

end Parser.Grammar

/-- The filter that a text stands for is the expression that its tokens are read as. -/
theorem liftFilter_of_cut {text : String} {ts : List Token} {e : Expr} (hcut : Cut text ts)
    (h : (grammar 48).expression ts = .ok (e, [])) : liftFilter text = .ok (some e) := by
  have hselect := closed_keyword "SELECT" (by decide +kernel)
  have hwhere := closed_keyword "WHERE" (by decide +kernel)
  have hnumber : Closed "1 " [.literal (.number "1" false)] :=
    (cut_numeral (s := "1") (Decimal.isNumeral_repr 1)).closed_blank
  have htokens : tokens ("SELECT 1 WHERE " ++ text) = .ok (fragmentTokens ts) := by
    have hcut := ((hselect.append hnumber).append hwhere).cut_append hcut
    exact hcut.tokens_eq
  have hone : (grammar 48).expression (.literal (.number "1" false) :: keywordToken "WHERE" :: ts)
      = .ok (.literal (.number "1" false), keywordToken "WHERE" :: ts) :=
    (Grammar.Reads.of_operand (g := grammar 47) (Grammar.operand_literal _ _
      (by simp [keyOf, keywordToken]))).operation (Nat.le_of_ble_eq_true rfl)
  have hparse : parse ("SELECT 1 WHERE " ++ text) = .ok [.query (fragmentQuery e)] :=
    parse_around htokens (Grammar.opening_fragment hone) h rfl
  unfold liftFilter parseQuery
  rw [hparse]
  rfl

end QueryReport.Sql
