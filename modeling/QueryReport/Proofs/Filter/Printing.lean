import QueryReport.Proofs.Filter.Predicate

/-!
# `QueryReport.Proofs.Filter.Printing`: predicates printed as they were written

A text constant is written with every quote doubled, and printed with the quotes left single that
look escaped already.  `Constant.Faithful`: both agree on the constant.

* `text_constant_iff`, `tokens_constant_iff`: a constant is printed as it is written, and what is
  printed is read as it again, exactly if it is faithful.
* `text_predicate`: a predicate with faithful constants is printed as it is written.
-/

set_option autoImplicit false

namespace QueryReport.Filter

open Sql Sql.Parser

/-- Text is printed as it is written. -/
def Constant.Faithful : Constant → Prop
  | .text value => Text.QuotesApart '\'' value.toList
  | _ => True

/-- Quoting only puts quotes around what is inside. -/
theorem quote_inj {inner inner' : List Char} {q : Char}
    (h : String.ofList (q :: inner ++ [q]) = String.ofList (q :: inner' ++ [q])) :
    inner = inner' := by
  have hlist := String.ofList_inj.mp h
  exact List.append_cancel_right (List.cons.inj hlist).2

/-- A constant is printed as it is written exactly if no quote in it looks escaped. -/
theorem text_constant_iff (c : Constant) : c.tree.text = c.sql ↔ c.Faithful := by
  cases c with
  | null => exact iff_of_true rfl trivial
  | text value =>
      refine ⟨fun h => ?_, fun h => Text.printQuoted_eq_quote h⟩
      exact (Text.printed_eq_doubled_iff (by decide) _).mp (quote_inj h)
  | number negative digits =>
      refine iff_of_true ?_ trivial
      cases negative with
      | false => exact (String.append_empty).trans String.empty_append.symm
      | true =>
          show "-" ++ (digits ++ "") = "-" ++ digits
          rw [String.append_empty]

/-- A printed constant is cut into its own tokens exactly if no quote in it looks escaped. -/
theorem tokens_constant_iff {c : Constant} (hc : c.WellFormed) :
    tokens c.tree.text = .ok c.tokens ↔ c.Faithful := by
  constructor
  · intro h
    cases c with
    | text value =>
        show Text.QuotesApart '\'' value.toList
        refine Decidable.byContradiction fun hquotes => ?_
        rw [tokens_eq_lexed, ← List.append_nil (String.toList _)] at h
        obtain ⟨u, rest, heq, hne⟩ := lexed_printQuoted hquotes (show Stops [] from trivial) h
        cases heq
        exact hne rfl
    | _ => trivial
  · intro h
    rw [(text_constant_iff c).mpr h]
    exact (Constant.cut_constant hc).tokens_eq

/-- A name is printed as it is written. -/
theorem text_name {ws : List String} (hws : ws ≠ []) : (nameExpr ws).text = ".".intercalate ws := by
  have hparts : Path.text (nameParts ws) = ".".intercalate ws := by
    unfold Path.text nameParts
    rw [List.map_map]
    congr 1
    exact List.map_id ws
  cases ws with
  | nil => exact absurd rfl hws
  | cons w ws =>
      cases ws with
      | nil => exact String.intercalate_singleton.symm
      | cons w' ws => exact hparts

namespace ColumnTest

/-- The constants of a test. -/
def constants : ColumnTest → List Constant
  | compare _ c => [c]
  | null _ => []
  | between low high => [low, high]
  | inList first more => first :: more

end ColumnTest

/-- The constants of a predicate, in order. -/
def Predicate.constants : Predicate → List Constant
  | .test t => t.constants
  | .any first more => (first :: more).flatMap ColumnTest.constants
  | .never => []

theorem texts_ofList (es : List Expr) : (Exprs.ofList es).texts = es.map Expr.text := by
  induction es with
  | nil => rfl
  | cons e es ih => exact congrArg (e.text :: ·) ih

/-- A test with faithful constants is printed as it is written. -/
theorem text_test {ws : List String} (hws : ws ≠ []) {t : ColumnTest}
    (h : ∀ c ∈ t.constants, c.Faithful) : (t.tree ws).text = t.sql (".".intercalate ws) := by
  have hname := text_name hws
  have htext : ∀ c ∈ t.constants, c.tree.text = c.sql :=
    fun c hc => (text_constant_iff c).mpr (h c hc)
  -- The printer writes the words around the constants as the test does.
  cases t with
  | compare op c =>
      show (nameExpr ws).text ++ " " ++ op ++ " " ++ c.tree.text = _
      rw [hname, htext c List.mem_cons_self]
      rfl
  | null negated =>
      show (nameExpr ws).text ++ (if negated then " IS NOT NULL" else " IS NULL") = _
      rw [hname]
      cases negated <;> rfl
  | between low high =>
      have hlow := htext low List.mem_cons_self
      have hhigh := htext high (List.mem_cons_of_mem _ List.mem_cons_self)
      show (nameExpr ws).text ++ " " ++ "" ++ "BETWEEN " ++ low.tree.text ++ " AND "
        ++ high.tree.text = _
      rw [hname, hlow, hhigh, String.append_empty, ColumnTest.sql]
      simp only [String.append_assoc]
      rfl
  | inList first more =>
      have hitems : (Exprs.ofList ((first :: more).map Constant.tree)).texts
          = (first :: more).map Constant.sql := by
        rw [texts_ofList, List.map_map]
        exact List.map_congr_left htext
      show (nameExpr ws).text ++ " " ++ "" ++ "IN (" ++ commas (Exprs.ofList _).texts ++ ")" = _
      rw [hname, hitems, String.append_empty, ColumnTest.sql]
      simp only [String.append_assoc]
      rfl

/-- Tests in a chain of `OR`s are printed one after the other. -/
theorem text_anyChain {ws : List String} (hws : ws ≠ []) (ts : List ColumnTest)
    (h : ∀ t ∈ ts, ∀ c ∈ t.constants, c.Faithful) (e : Expr) :
    (ts.foldl (fun e t => .binary e .or (t.tree ws)) e).text
      = " OR ".intercalate (e.text :: ts.map (ColumnTest.sql (".".intercalate ws))) := by
  induction ts generalizing e with
  | nil => exact String.intercalate_singleton.symm
  | cons t ts ih =>
      rw [List.forall_mem_cons] at h
      have hstep : (Expr.binary e .or (t.tree ws)).text
          = e.text ++ " OR " ++ t.sql (".".intercalate ws) := by
        rw [← text_test hws h.1]
        show e.text ++ " " ++ "OR" ++ " " ++ _ = _
        simp only [String.append_assoc]
        rfl
      rw [List.foldl_cons, ih h.2, hstep, List.map_cons]
      -- The induction has made one text of the first two tests.
      cases ts with
      | nil =>
          rw [List.map_nil, String.intercalate_singleton, String.intercalate_cons_cons,
            String.intercalate_singleton]
      | cons t' ts =>
          rw [List.map_cons, String.intercalate_cons_cons, String.intercalate_cons_cons,
            String.intercalate_cons_cons]
          simp only [String.append_assoc]

/-- A predicate with faithful constants is printed as it is written. -/
theorem text_predicate {ws : List String} (hws : ws ≠ []) {p : Predicate}
    (h : ∀ c ∈ p.constants, c.Faithful) : (p.tree ws).text = p.sql (".".intercalate ws) := by
  cases p with
  | test t => exact text_test hws h
  | never =>
      show (Predicate.tree [] .never).text = Predicate.sql "" .never
      decide +kernel
  | any first more =>
      have hall : ∀ t ∈ first :: more, ∀ c ∈ t.constants, c.Faithful :=
        fun t ht c hc => h c (List.mem_flatMap.mpr ⟨t, ht, hc⟩)
      rw [List.forall_mem_cons] at hall
      have hchain := text_anyChain hws more hall.2 (first.tree ws)
      rw [text_test hws hall.1] at hchain
      show "(" ++ Expr.text _ ++ ")" = "(" ++ _ ++ ")"
      rw [hchain]
      rfl

end QueryReport.Filter
