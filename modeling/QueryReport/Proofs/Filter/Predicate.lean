import QueryReport.Filter.Parameter
import QueryReport.Proofs.Filter.Constant

/-!
# `QueryReport.Proofs.Filter.Predicate`: the predicate of a parameter as a tree

`Parameter.sql` is text.  `Parameter.predicate` is what the text stands for: one test of the column,
several tests of which one has to hold, or what never holds.  The three views of a predicate are its
text (`sql`), its tokens and its tree.

* `sql_eq_predicate`: the text of a parameter whose condition is checked is that of its predicate.
* `cut_predicate`: the text is cut into the tokens.
* `reads_predicate`: the tokens are read as the tree, and the reader stops behind them.
-/

set_option autoImplicit false

namespace QueryReport.Filter

open Sql Sql.Parser

/-! ## Tests -/

/-- A single test of a column. -/
inductive ColumnTest where
  | compare (op : String) (constant : Constant)
  | null (negated : Bool)
  | between (low high : Constant)
  | inList (first : Constant) (more : List Constant)

namespace ColumnTest

/-- The test of a column as SQL. -/
def sql (column : String) : ColumnTest → String
  | compare op c => column ++ " " ++ op ++ " " ++ c.sql
  | null false => column ++ " IS NULL"
  | null true => column ++ " IS NOT NULL"
  | between low high => column ++ " BETWEEN " ++ low.sql ++ " AND " ++ high.sql
  | inList first more =>
    column ++ " IN (" ++ ", ".intercalate ((first :: more).map Constant.sql) ++ ")"

/-- Constants with commas between them. -/
def listTokens : List Constant → List Token
  | [] => []
  | [c] => c.tokens
  | c :: cs => c.tokens ++ .symbol "," :: listTokens cs

def tokens (ws : List String) : ColumnTest → List Token
  | compare op c => nameTokens ws ++ .symbol op :: c.tokens
  | null negated =>
    nameTokens ws ++ keywordToken "IS" ::
      ((if negated then [keywordToken "NOT"] else []) ++ [keywordToken "NULL"])
  | between low high =>
    nameTokens ws ++ keywordToken "BETWEEN" :: (low.tokens ++ keywordToken "AND" :: high.tokens)
  | inList first more =>
    nameTokens ws ++ keywordToken "IN" :: .symbol "(" :: (listTokens (first :: more) ++
      [.symbol ")"])

def tree (ws : List String) : ColumnTest → Expr
  | compare op c => .binary (nameExpr ws) (.symbol op) c.tree
  | null negated => .nullTest (nameExpr ws) negated
  | between low high => .between (nameExpr ws) false low.tree high.tree
  | inList first more => .inList (nameExpr ws) false (.ofList ((first :: more).map Constant.tree))

/-- The operator is one that compares, and all numbers have digits. -/
def WellFormed : ColumnTest → Prop
  | compare op c => op ∈ ["=", "<>", "<", ">", "<=", ">=", "~~"] ∧ c.WellFormed
  | null _ => True
  | between low high => low.WellFormed ∧ high.WellFormed
  | inList first more => ∀ c ∈ first :: more, c.WellFormed

end ColumnTest

/-! ## Cutting -/

theorem closed_comparison (op : String) (h : op ∈ ["=", "<>", "<", ">", "<=", ">=", "~~"]) :
    Closed (op ++ " ") [.symbol op] := by
  intro more
  rw [String.toList_append, List.append_assoc]
  exact cut_comparison h more

theorem cut_list {cs : List Constant} (hcs : cs ≠ []) (h : ∀ c ∈ cs, c.WellFormed) :
    Cut (", ".intercalate (cs.map Constant.sql)) (ColumnTest.listTokens cs) := by
  induction cs with
  | nil => exact absurd rfl hcs
  | cons c cs ih =>
      rw [List.forall_mem_cons] at h
      cases cs with
      | nil => simpa [ColumnTest.listTokens] using Constant.cut_constant h.1
      | cons c' cs =>
          have hcomma : Closed ", " [.symbol ","] :=
            (closed_mark (c := ',') (by decide)).cut.closed_blank
          rw [List.map_cons, List.map_cons, String.intercalate_cons_cons, ← List.map_cons]
          have hcut := ((Constant.cut_constant h.1).closed_append hcomma
            fun _ => .inr (.inl rfl)).cut_append (ih nofun h.2)
          rwa [List.append_assoc] at hcut

theorem cut_test {ws : List String} (hws : IsName ws) {t : ColumnTest} (ht : t.WellFormed) :
    Cut (t.sql (".".intercalate ws)) (t.tokens ws) := by
  have hname : Closed (".".intercalate ws ++ " ") (nameTokens ws) :=
    (cut_name hws.nonempty hws.words).closed_blank
  have his : Closed "IS " [keywordToken "IS"] :=
    closed_keyword "IS" (by decide +kernel)
  have hnot : Closed "NOT " [keywordToken "NOT"] :=
    closed_keyword "NOT" (by decide +kernel)
  have hnull : Cut "NULL" [keywordToken "NULL"] := cut_keyword "NULL" (by decide +kernel)
  -- The words between the constants end with a blank, and so does what stands before them.
  cases t with
  | compare op c =>
      have hcut := (hname.append (closed_comparison op ht.1)).cut_append
        (Constant.cut_constant ht.2)
      simpa [ColumnTest.sql, ColumnTest.tokens, String.append_assoc] using hcut
  | null negated =>
      cases negated with
      | false =>
          have hcut := (hname.append his).cut_append hnull
          rw [List.append_assoc] at hcut
          rw [ColumnTest.sql, show " IS NULL" = " " ++ ("IS " ++ "NULL") from rfl]
          simpa [ColumnTest.tokens, String.append_assoc] using hcut
      | true =>
          have hcut := ((hname.append his).append hnot).cut_append hnull
          rw [ColumnTest.sql, show " IS NOT NULL" = " " ++ ("IS " ++ ("NOT " ++ "NULL")) from rfl]
          simpa [ColumnTest.tokens, String.append_assoc] using hcut
  | between low high =>
      have hbetween : Closed "BETWEEN " [keywordToken "BETWEEN"] :=
        closed_keyword "BETWEEN" (by decide +kernel)
      have hand : Closed "AND " [keywordToken "AND"] :=
        closed_keyword "AND" (by decide +kernel)
      have hlow := (Constant.cut_constant ht.1).closed_blank
      have hcut := (((hname.append hbetween).append hlow).append hand).cut_append
        (Constant.cut_constant ht.2)
      rw [ColumnTest.sql, show " BETWEEN " = " " ++ "BETWEEN " from rfl,
        show " AND " = " " ++ "AND " from rfl]
      simpa [ColumnTest.tokens, String.append_assoc] using hcut
  | inList first more =>
      have hin : Closed "IN " [keywordToken "IN"] :=
        closed_keyword "IN" (by decide +kernel)
      have hopen : Closed "(" [.symbol "("] := closed_mark (c := '(') (by decide)
      have hclose : Closed ")" [.symbol ")"] := closed_mark (c := ')') (by decide)
      have hlist := (cut_list (List.cons_ne_nil first more) ht).closed_append hclose
        fun _ => .inr (.inr rfl)
      have hcut := ((hname.append hin).append hopen).append hlist
      rw [ColumnTest.sql, show " IN (" = " " ++ ("IN " ++ "(") from rfl]
      refine Closed.cut ?_
      simpa [ColumnTest.tokens, String.append_assoc] using hcut

/-! ## Reading -/

theorem listTokens_eq (cs : List Constant) :
    ColumnTest.listTokens cs = commaTokens Constant.tokens cs := by
  fun_induction ColumnTest.listTokens cs with
  | case1 => rfl
  | case2 c => rfl
  | case3 c cs hcs ih =>
      cases cs with
      | nil => exact absurd rfl hcs
      | cons c' cs => rw [ih, commaTokens]

theorem keyOf_constant (c : Constant) (rest : List Token) :
    keyOf (c.tokens ++ rest).head? ∈ ["NULL", ""] := by
  cases c with
  | null => exact .head _
  | text value => exact .tail _ (.head _)
  | number negative digits => cases negative <;> exact .tail _ (.head _)

theorem keyOf_constant_not_mem (c : Constant) (rest : List Token) {keys : List String}
    (h : "NULL" ∉ keys ∧ "" ∉ keys) : keyOf (c.tokens ++ rest).head? ∉ keys := by
  have hkey := keyOf_constant c rest
  simp only [List.mem_cons, List.not_mem_nil, or_false] at hkey
  obtain hkey | hkey := hkey
  · exact hkey ▸ h.1
  · exact hkey ▸ h.2

/-- A list in parentheses. -/
theorem separated_list (first : Constant) (more : List Constant) (depth : Nat)
    (rest : List Token) :
    separated (grammar (depth + 2)).expression
        (ColumnTest.listTokens (first :: more) ++ .symbol ")" :: rest)
      = .ok ((first :: more).map Constant.tree, .symbol ")" :: rest) := by
  rw [listTokens_eq]
  refine separated_entries (by decide) (List.cons_ne_nil first more) (fun c _ m hm ts => ?_) rest
  -- Nothing that stands after a constant in a list goes on with it.
  have hm : m = "," ∨ m = ")" := by simpa using hm
  have hends := Grammar.EndsTest.mark hm ts
  refine Constant.operation_constant c depth hends.name ?_
  obtain rfl | rfl := hm <;> exact Nat.le_of_ble_eq_true rfl

/-- A list of constants is no query. -/
theorem keyOf_list (first : Constant) (more : List Constant) (rest : List Token) :
    keyOf (ColumnTest.listTokens (first :: more) ++ .symbol ")" :: rest).head?
      ∉ ["SELECT", "WITH"] := by
  obtain ⟨_, _, tail, htail⟩ := commaTokens_cons Constant.tokens first more rest ")"
  rw [listTokens_eq, htail]
  exact keyOf_constant_not_mem first _ (by decide)

theorem binaryOp?_comparison {op : String} (h : op ∈ ["=", "<>", "<", ">", "<=", ">=", "~~"])
    (ts : List Token) :
    Grammar.strengthOf (.symbol op :: ts) = Grammar.compareStrength
      ∧ Grammar.binaryOp? (.symbol op) = pure (some (.symbol op))
      ∧ EndsName (.symbol op :: ts) := by
  simp only [List.mem_cons, List.not_mem_nil, or_false] at h
  obtain rfl | rfl | rfl | rfl | rfl | rfl | rfl := h
  all_goals
    refine ⟨rfl, rfl, ?_, by simp⟩
    simp [EndsWord]

theorem EndsName.keyword (key : String) (h : key ∈ ["IS", "IN", "BETWEEN"]) (ts : List Token) :
    EndsName (keywordToken key :: ts) := by
  refine ⟨?_, by simp [keywordToken]⟩
  show key ∈ endWords
  simp only [List.mem_cons, List.not_mem_nil, or_false] at h
  obtain rfl | rfl | rfl := h <;> decide

/-- A test is read as its tree in front of what ends it. -/
theorem reads_test {ws : List String} (hws : IsName ws) {t : ColumnTest} (ht : t.WellFormed)
    (depth : Nat) {strength : Nat} (hstrength : strength ≤ Grammar.andStrength) {rest : List Token}
    (hrest : Grammar.EndsTest rest) :
    Grammar.Reads (grammar (depth + 2)) strength (t.tokens ws ++ rest) (t.tree ws) rest := by
  have hconstant : ∀ (c : Constant) (s : Nat), Grammar.andStrength ≤ s →
      (grammar (depth + 2)).operation s (c.tokens ++ rest) = .ok (c.tree, rest) :=
    fun c s hs => c.operation_constant depth hrest.name (Nat.le_trans hrest.strength hs)
  have hbinds : ∀ {s : Nat}, Grammar.andStrength < s → strength < s :=
    fun h => Nat.lt_of_le_of_lt hstrength h
  cases t with
  | compare op c =>
      obtain ⟨hcompare, hop, hends⟩ := binaryOp?_comparison ht.1 (c.tokens ++ rest)
      have hname := (grammar (depth + 2)).operand_name hws hends
      rw [ColumnTest.tokens, List.append_assoc, List.cons_append]
      -- One round: the operator binds, its right side is the constant, and tokens are taken.
      refine (Grammar.Reads.of_operand hname).extend (.single ?_ ?_ ?_)
      · rw [hcompare]
        exact hbinds (by decide)
      · rw [hcompare]
        exact Grammar.extend_binary hop (keyOf_constant_not_mem c rest (by decide))
          (hconstant c _ (by decide))
      · rw [List.length_cons, List.length_append]
        omega
  | null negated =>
      have hname := (grammar (depth + 2)).operand_name hws (EndsName.keyword "IS" (by decide)
        ((if negated then [keywordToken "NOT"] else []) ++ keywordToken "NULL" :: rest))
      rw [ColumnTest.tokens, List.append_assoc, List.cons_append, List.append_assoc]
      refine (Grammar.Reads.of_operand hname).extend
        (.single ?_ (Grammar.extend_nullTest negated) ?_)
      · exact hbinds (by decide : Grammar.andStrength < Grammar.isStrength)
      · rw [List.length_cons, List.length_append, List.length_cons]
        omega
  | between low high =>
      have hname := (grammar (depth + 2)).operand_name hws (EndsName.keyword "BETWEEN"
        (by decide) (low.tokens ++ keywordToken "AND" :: (high.tokens ++ rest)))
      have hand := Grammar.EndsTest.keyword (.inl rfl : "AND" = "AND" ∨ _) (high.tokens ++ rest)
      have hlow : (grammar (depth + 2)).operation Grammar.rangeStrength
          (low.tokens ++ keywordToken "AND" :: (high.tokens ++ rest))
            = .ok (low.tree, keywordToken "AND" :: (high.tokens ++ rest)) :=
        low.operation_constant depth hand.name (Nat.le_trans hand.strength (by decide))
      rw [ColumnTest.tokens, List.append_assoc, List.cons_append, List.append_assoc,
        List.cons_append]
      refine (Grammar.Reads.of_operand hname).extend (.single ?_
        (Grammar.extend_between hlow (hconstant high _ (by decide))) ?_)
      · exact hbinds (by decide : Grammar.andStrength < Grammar.rangeStrength)
      · rw [List.length_cons, List.length_append, List.length_cons, List.length_append]
        omega
  | inList first more =>
      have hname := (grammar (depth + 2)).operand_name hws (EndsName.keyword "IN"
        (by decide) (.symbol "(" :: (ColumnTest.listTokens (first :: more) ++ .symbol ")" :: rest)))
      have hitems := separated_list first more depth rest
      have hquery := keyOf_list first more rest
      rw [ColumnTest.tokens, List.append_assoc, List.cons_append, List.cons_append,
        List.append_assoc]
      refine (Grammar.Reads.of_operand hname).extend (.single ?_
        (Grammar.extend_inList hquery hitems) ?_)
      · exact hbinds (by decide : Grammar.andStrength < Grammar.rangeStrength)
      · rw [List.length_cons, List.length_cons, List.length_append, List.length_cons]
        omega

/-! ## Predicates -/

/-- What a parameter asks of a row: that a test holds, that one of several tests holds, or what no
row passes. -/
inductive Predicate where
  | test (test : ColumnTest)
  | any (first : ColumnTest) (more : List ColumnTest)
  | never

namespace Predicate

/-- The predicate on a column as SQL. -/
def sql (column : String) : Predicate → String
  | test t => t.sql column
  | any first more => "(" ++ " OR ".intercalate ((first :: more).map (ColumnTest.sql column)) ++ ")"
  | never => "(1 = 2)"

/-- Tests with `OR` between them. -/
def orTokens (ws : List String) : List ColumnTest → List Token
  | [] => []
  | t :: ts => t.tokens ws ++ ts.flatMap fun t => keywordToken "OR" :: t.tokens ws

def tokens (ws : List String) : Predicate → List Token
  | test t => t.tokens ws
  | any first more => .symbol "(" :: (orTokens ws (first :: more) ++ [.symbol ")"])
  | never =>
    [.symbol "(", .literal (.number "1" false), .symbol "=", .literal (.number "2" false),
      .symbol ")"]

def tree (ws : List String) : Predicate → Expr
  | test t => t.tree ws
  | any first more =>
    .nested (more.foldl (fun e t => .binary e .or (t.tree ws)) (first.tree ws))
  | never =>
    .nested (.binary (.literal (.number "1" false)) (.symbol "=") (.literal (.number "2" false)))

/-- All tests are well formed. -/
def WellFormed : Predicate → Prop
  | test t => t.WellFormed
  | any first more => ∀ t ∈ first :: more, t.WellFormed
  | never => True

end Predicate

/-- Texts with the same word between them are cut one after the other. -/
theorem cut_chain {α : Type} {sql : α → String} {tokens : α → List Token} (key link : String)
    (hkey : Closed (key ++ " ") [keywordToken key]) (hlink : link = " " ++ (key ++ " "))
    (first : α) (more : List α) (h : ∀ a ∈ first :: more, Cut (sql a) (tokens a)) :
    Cut (link.intercalate ((first :: more).map sql))
      (tokens first ++ more.flatMap fun a => keywordToken key :: tokens a) := by
  induction more generalizing first with
  | nil => simpa using h first List.mem_cons_self
  | cons a more ih =>
      rw [List.forall_mem_cons] at h
      have hcut := (h.1.closed_blank.append hkey).cut_append (ih a h.2)
      rw [List.map_cons, List.map_cons, String.intercalate_cons_cons, ← List.map_cons, hlink]
      simpa [String.append_assoc, hlink] using hcut

/-- The text of a predicate is cut into its tokens. -/
theorem cut_predicate {ws : List String} (hws : IsName ws) {p : Predicate} (hp : p.WellFormed) :
    Cut (p.sql (".".intercalate ws)) (p.tokens ws) := by
  have hopen : Closed "(" [.symbol "("] := closed_mark (c := '(') (by decide)
  have hclose : Closed ")" [.symbol ")"] := closed_mark (c := ')') (by decide)
  cases p with
  | test t => exact cut_test hws hp
  | any first more =>
      have hor : Closed "OR " [keywordToken "OR"] :=
        closed_keyword "OR" (by decide +kernel)
      have htests := cut_chain "OR" " OR " hor rfl first more fun t ht => cut_test hws (hp t ht)
      have hcut := (hopen.cut_append htests).closed_append hclose fun _ => .inr (.inr rfl)
      refine Closed.cut ?_
      simpa [Predicate.sql, Predicate.tokens, Predicate.orTokens] using hcut
  | never =>
      have hone : Closed "1 " [.literal (.number "1" false)] :=
        (cut_numeral (s := "1") (Decimal.isNumeral_repr 1)).closed_blank
      have htwo := (cut_numeral (s := "2") (Decimal.isNumeral_repr 2)).closed_append hclose
        fun _ => .inr (.inr rfl)
      exact (((hopen.append hone).append (closed_comparison "=" (by decide))).append
        htwo).cut

/-- A test begins with no word that is reserved. -/
theorem keyOf_test {ws : List String} (hws : IsName ws) (t : ColumnTest) (rest : List Token)
    {keys : List String} (hkeys : keys ⊆ Grammar.reserved) :
    keyOf (t.tokens ws ++ rest).head? ∉ keys := by
  cases ws with
  | nil => exact absurd rfl hws.nonempty
  | cons w ws =>
      have hfree : Text.upperKey w ∉ keys := fun hmem => hws.free w rfl (hkeys hmem)
      cases ws <;> cases t <;> exact hfree

/-- Tests after an `OR` are read one after the other up to the closing parenthesis. -/
theorem extends_orTokens {ws : List String} (hws : IsName ws) (ts : List ColumnTest)
    (h : ∀ t ∈ ts, t.WellFormed) (depth : Nat) (left : Expr) (rest : List Token) :
    Grammar.Extends (grammar (depth + 3)) 0 left
      (ts.flatMap (fun t => keywordToken "OR" :: t.tokens ws) ++ .symbol ")" :: rest)
      (ts.foldl (fun e t => .binary e .or (t.tree ws)) left) (.symbol ")" :: rest) := by
  refine Grammar.extends_chain .or (by decide) (fun t _ more => keyOf_test hws t more (by decide))
    (Nat.le_of_ble_eq_true rfl) (fun t ht more hmore => ?_) left
  · refine reads_test hws (h t ht) depth (by decide) ?_
    obtain rfl | ⟨us, rfl⟩ := hmore
    · exact .mark (.inr rfl) rest
    · exact .keyword (.inr rfl) us

/-- What no row passes is read as a comparison of numbers in parentheses. -/
theorem reads_never (depth strength : Nat) {rest : List Token} (hrest : EndsName rest) :
    Grammar.Reads (grammar (depth + 4)) strength (Predicate.never.tokens [] ++ rest)
      (Predicate.never.tree []) rest := by
  let two : List Token := .literal (.number "2" false) :: .symbol ")" :: rest
  -- In parentheses both sides of the comparison are numbers.
  have hends := Grammar.EndsTest.mark (.inr rfl : ")" = "," ∨ ")" = ")") rest
  have htwo : (grammar (depth + 3)).operation Grammar.compareStrength two
      = .ok (.literal (.number "2" false), .symbol ")" :: rest) :=
    (Constant.number false "2").operation_constant (depth + 1) hends.name
      (Nat.le_of_ble_eq_true rfl)
  have hone : Grammar.operand (grammar (depth + 3)) (.literal (.number "1" false) ::
      .symbol "=" :: two) = .ok (.literal (.number "1" false), .symbol "=" :: two) :=
    Grammar.operand_literal _ _ (by simp [keyOf])
  have hround : Grammar.extend (grammar (depth + 3)) (.literal (.number "1" false))
      Grammar.compareStrength (.symbol "=" :: two)
        = .ok (.binary (.literal (.number "1" false)) (.symbol "=")
          (.literal (.number "2" false)), .symbol ")" :: rest) :=
    Grammar.extend_binary rfl (by simp [keyOf, two]) htwo
  have hpassed : Grammar.Reads (grammar (depth + 3)) 0 (.literal (.number "1" false) ::
      .symbol "=" :: two) (.binary (.literal (.number "1" false)) (.symbol "=")
        (.literal (.number "2" false))) (.symbol ")" :: rest) :=
    (Grammar.Reads.of_operand hone).extend
      (.single (Nat.le_of_ble_eq_true rfl) hround (by simp [two]))
  have hinner := hpassed.operation (Nat.le_of_ble_eq_true rfl)
  exact .of_operand (Grammar.operand_nested (grammar (depth + 4)) (by simp [keyOf]) hinner
    hrest)

/-- A predicate is read as its tree in front of what ends it. -/
theorem reads_predicate {ws : List String} (hws : IsName ws) {p : Predicate} (hp : p.WellFormed)
    (depth : Nat) {strength : Nat} (hstrength : strength ≤ Grammar.andStrength) {rest : List Token}
    (hrest : Grammar.EndsTest rest) :
    Grammar.Reads (grammar (depth + 4)) strength (p.tokens ws ++ rest) (p.tree ws) rest := by
  cases p with
  | test t => exact reads_test hws hp (depth + 2) hstrength hrest
  | any first more =>
      have hall := List.forall_mem_cons.mp hp
      have hchain := extends_orTokens hws more hall.2 depth (first.tree ws) rest
      -- A test is followed by the next `OR` or by the closing parenthesis.
      have hfirst : Grammar.Reads (grammar (depth + 3)) 0 (first.tokens ws ++
          (more.flatMap (fun t => keywordToken "OR" :: t.tokens ws) ++ .symbol ")" :: rest))
          (first.tree ws)
          (more.flatMap (fun t => keywordToken "OR" :: t.tokens ws) ++ .symbol ")" :: rest) := by
        refine reads_test hws hall.1 (depth + 1) (by decide) ?_
        cases more with
        | nil => exact .mark (.inr rfl) rest
        | cons t more => exact .keyword (.inr rfl) _
      have hinner := (hfirst.extend hchain).operation (Nat.le_of_ble_eq_true rfl)
      have hquery : keyOf (first.tokens ws ++ (more.flatMap (fun t => keywordToken "OR" ::
          t.tokens ws) ++ .symbol ")" :: rest)).head? ∉ ["SELECT", "WITH"] :=
        keyOf_test hws first _ (by decide)
      have hgroup := Grammar.operand_nested (grammar (depth + 4)) hquery hinner hrest.name
      rw [Predicate.tokens, Predicate.orTokens, List.cons_append, List.append_assoc,
        List.append_assoc]
      exact .of_operand hgroup
  | never =>
      exact reads_never depth strength hrest.name

/-- A predicate begins with no word that is reserved. -/
theorem keyOf_predicate {ws : List String} (hws : IsName ws) (p : Predicate) (rest : List Token)
    {keys : List String} (hkeys : keys ⊆ Grammar.reserved) :
    keyOf (p.tokens ws ++ rest).head? ∉ keys := by
  have hnone : "" ∉ keys := fun hmem => absurd (hkeys hmem) (by decide)
  cases p with
  | test t => exact keyOf_test hws t rest hkeys
  | any first more => exact hnone
  | never => exact hnone

/-! ## Parameters -/

/-- What a comparison asks: that the first constant compares, or any of them. -/
def Predicate.comparison (op : String) (orRange : Bool) : List Constant → Predicate
  | [] => .never
  | c :: cs =>
    if orRange then .any (.compare op c) (cs.map (.compare op)) else .test (.compare op c)

theorem wellFormed_comparison {op : String} (hop : op ∈ ["=", "<>", "<", ">", "<=", ">=", "~~"])
    (orRange : Bool) {cs : List Constant} (hcs : ∀ c ∈ cs, c.WellFormed) :
    (Predicate.comparison op orRange cs).WellFormed := by
  cases cs with
  | nil => trivial
  | cons c cs =>
      cases orRange with
      | false => exact ⟨hop, hcs c List.mem_cons_self⟩
      | true =>
          rw [List.forall_mem_cons] at hcs
          refine List.forall_mem_cons.mpr ⟨⟨hop, hcs.1⟩, List.forall_mem_map.mpr fun c' hc' => ?_⟩
          exact ⟨hop, hcs.2 c' hc'⟩

namespace Parameter

/-- The words of the column's dotted name. -/
def columnWords (p : Parameter) : List String := (p.column.toList.splitOn '.').map String.ofList

/-- The constants that the column is compared with. -/
def constants (p : Parameter) : List Constant := p.condition.values.map p.condition.constant

/-- What the parameter asks of a row.  A condition that passes its checks has the constants that its
operator needs. -/
def predicate (p : Parameter) : Predicate :=
  match p.condition.operator, p.constants with
  | .isNull, _ => .test (.null false)
  | .notNull, _ => .test (.null true)
  | .between, low :: high :: _ => .test (.between low high)
  | .between, _ => .never
  | .isIn, [] => .never
  | .isIn, c :: cs => .test (.inList c cs)
  | .inOrNull, [] => .test (.null false)
  | .inOrNull, c :: cs => .any (.inList c cs) [.null false]
  | .matchOrNull, [] => .never
  | .matchOrNull, c :: _ => .any (.compare "=" c) [.null false]
  | op, cs => .comparison op.sql p.orRange cs

/-- The parameter's predicate as a tree. -/
def tree (p : Parameter) : Expr := p.predicate.tree p.columnWords

theorem intercalate_columnWords (p : Parameter) : ".".intercalate p.columnWords = p.column := by
  apply String.toList_inj.mp
  rw [String.toList_intercalate, columnWords, List.map_map]
  have hmap : (p.column.toList.splitOn '.').map (String.toList ∘ String.ofList)
      = p.column.toList.splitOn '.' := by
    simp
  rw [hmap]
  exact List.intercalate_splitOn '.'

/-- Texts without dots are found again in the name that they make up. -/
theorem columnWords_intercalate {ws : List String} (hne : ws ≠ []) (hws : ∀ w ∈ ws, '.' ∉ w.toList)
    (c : Condition) (orRange : Bool) : columnWords ⟨".".intercalate ws, c, orRange⟩ = ws := by
  have hdots : ∀ cs ∈ ws.map String.toList, '.' ∉ cs := List.forall_mem_map.mpr hws
  have hsplit : (".".intercalate ws).toList.splitOn '.' = ws.map String.toList := by
    rw [String.toList_intercalate]
    exact List.splitOn_intercalate '.' hdots (by simpa using hne)
  unfold columnWords
  rw [hsplit, List.map_map]
  simp

theorem literals_eq_constants (p : Parameter) :
    p.condition.literals = p.constants.map Constant.sql := by
  unfold Condition.literals constants
  rw [List.map_map]
  exact List.map_congr_left fun v _ => p.condition.literal_eq_sql v

theorem wellFormed_of_mem_constants {p : Parameter} {c : Constant} (hc : c ∈ p.constants) :
    c.WellFormed := by
  obtain ⟨v, _, rfl⟩ := List.mem_map.mp hc
  exact p.condition.wellFormed_constant v

theorem wellFormed_predicate (p : Parameter) : p.predicate.WellFormed := by
  have hall : ∀ c ∈ p.constants, c.WellFormed := fun _ => wellFormed_of_mem_constants
  unfold predicate
  cases p.condition.operator
  case isNull | notNull => trivial
  case between =>
    match p.constants, hall with
    | [], _ => trivial
    | [_], _ => trivial
    | low :: high :: _, hall => exact ⟨hall low (by simp), hall high (by simp)⟩
  case isIn =>
    match p.constants, hall with
    | [], _ => trivial
    | c :: cs, hall => exact hall
  case inOrNull =>
    match p.constants, hall with
    | [], _ => trivial
    | c :: cs, hall => exact List.forall_mem_cons.mpr ⟨hall, List.forall_mem_singleton.mpr trivial⟩
  case matchOrNull =>
    match p.constants, hall with
    | [], _ => trivial
    | c :: _, hall =>
      refine List.forall_mem_cons.mpr ⟨⟨by decide, hall c (by simp)⟩, ?_⟩
      exact List.forall_mem_singleton.mpr trivial
  all_goals exact wellFormed_comparison (by decide) p.orRange hall

/-- A condition that passes its checks has a value unless its operator needs none. -/
theorem constants_ne_nil {p : Parameter} (h : p.condition.check = .ok ())
    (hop : p.condition.operator ∉ [.isNull, .notNull, .isIn, .inOrNull]) : p.constants ≠ [] := by
  intro hnil
  have hvalues : p.condition.values = [] := List.map_eq_nil_iff.mp hnil
  unfold Condition.check Condition.checkValues Condition.checkBounds at h
  rw [hvalues] at h
  revert hop h
  cases p.condition.operator <;> simp [Operator.isNullTest] <;> nofun

/-- Checked bounds are two. -/
theorem constants_bounds {p : Parameter} (h : p.condition.check = .ok ())
    (hop : p.condition.operator = .between) :
    ∃ low high more, p.constants = low :: high :: more := by
  unfold Condition.check Condition.checkValues Condition.checkBounds at h
  rw [hop] at h
  unfold constants
  match p.condition.values, h with
  | [], h => cases h
  | [_], h => cases h
  | low :: high :: more, _ => exact ⟨_, _, _, rfl⟩

/-- A comparison as SQL, if there is a constant to compare with. -/
theorem comparison_sql (column op : String) (orRange : Bool) {cs : List Constant} (hcs : cs ≠ []) :
    (Predicate.comparison op orRange cs).sql column =
      if orRange then "(" ++ " OR ".intercalate ((cs.map Constant.sql).map fun l =>
        column ++ " " ++ op ++ " " ++ l) ++ ")"
      else column ++ " " ++ op ++ " " ++ nth (cs.map Constant.sql) 0 := by
  cases cs with
  | nil => exact absurd rfl hcs
  | cons c cs =>
      cases orRange with
      | false => rfl
      | true =>
          show "(" ++ " OR ".intercalate _ ++ ")" = "(" ++ " OR ".intercalate _ ++ ")"
          simp [ColumnTest.sql, Function.comp_def]

/-- The text of a parameter whose condition passes its checks is that of its predicate. -/
theorem sql_eq_predicate {p : Parameter} (h : p.condition.check = .ok ()) :
    p.sql = p.predicate.sql p.column := by
  have hsome := constants_ne_nil h
  have hbounds := constants_bounds h
  unfold sql predicate
  rw [literals_eq_constants]
  cases hop : p.condition.operator
  case isNull | notNull => rfl
  case between =>
    obtain ⟨low, high, more, heq⟩ := hbounds hop
    rw [heq]
    rfl
  case isIn =>
    cases p.constants with
    | nil => rfl
    | cons c cs => rfl
  case inOrNull =>
    cases p.constants with
    | nil => rfl
    | cons c cs =>
        simp [Predicate.sql, ColumnTest.sql, String.append_assoc]
  case matchOrNull =>
    cases hcs : p.constants with
    | nil => exact absurd hcs (hsome (by rw [hop]; decide))
    | cons c cs =>
        simp [Predicate.sql, ColumnTest.sql, String.append_assoc, nth]
  all_goals exact (comparison_sql _ _ _ (hsome (by rw [hop]; decide))).symm

end Parameter

end QueryReport.Filter
