import QueryReport.Proofs.Sql.Reading.Operand
import QueryReport.Sql.Parser.QueryBody

/-!
# `QueryReport.Proofs.Sql.Reading.Expression`: operators between operands

An expression is read by its first operand and then by one round of `operators` after the other.
`Extends` is any number of such rounds, and `Reads` an operand with rounds after it: the reader
passes an expression and has the rest before it, whether or not it goes on.

* `Reads.operation`: where no operator binds, the expression passed is the one that is read.
* `extend_binary`, `extend_nullTest`, `extend_inList`, `extend_between`: single rounds.
-/

set_option autoImplicit false

namespace QueryReport.Sql.Parser.Grammar

variable {g : Grammar} {strength : Nat} {e e' left right : Expr} {ts us rest : List Token}

/-! ## Rounds -/

/-- Rounds of `operators` lead from an expression and what follows it to another.  Every round takes
tokens, so that there are fewer rounds than tokens. -/
inductive Extends (g : Grammar) (strength : Nat) :
    Expr → List Token → Expr → List Token → Prop where
  | refl (e : Expr) (ts : List Token) : Extends g strength e ts e ts
  | step {e e' e'' : Expr} {ts us rest : List Token} (binds : strength < strengthOf ts)
      (round : g.extend e (strengthOf ts) ts = .ok (e', us)) (takes : us.length < ts.length)
      (more : Extends g strength e' us e'' rest) : Extends g strength e ts e'' rest

theorem Extends.trans {e'' : Expr} (h : Extends g strength e ts e' us)
    (h' : Extends g strength e' us e'' rest) : Extends g strength e ts e'' rest := by
  induction h with
  | refl => exact h'
  | step binds round takes _ ih => exact .step binds round takes (ih h')

theorem Extends.single (binds : strength < strengthOf ts)
    (round : g.extend e (strengthOf ts) ts = .ok (e', us)) (takes : us.length < ts.length) :
    Extends g strength e ts e' us :=
  .step binds round takes (.refl e' us)

/-- Where nothing binds any more, the expression is done. -/
theorem Extends.operators (h : Extends g strength e ts e' rest) (hrest : strengthOf rest ≤ strength)
    {count : Nat} (hcount : ts.length < count) :
    g.operators strength e count ts = .ok (e', rest) := by
  induction h generalizing count with
  | refl e ts =>
      obtain ⟨count, rfl⟩ := Nat.exists_eq_add_one_of_ne_zero (Nat.ne_zero_of_lt hcount)
      unfold Grammar.operators
      rw [rest_bind, if_pos hrest]
      rfl
  | step binds round takes _ ih =>
      -- Each round takes a token, so there is fuel for another one.
      obtain ⟨count, rfl⟩ := Nat.exists_eq_add_one_of_ne_zero (Nat.ne_zero_of_lt hcount)
      unfold Grammar.operators
      rw [rest_bind, if_neg (Nat.not_le.mpr binds), bind_ok round]
      exact ih hrest (by omega)

/-- The reader passes the expression when it has read the tokens up to the rest. -/
def Reads (g : Grammar) (strength : Nat) (ts : List Token) (e : Expr) (rest : List Token) : Prop :=
  ∃ left us, g.operand ts = .ok (left, us) ∧ Extends g strength left us e rest

theorem Reads.of_operand (h : g.operand ts = .ok (e, rest)) : Reads g strength ts e rest :=
  ⟨e, rest, h, .refl e rest⟩

theorem Reads.extend (h : Reads g strength ts e us) (h' : Extends g strength e us e' rest) :
    Reads g strength ts e' rest := by
  obtain ⟨left, us', hoperand, hextends⟩ := h
  exact ⟨left, us', hoperand, hextends.trans h'⟩

theorem Reads.operation {depth : Nat} (h : Reads (grammar depth) strength ts e rest)
    (hrest : strengthOf rest ≤ strength) :
    (grammar (depth + 1)).operation strength ts = .ok (e, rest) := by
  obtain ⟨left, us, hoperand, hextends⟩ := h
  show (grammar depth).operationAt strength ts = _
  unfold operationAt
  rw [bind_ok hoperand, rest_bind]
  exact hextends.operators hrest (Nat.lt_succ_self _)

/-- No operator on what follows a name binds more tightly than a range. -/
theorem strengthOf_endsWord (h : EndsWord ts) : strengthOf ts ≤ rangeStrength := by
  unfold EndsWord at h
  split at h
  · exact Nat.zero_le _
  · simp only [List.mem_cons, List.not_mem_nil, or_false] at h
    obtain rfl | rfl | rfl | rfl | rfl | rfl | rfl | rfl | rfl | rfl := h
    all_goals exact Nat.le_of_ble_eq_true rfl
  · next name key ts =>
    have hall : ∀ key ∈ endWords, strengthOf (.word name key :: ts) ≤ rangeStrength := by
      unfold endWords clauseWords
      simp only [List.cons_append, List.nil_append, List.forall_mem_cons]
      repeat' apply And.intro
      all_goals first | exact Nat.le_of_ble_eq_true rfl | exact nofun
    exact hall key h
  · exact h.elim

/-! ## What ends a test -/

/-- What may stand after a test: the end, or what binds less tightly than any test. -/
structure EndsTest (ts : List Token) : Prop where
  name : EndsName ts
  strength : strengthOf ts ≤ andStrength

theorem EndsTest.nil : EndsTest [] := ⟨⟨trivial, nofun⟩, by decide⟩

theorem EndsTest.mark {m : String} (h : m = "," ∨ m = ")") (ts : List Token) :
    EndsTest (.symbol m :: ts) := by
  obtain rfl | rfl := h
  all_goals
    refine ⟨⟨?_, by simp⟩, Nat.le_of_ble_eq_true rfl⟩
    simp [EndsWord]

theorem EndsTest.keyword {key : String} (h : key = "AND" ∨ key = "OR") (ts : List Token) :
    EndsTest (keywordToken key :: ts) := by
  have hword : key ∈ endWords := by
    obtain rfl | rfl := h <;> decide
  refine ⟨⟨hword, by simp [keywordToken]⟩, ?_⟩
  obtain rfl | rfl := h <;> exact Nat.le_of_ble_eq_true rfl

/-- A clause of a query is no operator. -/
theorem strengthOf_clause {key : String} (h : key ∈ clauseWords) (ts : List Token) :
    strengthOf (keywordToken key :: ts) = 0 := by
  have hall : ∀ key ∈ clauseWords, strengthOf (keywordToken key :: ts) = 0 := by
    unfold clauseWords
    simp only [List.forall_mem_cons]
    repeat' apply And.intro
    all_goals first | rfl | exact nofun
  exact hall key h

theorem EndsTest.clause {key : String} (h : key ∈ clauseWords) (ts : List Token) :
    EndsTest (keywordToken key :: ts) where
  name := ⟨List.mem_append_right _ h, by simp [keywordToken]⟩
  strength := Nat.le_trans (Nat.le_of_eq (strengthOf_clause h ts)) (Nat.zero_le _)

/-! ## Single rounds -/

theorem next_cons (t : Token) (ts : List Token) : next (t :: ts) = .ok (some t, ts) := rfl

theorem extend_binary {t : Token} {op : BinaryOp} (hop : binaryOp? t = pure (some op))
    (hmany : keyOf ts.head? ∉ ["ANY", "ALL", "SOME"])
    (h : g.operation strength ts = .ok (right, rest)) :
    g.extend left strength (t :: ts) = .ok (.binary left op right, rest) := by
  unfold Grammar.extend
  rw [rest_bind, bind_ok (next_cons t ts)]
  show (binaryOp? t >>= _) ts = _
  rw [hop, bind_ok (pure_run _ ts)]
  show g.rightSide left op strength ts = _
  unfold rightSide
  rw [bind_ok (oneOf_ne hmany)]
  exact map_ok h (Expr.binary left op)

/-- `IS NULL` and `IS NOT NULL`. -/
theorem extend_nullTest (negated : Bool) :
    g.extend e isStrength
        (keywordToken "IS" :: ((if negated then [keywordToken "NOT"] else []) ++
          keywordToken "NULL" :: rest))
      = .ok (.nullTest e negated, rest) := by
  cases negated <;> rfl

theorem extend_inList {es : List Expr} (hquery : keyOf ts.head? ∉ ["SELECT", "WITH"])
    (h : separated g.expression ts = .ok (es, .symbol ")" :: rest)) :
    g.extend e rangeStrength (keywordToken "IN" :: .symbol "(" :: ts)
      = .ok (.inList e false (.ofList es), rest) := by
  have hnext : queryNext ts = .ok (false, ts) := by
    show Except.ok (["SELECT", "WITH"].contains (keyOf ts.head?), ts) = _
    rw [List.contains_eq_mem, decide_eq_false hquery]
  have htest : g.inTest e false (.symbol "(" :: ts) = .ok (.inList e false (.ofList es), rest) := by
    unfold inTest
    rw [bind_ok (keyword_ne (by simp [keyOf]))]
    refine parenthesized_ok ?_
    rw [bind_ok hnext]
    exact map_ok (map_ok h Exprs.ofList) (Expr.inList e false)
  show g.rangeTest e (keywordToken "IN" :: .symbol "(" :: ts) = _
  unfold rangeTest
  rw [bind_ok (keyword_ne (by simp [keyOf, keywordToken]))]
  exact (bind_ok (a := "IN") rfl _).trans htest

theorem extend_between {low high : Expr}
    (hlow : g.operation rangeStrength ts = .ok (low, keywordToken "AND" :: us))
    (hhigh : g.operation rangeStrength us = .ok (high, rest)) :
    g.extend e rangeStrength (keywordToken "BETWEEN" :: ts)
      = .ok (.between e false low high, rest) := by
  have htest : g.betweenTest e false ts = .ok (.between e false low high, rest) := by
    unfold betweenTest
    rw [bind_ok hlow]
    show (expect "AND" >>= _) (.word ⟨"AND", none⟩ "AND" :: us) = _
    rw [bind_ok (expect_self ⟨"AND", none⟩ "AND" us), bind_ok hhigh]
    rfl
  show g.rangeTest e (keywordToken "BETWEEN" :: ts) = _
  unfold rangeTest
  rw [bind_ok (keyword_ne (by simp [keyOf, keywordToken]))]
  exact (bind_ok (a := "BETWEEN") rfl _).trans htest

/-! ## Chains -/

/-- The words that chain conditions, with the operators they stand for and their strengths. -/
inductive IsLink : String → BinaryOp → Nat → Prop where
  | and : IsLink "AND" .and andStrength
  | or : IsLink "OR" .or orStrength

/-- Items with the same word before each are taken one after the other.  The induction is on the
items, with what has been read so far as the left side. -/
theorem extends_chain {α : Type} {tokens : α → List Token} {tree : α → Expr} {key : String}
    {op : BinaryOp} {strength outer depth : Nat} (hlink : IsLink key op strength)
    (houter : outer < strength) {items : List α}
    (hfirst : ∀ a ∈ items, ∀ ts, keyOf (tokens a ++ ts).head? ∉ ["ANY", "ALL", "SOME"])
    (hends : strengthOf rest ≤ strength)
    (hread : ∀ a ∈ items, ∀ ts, ts = rest ∨ (∃ us, ts = keywordToken key :: us) →
      Reads (grammar depth) strength (tokens a ++ ts) (tree a) ts) (left : Expr) :
    Extends (grammar (depth + 1)) outer left
      (items.flatMap (fun a => keywordToken key :: tokens a) ++ rest)
      (items.foldl (fun e a => .binary e op (tree a)) left) rest := by
  induction items generalizing left with
  | nil => exact .refl left rest
  | cons a items ih =>
      rw [List.forall_mem_cons] at hfirst hread
      rw [List.flatMap_cons, List.append_assoc, List.cons_append]
      -- What follows an item is the next link or the rest, and neither goes on with the item.
      generalize hus : items.flatMap (fun a => keywordToken key :: tokens a) ++ rest = us at ih ⊢
      have hshape : us = rest ∨ ∃ vs, us = keywordToken key :: vs := by
        cases items with
        | nil => exact .inl hus.symm
        | cons b items => exact .inr ⟨_, hus.symm⟩
      have hstop : strengthOf us ≤ strength := by
        obtain rfl | ⟨vs, rfl⟩ := hshape
        · exact hends
        · cases hlink <;> exact Nat.le_refl _
      have hright := (hread.1 us hshape).operation hstop
      have hstrength : strengthOf (keywordToken key :: (tokens a ++ us)) = strength := by
        cases hlink <;> rfl
      have hop : binaryOp? (keywordToken key) = pure (some op) := by
        cases hlink <;> rfl
      refine .step ?_ ?_ ?_ (ih hfirst.2 hread.2 (.binary left op (tree a)))
      · rwa [hstrength]
      · rw [hstrength]
        exact extend_binary hop (hfirst.1 us) hright
      · rw [List.length_cons, List.length_append]
        omega

end QueryReport.Sql.Parser.Grammar
