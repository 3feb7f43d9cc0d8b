import QueryReport.Proofs.Sql.Reading.Lifting

/-!
# `QueryReport.Proofs.Sql.Reading.Array`: lifting an array of expressions

An array is written from the texts of its elements, with commas between them, and lifted out of a
text as a target with a label.

* `Expr.StandsInArray e`: the text of `e` is read as `e` where an element of an array stands.
* `expression_array`: elements that stand in an array are read as an array.
* `liftTarget_array`: so is the text of a labelled array of them.
-/

set_option autoImplicit false

namespace QueryReport.Sql

open QueryReport.Sql.Parser

/-! ## Elements -/

/-- The tokens are what the text of the expression is cut into in front of a comma and of a closing
bracket, and there they are read as the expression, one level deeper than a target. -/
structure Expr.StandsAs (e : Expr) (ts : List Token) : Prop where
  cut : ∀ m ∈ [',', ']'], ∀ more,
    lexed (e.text.toList ++ m :: more) = (ts ++ ·) <$> lexed (m :: more)
  read : ∀ m ∈ [",", "]"], ∀ more,
    (grammar 47).expression (ts ++ .symbol m :: more) = .ok (e, .symbol m :: more)

/-- The text of the expression is read as the expression where an element of an array stands. -/
def Expr.StandsInArray (e : Expr) : Prop := ∃ ts, e.StandsAs ts

variable {tokens : Expr → List Token} {e : Expr} {es : List Expr} {name : String}
  {ts rest : List Token}

theorem closed_array : Closed "ARRAY[" [keywordToken "ARRAY", .symbol "["] := by
  have hword : IsWord "ARRAY" ∧ Text.upperKey "ARRAY" = "ARRAY" := by decide +kernel
  have hopen : Closed "[" [.symbol "["] := closed_mark (c := '[') (by decide)
  intro more
  show lexed ("ARRAY".toList ++ '[' :: more) = _
  rw [lexed_word hword.1 (by rintro d ⟨⟩; decide), ofWord_eq_keywordToken "ARRAY" hword.2]
  show _ <$> lexed ("[".toList ++ more) = _
  rw [hopen, lexed_append_map]
  rfl

/-- The texts of the elements are cut one after the other. -/
theorem lexed_elements (hes : es ≠ []) (h : ∀ e ∈ es, e.StandsAs (tokens e)) (more : List Char) :
    lexed ((", ".intercalate (es.map Expr.text)).toList ++ ']' :: more)
      = (commaTokens tokens es ++ ·) <$> lexed (']' :: more) := by
  induction es with
  | nil => exact absurd rfl hes
  | cons e es ih =>
      rw [List.forall_mem_cons] at h
      cases es with
      | nil =>
          rw [List.map_singleton, String.intercalate_singleton]
          exact h.1.cut ']' (by simp) more
      | cons e' es =>
          have hcomma : Closed ", " [.symbol ","] :=
            (closed_mark (c := ',') (by decide)).cut.closed_blank
          rw [List.map_cons, List.map_cons, String.intercalate_cons_cons, ← List.map_cons,
            String.toList_append, String.toList_append, List.append_assoc, List.append_assoc]
          -- The element stands in front of the comma, and the comma in front of the other elements.
          show lexed (e.text.toList ++ ',' :: ' ' :: _) = _
          rw [h.1.cut ',' (by simp)]
          show (tokens e ++ ·) <$> lexed (", ".toList ++ _) = _
          rw [hcomma, ih (List.cons_ne_nil e' es) h.2, lexed_append_map, lexed_append_map]
          rfl

/-! ## Arrays -/

namespace Parser.Grammar

/-- No expression begins with the bracket that closes an array. -/
theorem expression_closing_bracket (depth : Nat) (ts : List Token) :
    Fails (grammar (depth + 1)).expression (.symbol "]" :: ts) := by
  have hoperand : Fails (grammar depth).operand (.symbol "]" :: ts) := by
    have hfails := (fails_fail (α := Expr) ts).bind collated
    obtain ⟨e, he, hne⟩ := hfails
    exact ⟨e, (operand_token (grammar depth) fun _ _ => Token.noConfusion).trans he, hne⟩
  show Fails ((grammar depth).operationAt 0) _
  unfold operationAt
  exact hoperand.bind _

/-- An element has tokens, and the first of them closes no array. -/
theorem head_ne_bracket {m : String}
    (h : (grammar 47).expression (ts ++ .symbol m :: rest) = .ok (e, .symbol m :: rest)) :
    (ts ++ .symbol m :: rest).head? ≠ some (.symbol "]") := by
  intro hhead
  obtain ⟨us, hus⟩ := List.head?_eq_some_iff.mp hhead
  obtain ⟨f, hf, -⟩ := expression_closing_bracket 46 us
  rw [hus, hf] at h
  cases h

/-- Elements are read up to the bracket behind them. -/
theorem arrayForm_elements (hes : es ≠ []) (h : ∀ e ∈ es, e.StandsAs (tokens e))
    (rest : List Token) :
    (grammar 47).arrayForm true (commaTokens tokens es ++ .symbol "]" :: rest)
      = .ok (.array true (.ofList es), rest) := by
  have hread : separated (grammar 47).expression (commaTokens tokens es ++ .symbol "]" :: rest)
      = .ok (es.map id, .symbol "]" :: rest) :=
    separated_entries (by decide) hes (fun e he => (h e he).read) rest
  rw [List.map_id] at hread
  -- The reader looks for an empty array before it reads any element.
  have hopen : (commaTokens tokens es ++ .symbol "]" :: rest).head? ≠ some (.symbol "]") := by
    obtain ⟨e, es, rfl⟩ := List.exists_cons_of_ne_nil hes
    obtain ⟨m, hm, more, heq⟩ := commaTokens_cons tokens e es rest "]"
    rw [heq]
    exact head_ne_bracket ((h e List.mem_cons_self).read m hm more)
  unfold arrayForm expressionsBefore
  refine (bind_ok (a := Exprs.ofList es) ?_ _).trans (bind_ok (expectMark_self "]" rest) _)
  rw [bind_ok (peekMark_ne hopen)]
  exact map_ok hread Exprs.ofList

/-- The word before an array is no type in front of a bracket. -/
theorem typedText_array_fails (interval : Parser Expr) (ts : List Token) :
    Fails (typedText interval) (keywordToken "ARRAY" :: .symbol "[" :: ts) := by
  have hangle : Fails (expectMark "<") (.symbol "[" :: ts) := expectMark_fails (by simp)
  unfold typedText typeName
  refine .bind (.of_bind_ok (rest_run _) (.bind ?_ _)) _
  unfold typeUpTo
  refine .of_bind_ok (rest_run _) ?_
  show Fails (next >>= _) (keywordToken "ARRAY" :: .symbol "[" :: ts)
  exact .of_bind_ok (next_cons _ _) (hangle.bind _)

/-- Elements between brackets after the word are read as an array, in front of what neither binds
nor collates it. -/
theorem expression_array (hes : es ≠ []) (h : ∀ e ∈ es, e.StandsAs (tokens e))
    (hcollate : keyOf rest.head? ≠ "COLLATE") (hrest : strengthOf rest = 0) :
    (grammar 48).expression
        (keywordToken "ARRAY" :: .symbol "[" :: (commaTokens tokens es ++ .symbol "]" :: rest))
      = .ok (.array true (.ofList es), rest) := by
  -- The word is tried as the type of a literal first, and then as a word with a form of its own.
  obtain ⟨interval, hoperand⟩ := (grammar 47).operand_word fun interval =>
    typedText_array_fails interval (commaTokens tokens es ++ .symbol "]" :: rest)
  have hspecial : (grammar 47).special interval ⟨"ARRAY", none⟩ "ARRAY"
      (.symbol "[" :: (commaTokens tokens es ++ .symbol "]" :: rest))
        = .ok (some (.array true (.ofList es)), rest) := by
    show (mark "[" >>= _) _ = _
    rw [bind_ok (mark_self "[" _)]
    exact map_ok (arrayForm_elements hes h rest) some
  refine Reads.operation (.of_operand (hoperand.trans ?_)) (Nat.le_of_eq hrest)
  unfold wordOperand
  rw [bind_ok (outcome_ok hspecial)]
  exact collated_endsWord hcollate _

/-- An array with a label is a target. -/
theorem selectItem_array (hes : es ≠ []) (h : ∀ e ∈ es, e.StandsAs (tokens e)) (name : String) :
    (grammar 48).selectItem (keywordToken "ARRAY" :: .symbol "[" :: (commaTokens tokens es
        ++ .symbol "]" :: [keywordToken "AS", .ofWord name]))
      = .ok (⟨.array true (.ofList es), some ⟨name, none⟩⟩, []) := by
  have hcollate : keyOf [keywordToken "AS", .ofWord name].head? ≠ "COLLATE" := by
    simp [keyOf, keywordToken]
  have hexpression := expression_array hes h hcollate rfl
  have hlabel : label notColumnLabels [keywordToken "AS", .ofWord name]
      = .ok (some ⟨name, none⟩, []) := rfl
  unfold selectItem
  refine (bind_ok (a := none) rfl _).trans ?_
  refine (bind_ok hexpression _).trans ?_
  exact bind_ok hlabel _

end Parser.Grammar

/-! ## Lifting -/

/-- A text that is read as one target is lifted as that target. -/
theorem liftTarget_of_tokens {text : String} {item : SelectItem}
    (htokens : Sql.tokens text = .ok ts) (hword : keyOf ts.head? ∉ Grammar.modifierWords)
    (hitem : (grammar 48).selectItem ts = .ok (item, [])) : liftTarget text = .ok item := by
  have hnil : Halts [] := ⟨by decide, nofun⟩
  have hselect : Closed "SELECT " [keywordToken "SELECT"] :=
    closed_keyword "SELECT" (by decide +kernel)
  have hall : Sql.tokens ("SELECT " ++ text) = .ok (keywordToken "SELECT" :: ts) := by
    rw [tokens_eq_lexed, String.toList_append, hselect, ← tokens_eq_lexed, htokens]
    rfl
  have hstart := Grammar.selectStart_item hword hitem nofun (hnil.keys (by decide))
  have hfilter : (grammar 48).expressionAfter "WHERE" [] = .ok (.none, []) := rfl
  have hquery : (grammar 49).query (keywordToken "SELECT" :: ts) = .ok (targetFragment item, []) :=
    Grammar.queryAt_filter rfl hstart hfilter hnil
  have hstatements := statements_query 49 (List.mem_cons_self (a := "SELECT")) hquery
  have hparse : parse ("SELECT " ++ text) = .ok [.query (targetFragment item)] := by
    rw [parse_of_tokens hall, show nestingLimit = 49 + 1 from rfl, hstatements]
    rfl
  unfold liftTarget parseQuery
  rw [hparse]
  rfl

/-- A text that is lifted is read. -/
theorem parse_of_liftTarget {text : String} {item : SelectItem} (h : liftTarget text = .ok item) :
    ∃ q, parse ("SELECT " ++ text) = .ok [.query q] := by
  unfold liftTarget parseQuery at h
  obtain ⟨q, hq, -⟩ := bind_eq_ok.mp h
  obtain ⟨found, hparse, hq⟩ := bind_eq_ok.mp hq
  split at hq
  · exact ⟨_, hparse⟩
  · cases hq

/-- The text of an array of expressions with a label is lifted as that array, if the expressions
stand in an array. -/
theorem liftTarget_array (hes : es ≠ []) (h : ∀ e ∈ es, e.StandsInArray) (hname : IsWord name) :
    liftTarget ("ARRAY[" ++ ", ".intercalate (es.map Expr.text) ++ "] AS " ++ name)
      = .ok ⟨.array true (.ofList es), some ⟨name, none⟩⟩ := by
  choose! tokens htokens using h
  have hlabel : Cut (" AS " ++ name) [keywordToken "AS", .ofWord name] :=
    (closed_blank.append (closed_keyword "AS" (by decide +kernel))).cut_append (cut_word hname)
  refine liftTarget_of_tokens ?_ (by simp [keyOf, keywordToken, Grammar.modifierWords])
    (Grammar.selectItem_array hes htokens name)
  have hclose : Closed "]" [.symbol "]"] := closed_mark (c := ']') (by decide)
  -- The bracket ends the last element, whatever it is, and the label follows.
  have hrest : lexed (']' :: (" AS " ++ name).toList)
      = .ok (.symbol "]" :: [keywordToken "AS", .ofWord name]) := by
    show lexed ("]".toList ++ (" AS " ++ name).toList) = _
    rw [hclose, ← tokens_eq_lexed, hlabel.tokens_eq]
    rfl
  have htext : ("ARRAY[" ++ ", ".intercalate (es.map Expr.text) ++ "] AS " ++ name).toList
      = "ARRAY[".toList ++ ((", ".intercalate (es.map Expr.text)).toList
        ++ ']' :: (" AS " ++ name).toList) := by
    simp only [String.toList_append, List.append_assoc]
    rfl
  rw [tokens_eq_lexed, htext, closed_array, lexed_elements hes htokens, hrest]
  rfl

/-! ## Nesting -/

/-- The expression in so many pairs of parentheses. -/
def Expr.enclosed (e : Expr) : Nat → Expr
  | 0 => e
  | n + 1 => .nested (e.enclosed n)

/-- The tokens in so many pairs of parentheses. -/
def enclosedTokens (ts : List Token) : Nat → List Token
  | 0 => ts
  | n + 1 => [.symbol "("] ++ enclosedTokens ts n ++ [.symbol ")"]

/-- Behind the last parenthesis anything may stand. -/
theorem closed_enclosed (h : Cut e.text ts) (n : Nat) :
    Closed (e.enclosed (n + 1)).text (enclosedTokens ts (n + 1)) := by
  have hopen : Closed "(" [.symbol "("] := closed_mark (c := '(') (by decide)
  have hclose : Closed ")" [.symbol ")"] := closed_mark (c := ')') (by decide)
  -- One pair of parentheses is enough for that.
  induction n with
  | zero => exact (hopen.cut_append h).closed_append hclose fun _ => .inr (.inr rfl)
  | succ n ih => exact (hopen.append ih).append hclose

/-- A text in the middle of another is read by its own tokens. -/
theorem parse_between {s front back : String} {us vs : List Token} (hs : Closed s ts)
    (hfront : Closed front us) (hback : lexed back.toList = .ok vs) :
    parse (front ++ s ++ back)
      = Prod.fst <$> statements (statementAt nestingLimit) (us ++ ts ++ vs) := by
  refine parse_of_tokens ?_
  rw [tokens_eq_lexed, String.toList_append, hfront.append hs, hback]
  rfl

end QueryReport.Sql
