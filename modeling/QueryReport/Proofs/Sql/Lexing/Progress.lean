import Mathlib.Data.Bool.Basic
import QueryReport.Sql.Statement

/-!
# `QueryReport.Proofs.Sql.Lexing.Progress`: cutting a text needs no fuel

Every piece of a text takes at least one character (`lexeme_length`), so the fuel of `tokensFrom`
is never used up: `tokensFrom_eq_lexed` says that any fuel that is enough gives the same tokens.
`lexed` is the result without fuel, and `lexed_cons` the equation it satisfies: read one piece, then
go on with what follows it.

Most of what evaluating the reader on a literal costs is taking the text apart: its characters are
decoded one by one, each from the front.  `parse_literal` has them stated beside the text, where
unifying the literal with the text of a list finds them for nothing.
-/

set_option autoImplicit false

namespace QueryReport.Sql

open QueryReport.Text

/-! ## Each reader leaves a part of its text -/

/-- Characters put in front of what was read do not touch what follows. -/
theorem length_of_map {read : Option (List Char × List Char)} {f : List Char → List Char}
    {text after : List Char} {n : Nat}
    (hread : ∀ text after, read = some (text, after) → after.length ≤ n)
    (h : read.map (fun (text, after) => (f text, after)) = some (text, after)) :
    after.length ≤ n := by
  obtain ⟨⟨text', after'⟩, hsome, heq⟩ := Option.map_eq_some_iff.mp h
  obtain ⟨_, hafter⟩ := Prod.mk.inj heq
  rw [← hafter]
  exact hread text' after' hsome

theorem takeQuoted_length {q : Char} {cs text after : List Char}
    (h : takeQuoted q cs = some (text, after)) : after.length ≤ cs.length := by
  fun_induction takeQuoted q cs generalizing text after <;> simp_all
  all_goals grind

theorem takeBackslashed_length {q : Char} {cs text after : List Char}
    (h : takeBackslashed q cs = some (text, after)) : after.length ≤ cs.length := by
  fun_induction takeBackslashed q cs generalizing text after <;> simp_all
  all_goals grind

theorem takeEscaped_length {fuel : Nat} {cs text after : List Char}
    (h : takeEscaped fuel cs = some (text, after)) : after.length ≤ cs.length := by
  fun_induction takeEscaped fuel cs generalizing text after
  case case5 fuel rest ih =>
    obtain ⟨⟨c, used⟩, _, h⟩ := Option.bind_eq_some_iff.mp h
    dsimp only at h
    split at h
    · cases h
    · refine length_of_map (fun text after hread => ?_) h
      have := ih used hread
      simp only [List.length_drop, List.length_cons] at this ⊢
      omega
  all_goals simp_all
  all_goals grind

/-- The digits of an escape are followed by a part of the text. -/
theorem coded_length {fuel n : Nat} {rest text after : List Char}
    (ih : ∀ {cs text after : List Char},
      takeUnicode fuel cs = some (text, after) → after.length ≤ cs.length)
    (h : takeUnicode.coded fuel n rest = some (text, after)) : after.length ≤ rest.length := by
  unfold takeUnicode.coded at h
  dsimp only at h
  split at h
  · obtain ⟨c, _, h⟩ := Option.bind_eq_some_iff.mp h
    refine length_of_map (fun text after hread => ?_) h
    have := ih hread
    simp only [List.length_drop] at this
    omega
  · cases h

theorem takeUnicode_length {fuel : Nat} {cs text after : List Char}
    (h : takeUnicode fuel cs = some (text, after)) : after.length ≤ cs.length := by
  induction fuel generalizing cs text after with
  | zero => simp [takeUnicode] at h
  | succ fuel ih =>
      have hcoded : ∀ n rest, takeUnicode.coded fuel n rest = some (text, after) →
          after.length ≤ rest.length := fun _ _ => coded_length ih
      unfold takeUnicode at h
      split at h <;> simp_all <;> grind

theorem takeDollars_length {cs text after : List Char}
    (h : takeDollars cs = some (text, after)) : after.length ≤ cs.length := by
  fun_induction takeDollars cs generalizing text after <;> simp_all
  all_goals grind

theorem takeTagged_length {tag : List Char} {fuel : Nat} {cs text after : List Char}
    (h : takeTagged tag fuel cs = some (text, after)) : after.length ≤ cs.length := by
  induction fuel generalizing cs text after with
  | zero => simp [takeTagged] at h
  | succ fuel ih =>
      -- Behind what was compared with the tag the reader goes on with less fuel.
      have hmore : ∀ (rest compared : List Char),
          takeTagged.more tag fuel compared (rest.drop compared.length) = some (text, after) →
            after.length ≤ rest.length := by
        intro rest compared h
        unfold takeTagged.more at h
        refine length_of_map (fun text after hread => ?_) h
        have := ih hread
        simp only [List.length_drop] at this
        omega
      unfold takeTagged at h
      split at h
      · cases h
      · cases h
      · next rest hfuel =>
        cases hfuel
        dsimp only at h
        have hdrop : (rest.drop (tagOverlap tag rest).length).length ≤ rest.length := by
          rw [List.length_drop]
          omega
        have := hmore rest (tagOverlap tag rest)
        grind
      · next c rest _ hfuel =>
        cases hfuel
        have hread : ∀ text after, takeTagged tag fuel rest = some (text, after) →
            after.length ≤ (c :: rest).length :=
          fun text after h => Nat.le_succ_of_le (ih h)
        exact length_of_map hread h

theorem afterComment_length {depth : Nat} {last : Char} {cs after : List Char}
    (h : afterComment depth last cs = some after) : after.length ≤ cs.length := by
  fun_induction afterComment depth last cs <;> grind

theorem afterLine_length (cs : List Char) : (afterLine cs).length ≤ cs.length := by
  fun_induction afterLine cs <;> grind

theorem takeNumber_length {c : Char} {rest digits after : List Char}
    (hc : c.isDigit ∨ c = '.') (h : takeNumber (c :: rest) = some (digits, after)) :
    after.length ≤ rest.length := by
  have hle : ∀ cs : List Char, (cs.dropWhile Char.isDigit).length ≤ cs.length :=
    fun cs => (List.dropWhile_sublist Char.isDigit).length_le
  -- A number begins with a digit, or with a point that has digits after it.
  have hfirst : ((c :: rest).dropWhile Char.isDigit).length ≤ rest.length
      ∨ (c :: rest).dropWhile Char.isDigit = '.' :: rest := by
    by_cases hdigit : c.isDigit = true
    · exact .inl (by rw [List.dropWhile_cons_of_pos hdigit]; exact hle rest)
    · obtain rfl : c = '.' := hc.resolve_left hdigit
      exact .inr rfl
  unfold takeNumber at h
  grind

/-! ## Pieces -/

theorem literalToken_length {make : String → Literal} {what : String}
    {read : Option (List Char × List Char)} {token : Option Token} {after : List Char} {n : Nat}
    (hread : ∀ text after, read = some (text, after) → after.length ≤ n)
    (h : literalToken make what read = .ok (token, after)) : after.length ≤ n := by
  unfold literalToken at h
  grind

theorem wordLexeme_length {c : Char} {rest after : List Char} {token : Option Token}
    (hc : isWordPart c) (h : wordLexeme (c :: rest) = .ok (token, after)) :
    after.length ≤ rest.length := by
  unfold wordLexeme at h
  rw [List.dropWhile_cons_of_pos hc] at h
  cases h
  exact (List.dropWhile_sublist isWordPart).length_le

theorem numberLexeme_length {c : Char} {rest after : List Char} {token : Option Token}
    (hc : c.isDigit ∨ c = '.') (h : numberLexeme (c :: rest) = .ok (token, after)) :
    after.length ≤ rest.length := by
  have hhex : ∀ cs : List Char, (cs.dropWhile isHexDigit).length ≤ cs.length :=
    fun cs => (List.dropWhile_sublist isHexDigit).length_le
  have hnumber := @takeNumber_length c rest
  unfold numberLexeme at h
  grind

theorem dollarLexeme_length {rest after : List Char} {token : Option Token}
    (h : dollarLexeme rest = .ok (token, after)) : after.length ≤ rest.length := by
  have htag : ∀ cs : List Char, (cs.dropWhile isTagPart).length ≤ cs.length :=
    fun cs => (List.dropWhile_sublist isTagPart).length_le
  unfold dollarLexeme at h
  split at h
  · exact Nat.le_succ_of_le (literalToken_length (fun _ _ => takeDollars_length) h)
  · dsimp only at h
    split at h
    · next more heq =>
      have := htag rest
      rw [heq, List.length_cons] at this
      have := literalToken_length (fun _ _ => takeTagged_length) h
      omega
    · cases h
      exact htag rest

/-- The operator found is one of the candidates, so it is not empty. -/
theorem operatorAt?_length {cs op : List Char} {grows : Bool}
    (h : operatorAt? cs = some (op, grows)) : 0 < op.length := by
  have hcandidates : ∀ c ∈ growingOperators.map (fun s => (s.toList, true))
      ++ fixedOperators.map (fun s => (s.toList, false)), 0 < c.1.length := by decide
  -- The invariant of the fold: the longest operator so far is not empty.
  have hinv : ∀ c : List Char × Bool, operatorAt? cs = some c → 0 < c.1.length := by
    unfold operatorAt?
    refine List.foldlRecOn
      (motive := fun best => ∀ c : List Char × Bool, best = some c → 0 < c.1.length) _ _ ?_ ?_
    · intro c h
      cases h
    · intro best hbest candidate hcandidate c h
      have hlength := hcandidates candidate hcandidate
      grind
  exact hinv (op, grows) h

theorem operatorLexeme_length {c : Char} {rest after : List Char} {token : Option Token}
    (h : operatorLexeme c rest = .ok (token, after)) : after.length ≤ rest.length := by
  unfold operatorLexeme at h
  split at h
  · next op grows hop =>
    have := operatorAt?_length hop
    grind
  · grind

theorem other_length {c : Char} {rest after : List Char} {token : Option Token}
    (h : lexeme.other c rest = .ok (token, after)) : after.length ≤ rest.length := by
  unfold lexeme.other at h
  split at h
  · next hc => exact numberLexeme_length (by simpa using hc) h
  · split at h
    · next hc =>
      refine wordLexeme_length ?_ h
      unfold isWordStart at hc
      unfold isWordPart
      grind
    · exact operatorLexeme_length h

/-- Every piece takes the character that it begins with. -/
theorem lexeme_length {c : Char} {rest after : List Char} {token : Option Token}
    (h : lexeme c rest = .ok (token, after)) : after.length ≤ rest.length := by
  have hquoted := @takeQuoted_length
  have hbackslashed := @takeBackslashed_length
  have hescaped := @takeEscaped_length
  have hunicode := @takeUnicode_length
  have hcomment := @afterComment_length
  have hline := afterLine_length
  have hdollar := @dollarLexeme_length
  have hother := @other_length
  unfold lexeme literalToken at h
  grind

/-! ## Fuel -/

/-- The tokens of a text given as characters. -/
def lexed (cs : List Char) : Except Fault (List Token) := tokensFrom cs.length cs

theorem tokens_eq_lexed (text : String) : tokens text = lexed text.toList := by
  unfold tokens lexed
  rw [String.length_toList]

/-- A token before others, if there is one. -/
def prepended : Option Token → List Token → List Token
  | some t, more => t :: more
  | none, more => more

/-- More fuel than characters changes nothing.  The induction is on the fuel, since a piece may take
any number of characters. -/
theorem tokensFrom_eq_lexed {fuel : Nat} {cs : List Char} (h : cs.length ≤ fuel) :
    tokensFrom fuel cs = lexed cs := by
  -- Two amounts of fuel are compared, so that the induction is on one of them alone.
  have agree : ∀ (m n : Nat) (cs : List Char), cs.length ≤ m → cs.length ≤ n →
      tokensFrom m cs = tokensFrom n cs := by
    intro m
    induction m with
    | zero =>
        intro n cs hm _
        rw [List.eq_nil_of_length_eq_zero (Nat.le_zero.mp hm)]
        rw [tokensFrom, tokensFrom]
    | succ m ih =>
        intro n cs hm hn
        cases cs with
        | nil => rw [tokensFrom, tokensFrom]
        | cons c rest =>
            obtain ⟨n, rfl⟩ := Nat.exists_eq_succ_of_ne_zero (Nat.ne_of_gt (Nat.lt_of_lt_of_le
              (Nat.succ_pos rest.length) hn))
            rw [List.length_cons] at hm hn
            rw [tokensFrom, tokensFrom]
            cases hpiece : lexeme c rest with
            | error f => rfl
            | ok piece =>
                have hlength := @lexeme_length c rest piece.2 piece.1 hpiece
                have := ih n piece.2 (by omega) (by omega)
                simp only [bind, Except.bind, this]
  exact agree fuel cs.length cs h (Nat.le_refl _)

@[simp] theorem lexed_nil : lexed [] = .ok [] := rfl

/-- A piece that cannot be read. -/
theorem lexed_error {c : Char} {rest : List Char} {f : Fault} (h : lexeme c rest = .error f) :
    lexed (c :: rest) = .error f := by
  show tokensFrom (rest.length + 1) (c :: rest) = _
  rw [tokensFrom, h]
  rfl

/-- A piece, and then what follows it. -/
theorem lexed_cons {c : Char} {rest after : List Char} {token : Option Token}
    (h : lexeme c rest = .ok (token, after)) :
    lexed (c :: rest) = prepended token <$> lexed after := by
  have hafter : tokensFrom rest.length after = lexed after :=
    tokensFrom_eq_lexed (lexeme_length h)
  show tokensFrom (rest.length + 1) (c :: rest) = _
  rw [tokensFrom, h]
  show (tokensFrom rest.length after >>= fun more => _) = _
  rw [hafter]
  cases lexed after with
  | error f => rfl
  | ok more => cases token <;> rfl

/-! ## The characters of a literal -/

section Literal

variable {text : String} {cs : List Char}

/-- The statements of a text with these characters. -/
def parsed (cs : List Char) : Except Fault (List Statement) := do
  let ts ← lexed cs
  let (statements, _) ← (Parser.statements (Parser.statementAt nestingLimit)).run ts
  pure statements

theorem parse_literal (h : text = .ofList cs) : parse text = parsed cs := by
  unfold parse
  rw [tokens_eq_lexed, h, String.toList_ofList]
  rfl

theorem parseQuery_literal (h : text = .ofList cs) : parseQuery text = (do
    match ← parsed cs with
    | [.query q] => pure q
    | _ => throw (.notAQuery text)) := by
  rw [← parse_literal h]
  rfl

end Literal

end QueryReport.Sql
