import Mathlib.Tactic.IntervalCases
import QueryReport.Proofs.Except
import QueryReport.Proofs.Sql.Lexing.Progress
import QueryReport.Proofs.Text.Quoting

/-!
# `QueryReport.Proofs.Sql.Lexing.Pieces`: texts whose tokens are known

* `Closed s ts`: the text is cut into the tokens, and whatever follows it is cut by itself.
* `Cut s ts`: the same, if what follows begins with a blank, a comma or a closing parenthesis, or if
  nothing follows.
* `takeQuoted_eq_some_iff`: reading a quoted text undoes `doubled` and nothing else.
* `cut_word`, `cut_quote`, `cut_comparison`: a word, a quoted text and a comparison are cut as one
  token.
-/

set_option autoImplicit false

namespace QueryReport.Sql

open QueryReport.Text

/-! ## Texts that are cut by themselves -/

/-- What may follow a word or a quoted text without becoming a part of it. -/
def Stops : List Char → Prop
  | [] => True
  | c :: _ => c = ' ' ∨ c = ',' ∨ c = ')'

/-- The text is cut into the tokens, and whatever follows it is cut by itself. -/
def Closed (s : String) (ts : List Token) : Prop :=
  ∀ more, lexed (s.toList ++ more) = (ts ++ ·) <$> lexed more

/-- The text is cut into the tokens, and what follows it is cut by itself if it cannot become a part
of the last of them. -/
def Cut (s : String) (ts : List Token) : Prop :=
  ∀ more, Stops more → lexed (s.toList ++ more) = (ts ++ ·) <$> lexed more

variable {s t : String} {ts us : List Token}

theorem Closed.cut (h : Closed s ts) : Cut s ts := fun more _ => h more

theorem lexed_append_map (ts us : List Token) (cs : List Char) :
    (ts ++ ·) <$> (us ++ ·) <$> lexed cs = ((ts ++ us) ++ ·) <$> lexed cs := by
  cases lexed cs with
  | error f => rfl
  | ok more =>
      show Except.ok (ts ++ (us ++ more)) = Except.ok (ts ++ us ++ more)
      rw [List.append_assoc]

theorem Closed.append (hs : Closed s ts) (ht : Closed t us) : Closed (s ++ t) (ts ++ us) := by
  intro more
  rw [String.toList_append, List.append_assoc, hs, ht, lexed_append_map]

theorem Closed.cut_append (hs : Closed s ts) (ht : Cut t us) : Cut (s ++ t) (ts ++ us) := by
  intro more hmore
  rw [String.toList_append, List.append_assoc, hs, ht more hmore, lexed_append_map]

theorem Cut.append (hs : Cut s ts) (ht : Cut t us) (hstops : ∀ more, Stops (t.toList ++ more)) :
    Cut (s ++ t) (ts ++ us) := by
  intro more hmore
  rw [String.toList_append, List.append_assoc, hs _ (hstops more), ht more hmore, lexed_append_map]

theorem Cut.closed_append (hs : Cut s ts) (ht : Closed t us)
    (hstops : ∀ more, Stops (t.toList ++ more)) : Closed (s ++ t) (ts ++ us) := by
  intro more
  rw [String.toList_append, List.append_assoc, hs _ (hstops more), ht, lexed_append_map]

/-- A text alone. -/
theorem Cut.tokens_eq (h : Cut s ts) : tokens s = .ok ts := by
  have hnil := h [] trivial
  rw [List.append_nil, lexed_nil] at hnil
  rw [tokens_eq_lexed, hnil]
  show Except.ok (ts ++ []) = Except.ok ts
  rw [List.append_nil]

theorem lexed_piece {c : Char} {rest after : List Char} {t : Token}
    (h : lexeme c rest = .ok (some t, after)) :
    lexed (c :: rest) = ([t] ++ ·) <$> lexed after := by
  rw [lexed_cons h]
  rfl

/-! ## Blanks and marks -/

theorem lexed_blank (more : List Char) : lexed (' ' :: more) = lexed more := by
  have h : lexeme ' ' more = .ok (none, more) := rfl
  rw [lexed_cons h]
  cases lexed more <;> rfl

theorem closed_blank : Closed " " [] := by
  intro more
  show lexed (' ' :: more) = _
  rw [lexed_blank]
  cases lexed more <;> rfl

/-- A piece that is neither a blank, a comment nor a quoted text. -/
theorem lexeme_eq_other {c : Char} {rest : List Char}
    (hc : c ∉ [' ', '\t', '\n', '\r', '-', '/', '\'', '"', '$'])
    (hrest : (∀ d ∈ rest.head?, d ≠ '\'' ∧ d ≠ '"' ∧ d ≠ '&')
      ∨ c ∉ ['b', 'B', 'n', 'N', 'x', 'X', 'e', 'E', 'u', 'U']) :
    lexeme c rest = lexeme.other c rest := by
  simp only [List.mem_cons, List.not_mem_nil, or_false, not_or] at hc
  unfold lexeme
  cases rest with
  | nil => grind
  | cons d rest =>
      simp only [List.head?_cons, Option.mem_def, Option.some.injEq, List.mem_cons,
        List.not_mem_nil, or_false, not_or] at hrest
      grind

/-- The marks of punctuation that nothing can follow as a part of them. -/
theorem closed_mark {c : Char} (hc : c ∈ ['(', ')', ',', '[', ']']) :
    Closed (String.singleton c) [.symbol (String.singleton c)] := by
  intro more
  rw [String.toList_singleton]
  show lexed (c :: more) = _
  refine lexed_piece ?_
  simp only [List.mem_cons, List.not_mem_nil, or_false] at hc
  obtain rfl | rfl | rfl | rfl | rfl := hc
  all_goals
    rw [lexeme_eq_other (by decide) (.inr (by decide))]
    rfl

/-- The point between the parts of a dotted name. -/
theorem lexed_point {more : List Char} (h : ∀ d ∈ more.head?, d.isDigit = false) :
    lexed ('.' :: more) = ([.symbol "."] ++ ·) <$> lexed more := by
  refine lexed_piece ?_
  have htake : more.takeWhile Char.isDigit = [] := by
    cases more with
    | nil => rfl
    | cons d more => rw [List.takeWhile_cons_of_neg (by simp [h d rfl])]
  have hnumber : takeNumber ('.' :: more) = none := by
    simp [takeNumber, htake]
  rw [lexeme_eq_other (by decide) (.inr (by decide)), lexeme.other, if_pos (by decide)]
  simp [numberLexeme, hnumber]

theorem Cut.closed_blank (h : Cut s ts) : Closed (s ++ " ") ts := by
  have hclosed := h.closed_append QueryReport.Sql.closed_blank fun _ => .inl rfl
  rwa [List.append_nil] at hclosed

/-- An operator that compares, in front of a blank. -/
theorem cut_comparison {op : String} (h : op ∈ ["=", "<>", "<", ">", "<=", ">=", "~~"])
    (more : List Char) :
    lexed (op.toList ++ ' ' :: more) = ([.symbol op] ++ ·) <$> lexed more := by
  rw [← lexed_blank more]
  simp only [List.mem_cons, List.not_mem_nil, or_false] at h
  obtain rfl | rfl | rfl | rfl | rfl | rfl | rfl := h
  all_goals
    refine lexed_piece ?_
    rw [lexeme_eq_other (by decide) (.inr (by decide))]
    rfl

/-! ## Words -/

/-- A word that is written without quotes. -/
structure IsWord (w : String) : Prop where
  start : ∀ c ∈ w.toList.head?, isWordStart c
  nonempty : w ≠ ""
  parts : ∀ c ∈ w.toList, isWordPart c

instance (w : String) : Decidable (IsWord w) :=
  decidable_of_iff (w.toList.head?.all isWordStart ∧ w ≠ "" ∧ w.toList.all isWordPart) <| by
    rw [Option.all_eq_true, List.all_eq_true]
    exact ⟨fun ⟨h, h', h''⟩ => ⟨h, h', h''⟩, fun ⟨h, h', h''⟩ => ⟨h, h', h''⟩⟩

theorem IsWord.no_dot {w : String} (h : IsWord w) : '.' ∉ w.toList :=
  fun hmem => absurd (h.parts '.' hmem) (by decide)

theorem eq_of_isDigit {c : Char} (h : c.isDigit) :
    c ∈ ['0', '1', '2', '3', '4', '5', '6', '7', '8', '9'] := by
  have hrange := Char.isDigit_iff_toNat.mp h
  have hc : c = Char.ofNat c.toNat := (Char.ofNat_toNat c).symm
  simp only [Char.reduceToNat] at hrange
  obtain ⟨hlow, hhigh⟩ := hrange
  rw [hc]
  generalize c.toNat = n at hlow hhigh
  interval_cases n <;> decide

theorem isAlphabetic_digit {c : Char} (h : c.isDigit) : isAlphabetic c = false := by
  have hnone : ['0', '1', '2', '3', '4', '5', '6', '7', '8', '9'].all (!isAlphabetic ·) := by decide
  simpa using List.all_eq_true.mp hnone c (eq_of_isDigit h)

/-- A character that a word begins with begins nothing else. -/
theorem not_special_of_isWordStart {c : Char} (h : isWordStart c) :
    c ∉ [' ', '\t', '\n', '\r', '-', '/', '\'', '"', '$'] ∧ c.isDigit = false ∧ c ≠ '.' := by
  refine ⟨?_, ?_, ?_⟩
  · intro hc
    have hnone : [' ', '\t', '\n', '\r', '-', '/', '\'', '"', '$'].all (!isWordStart ·) := by decide
    have hstart := List.all_eq_true.mp hnone c hc
    rw [h] at hstart
    cases hstart
  · cases hdigit : c.isDigit with
    | false => rfl
    | true =>
        unfold isWordStart at h
        rw [isAlphabetic_digit hdigit] at h
        obtain rfl : c = '_' := by simpa using h
        cases hdigit
  · rintro rfl
    exact absurd h (by decide)

theorem IsWord.head_not_digit {w : String} (hw : IsWord w) {d : Char} {more : List Char}
    (hd : d ∈ (w.toList ++ more).head?) : d.isDigit = false := by
  cases hcs : w.toList with
  | nil => exact absurd (String.toList_eq_nil_iff.mp hcs) hw.nonempty
  | cons c cs =>
      have hstart := hw.start
      rw [hcs] at hd hstart
      cases hd
      exact (not_special_of_isWordStart (hstart d rfl)).2.1

/-- A word, if what follows cannot go on with it. -/
theorem lexed_word {w : String} (hw : IsWord w) {more : List Char}
    (hmore : ∀ d ∈ more.head?, isWordPart d = false ∧ d ≠ '\'' ∧ d ≠ '"' ∧ d ≠ '&') :
    lexed (w.toList ++ more) = ([.ofWord w] ++ ·) <$> lexed more := by
  cases hcs : w.toList with
  | nil => exact absurd (String.toList_eq_nil_iff.mp hcs) hw.nonempty
  | cons c cs =>
      have hparts := hw.parts
      have hstart := hw.start
      rw [hcs, List.forall_mem_cons] at hparts
      rw [hcs, List.head?_cons] at hstart
      obtain ⟨hspecial, hdigit, hpoint⟩ := not_special_of_isWordStart (hstart c rfl)
      -- The word is exactly what the lexer takes, since the next character is no part of it.
      have htake : (c :: cs ++ more).takeWhile isWordPart = c :: cs := by
        rw [List.takeWhile_append_of_pos (List.forall_mem_cons.mpr hparts)]
        cases more with
        | nil => simp
        | cons d more => simp [(hmore d rfl).1]
      have hdrop : (c :: cs ++ more).dropWhile isWordPart = more := by
        rw [List.dropWhile_append_of_pos (List.forall_mem_cons.mpr hparts)]
        cases more with
        | nil => rfl
        | cons d more => simp [(hmore d rfl).1]
      -- The second character is a part of the word, or what follows the word.
      have hnext : ∀ d ∈ (cs ++ more).head?, d ≠ '\'' ∧ d ≠ '"' ∧ d ≠ '&' := by
        cases cs with
        | nil => exact fun d hd => (hmore d hd).2
        | cons e cs =>
            rintro d ⟨⟩
            have he := (List.forall_mem_cons.mp hparts.2).1
            refine ⟨?_, ?_, ?_⟩ <;> rintro rfl <;> exact absurd he (by decide)
      have hpiece : lexeme c (cs ++ more) = .ok (some (.ofWord w), more) := by
        rw [lexeme_eq_other hspecial (.inl hnext), lexeme.other,
          if_neg (by simp [hdigit, hpoint]), if_pos (hstart c rfl), wordLexeme, ← List.cons_append,
          htake, hdrop, ← hcs, String.ofList_toList]
      exact lexed_piece hpiece

theorem cut_word {w : String} (hw : IsWord w) : Cut w [.ofWord w] := by
  intro more hmore
  refine lexed_word hw ?_
  cases more with
  | nil => exact fun d hd => nomatch hd
  | cons c more =>
      rintro d ⟨⟩
      obtain rfl | rfl | rfl := hmore <;> decide

/-! ## Quoted texts -/

theorem takeQuoted_doubled (q : Char) (s : List Char) {after : List Char}
    (h : after.head? ≠ some q) : takeQuoted q (doubled q s ++ q :: after) = some (s, after) := by
  induction s with
  | nil =>
      cases after with
      | nil => simp [doubled, takeQuoted]
      | cons d after =>
          have hd : d ≠ q := fun heq => h (congrArg some heq)
          simp [doubled, takeQuoted, hd]
  | cons c s ih =>
      by_cases hc : c = q
      · subst hc
        simp [doubled, takeQuoted, ih]
      · cases hrest : doubled q s ++ q :: after with
        | nil => simp at hrest
        | cons d rest =>
            rw [hrest] at ih
            simp [doubled, takeQuoted, hc, hrest, ih]

/-- What is read as a quoted text was written with its quotes doubled. -/
theorem eq_doubled_of_takeQuoted {q : Char} {cs s after : List Char}
    (h : takeQuoted q cs = some (s, after)) :
    cs = doubled q s ++ q :: after ∧ after.head? ≠ some q := by
  fun_induction takeQuoted q cs generalizing s after with
  | case1 => cases h
  | case2 =>
      cases h
      exact ⟨rfl, by simp⟩
  | case3 c hc => cases h
  -- Two quotes are one quote of the text; a single one closes it (`case2` and `case5`).
  | case4 rest ih =>
      obtain ⟨⟨s', after'⟩, hsome, heq⟩ := Option.map_eq_some_iff.mp h
      cases heq
      obtain ⟨hcs, hafter⟩ := ih hsome
      refine ⟨?_, hafter⟩
      rw [hcs, doubled, if_pos rfl]
      rfl
  | case5 d rest hd =>
      cases h
      exact ⟨rfl, fun heq => hd (Option.some.inj heq)⟩
  | case6 c d rest hc ih =>
      obtain ⟨⟨s', after'⟩, hsome, heq⟩ := Option.map_eq_some_iff.mp h
      cases heq
      obtain ⟨hcs, hafter⟩ := ih hsome
      refine ⟨?_, hafter⟩
      rw [hcs, doubled, if_neg hc]
      rfl

/-- Reading a quoted text undoes doubling and nothing else. -/
theorem takeQuoted_eq_some_iff {q : Char} {cs s after : List Char} :
    takeQuoted q cs = some (s, after) ↔ cs = doubled q s ++ q :: after ∧ after.head? ≠ some q := by
  refine ⟨eq_doubled_of_takeQuoted, ?_⟩
  rintro ⟨rfl, h⟩
  exact takeQuoted_doubled q s h

theorem Stops.head_ne {more : List Char} (h : Stops more) : more.head? ≠ some '\'' := by
  cases more with
  | nil => exact nofun
  | cons c more =>
      rintro ⟨⟩
      obtain h | h | h := h <;> cases h

theorem cut_quote (s : String) : Cut (quote s) [.literal (.string s)] := by
  intro more hmore
  unfold quote
  rw [String.toList_ofList, List.append_assoc]
  refine lexed_piece ?_
  show literalToken .string "text" (takeQuoted '\'' (doubled '\'' s.toList ++ '\'' :: more)) = _
  rw [takeQuoted_doubled _ _ hmore.head_ne, literalToken, String.ofList_toList]

/-- A text that is printed in another way than it is written is cut as another text, if at all. -/
theorem lexed_printQuoted {s : String} (hs : ¬ QuotesApart '\'' s.toList) {more : List Char}
    (hmore : Stops more) {ts : List Token}
    (h : lexed ((printQuoted '\'' s).toList ++ more) = .ok ts) :
    ∃ u rest, ts = .literal (.string u) :: rest ∧ u ≠ s := by
  unfold printQuoted at h
  rw [String.toList_ofList, List.append_assoc, List.cons_append] at h
  change lexed ('\'' :: (printed '\'' false s.toList ++ '\'' :: more)) = .ok ts at h
  cases hread : takeQuoted '\'' (printed '\'' false s.toList ++ '\'' :: more) with
  -- Without a closing quote the text is not read at all.
  | none =>
      have hpiece : lexeme '\'' (printed '\'' false s.toList ++ '\'' :: more)
          = .error (.unreadable "text") := by
        show literalToken .string "text" (takeQuoted _ _) = _
        rw [hread]
        rfl
      rw [lexed_error hpiece] at h
      cases h
  | some read =>
      obtain ⟨u, after⟩ := read
      have hpiece : lexeme '\'' (printed '\'' false s.toList ++ '\'' :: more)
          = .ok (some (.literal (.string (String.ofList u))), after) := by
        show literalToken .string "text" (takeQuoted _ _) = _
        rw [hread]
        rfl
      rw [lexed_piece hpiece] at h
      obtain ⟨rest, -, rfl⟩ := map_eq_ok.mp h
      -- Were the text read as it is, it would have been written with its quotes doubled.
      refine ⟨_, rest, rfl, ?_⟩
      rintro rfl
      rw [String.toList_ofList] at hread hs
      exact hs (quotesApart_of_append (by decide) (eq_doubled_of_takeQuoted hread).1 hmore.head_ne)

end QueryReport.Sql
