import QueryReport.Proofs.Sql.Lexing.Locality
import QueryReport.Proofs.Text.Split
import QueryReport.Storage.ReportFile

/-!
# `QueryReport.Proofs.Sql.Lexing.Breaks`: blanks around a text, and its line breaks

SQL is kept without the blanks around it and with a line feed for every line break.  The first
never changes a token.  The second does where a carriage return is a part of a token, or ends in a
line comment what went on up to the line feed.

* `tokens_trim`: the blanks around a text are no part of any token.
* `BreaksApart cs`: no carriage return of the text is a part of a token or has anything but blanks
  behind it in a line comment.  A text that has none is such a text.
* `lexed_unify`: such a text has the same tokens with other line breaks.
-/

set_option autoImplicit false

namespace QueryReport.Sql

open QueryReport.Text QueryReport.ReportFile.normalizeSql

variable {cs : List Char} {ts : List Token}

/-! ## Pieces that are no pieces of `takes_lexeme` -/

/-- The mark `?` takes the character behind it, whichever it is.  A blank does not change the mark.
-/
theorem lexeme_question (d : Char) : ∃ token, (∀ rest, lexeme '?' (d :: rest) = .ok (token, rest))
    ∧ (isBlank d = true → token = some (.symbol "?")) := by
  have hform : ∀ rest, lexeme '?' rest = operatorLexeme '?' rest := fun rest => by
    have hplain : Plain '?' rest :=
      ⟨by decide, nofun, nofun, fun h => absurd h (by decide), fun h => absurd h (by decide),
        fun h => absurd h (by decide)⟩
    rw [hplain.lexeme_eq_other (by decide)]
    rfl
  by_cases hbar : d = '|'
  · subst hbar
    exact ⟨_, fun rest => (hform _).trans rfl, nofun⟩
  by_cases hand : d = '&'
  · subst hand
    exact ⟨_, fun rest => (hform _).trans rfl, nofun⟩
  -- No other operator begins with the mark.
  have hnone : ∀ rest, operatorAt? ('?' :: d :: rest) = none := by
    intro rest
    have hcandidates : ∀ candidate ∈ growingOperators.map (fun s => (s.toList, true))
        ++ fixedOperators.map (fun s => (s.toList, false)),
        candidate.1.head? ≠ some '?' ∧ candidate.1 ≠ []
          ∨ candidate.1 = ['?', '|'] ∨ candidate.1 = ['?', '&'] := by decide
    unfold operatorAt?
    refine List.foldlRecOn (motive := (· = none)) _ _ rfl ?_
    intro best hbest candidate hcandidate
    have hdiffers : candidate.1.isPrefixOf ('?' :: d :: rest) = false := by
      obtain ⟨hhead, hne⟩ | heq | heq := hcandidates candidate hcandidate
      · obtain ⟨e, op, hop⟩ := List.exists_cons_of_ne_nil hne
        rw [hop] at hhead ⊢
        have he : e ≠ '?' := fun heq => hhead (heq ▸ rfl)
        rw [List.isPrefixOf_cons_cons, beq_eq_false_iff_ne.mpr he, Bool.false_and]
      · rw [heq]
        simp [List.isPrefixOf, Ne.symm hbar]
      · rw [heq]
        simp [List.isPrefixOf, Ne.symm hand]
    simp only [hdiffers, hbest, Bool.false_eq_true, if_false]
  refine ⟨some (.symbol "?"), fun rest => ?_, fun _ => rfl⟩
  rw [hform]
  unfold operatorLexeme
  rw [hnone]
  rfl

/-- A line comment goes up to the line feed. -/
theorem afterLine_eq (cs : List Char) :
    (∃ body, '\n' ∉ body ∧ cs = body ++ '\n' :: afterLine cs)
      ∨ '\n' ∉ cs ∧ afterLine cs = [] := by
  induction cs with
  | nil => exact .inr ⟨List.not_mem_nil, rfl⟩
  | cons c cs ih =>
      by_cases hc : c = '\n'
      · subst hc
        exact .inl ⟨[], List.not_mem_nil, rfl⟩
      · have hrest : afterLine (c :: cs) = afterLine cs := by
          rw [afterLine, if_neg hc]
        rw [hrest]
        obtain ⟨body, hbody, hcs⟩ | ⟨hnone, hend⟩ := ih
        · refine .inl ⟨c :: body, ?_, by rw [List.cons_append, ← hcs]⟩
          exact fun hmem => (List.mem_cons.mp hmem).elim (fun heq => hc heq.symm) hbody
        · exact .inr ⟨fun hmem => (List.mem_cons.mp hmem).elim (fun heq => hc heq.symm) hnone, hend⟩

theorem afterLine_append {body : List Char} (hbody : '\n' ∉ body) (rest : List Char) :
    afterLine (body ++ rest) = afterLine rest := by
  induction body with
  | nil => rfl
  | cons c body ih =>
      rw [List.mem_cons, not_or] at hbody
      rw [List.cons_append, afterLine, if_neg fun heq => hbody.1 heq.symm, ih hbody.2]

theorem mem_of_mem_afterLine {c : Char} (h : c ∈ afterLine cs) : c ∈ cs := by
  obtain ⟨body, -, hcs⟩ | ⟨-, hnone⟩ := afterLine_eq cs
  · rw [hcs]
    exact List.mem_append_right _ (List.mem_cons_of_mem _ h)
  · rw [hnone] at h
    cases h

/-- How a piece may begin: a blank, the mark `?`, a line comment, or a piece that depends on nothing
behind a blank. -/
theorem lexeme_cases {c : Char} {rest after : List Char} {token : Option Token}
    (h : lexeme c rest = .ok (token, after)) :
    (isBlank c = true ∧ token = none ∧ after = rest) ∨ c = '?'
      ∨ (∃ more, c = '-' ∧ rest = '-' :: more ∧ token = none ∧ after = afterLine more)
      ∨ isBlank c = false ∧ Takes (lexeme c) (fun after => .ok (token, after)) rest after := by
  cases hblank : isBlank c with
  | true =>
      cases (lexeme_blank hblank rest).symm.trans h
      exact .inl ⟨rfl, rfl, rfl⟩
  | false =>
      by_cases hquestion : c = '?'
      · exact .inr (.inl hquestion)
      by_cases hline : c = '-' ∧ rest.head? = some '-'
      · obtain ⟨rfl, hhead⟩ := hline
        obtain ⟨more, rfl⟩ := List.head?_eq_some_iff.mp hhead
        cases h
        exact .inr (.inr (.inl ⟨more, rfl, rfl, rfl, rfl⟩))
      · exact .inr (.inr (.inr ⟨rfl,
          takes_lexeme hblank hquestion (fun hc hhead => hline ⟨hc, hhead⟩) h⟩))

/-- A piece leaves the end of the text. -/
theorem lexeme_suffix {c : Char} {rest after : List Char} {token : Option Token}
    (h : lexeme c rest = .ok (token, after)) : after <:+ rest := by
  obtain ⟨-, -, rfl⟩ | rfl | ⟨more, -, rfl, -, rfl⟩ | ⟨-, taken, rfl, -⟩ := lexeme_cases h
  · exact List.suffix_refl _
  · cases rest with
    | nil =>
        obtain rfl : after = [] := List.length_eq_zero_iff.mp (Nat.le_zero.mp (lexeme_length h))
        exact List.suffix_refl _
    | cons d rest =>
        obtain ⟨token', hread, -⟩ := lexeme_question d
        cases (hread rest).symm.trans h
        exact List.suffix_cons _ _
  · obtain ⟨body, -, hline⟩ | ⟨-, hend⟩ := afterLine_eq more
    · refine ⟨'-' :: (body ++ ['\n']), ?_⟩
      rw [List.cons_append, List.append_assoc, List.singleton_append, ← hline]
    · rw [hend]
      exact List.nil_suffix
  · exact List.suffix_append _ _

/-! ## Blanks around a text -/

/-- A blank is no token. -/
theorem lexed_cons_blank {c : Char} (h : isBlank c = true) (cs : List Char) :
    lexed (c :: cs) = lexed cs := by
  rw [lexed_cons (lexeme_blank h cs)]
  cases lexed cs <;> rfl

theorem lexed_dropBlanks (cs : List Char) : lexed (dropBlanks cs) = lexed cs := by
  induction cs with
  | nil => rfl
  | cons c cs ih =>
      by_cases hc : isBlank c = true
      · rw [lexed_cons_blank hc, ← ih, dropBlanks, List.dropWhile_cons_of_pos hc]
        rfl
      · rw [dropBlanks, List.dropWhile_cons_of_neg hc]

theorem untilBlank_append_blanks {blanks : List Char} (hblanks : ∀ c ∈ blanks, isBlank c = true)
    (cs : List Char) : untilBlank cs = untilBlank (cs ++ blanks) := by
  have hnone : untilBlank [] = untilBlank blanks := by
    cases blanks with
    | nil => rfl
    | cons c blanks => rw [untilBlank_blank (hblanks c List.mem_cons_self)]; rfl
  simpa using untilBlank_append hnone cs

/-- Of blanks behind a line comment either all are left, or the comment takes some of them. -/
theorem afterLine_append_blanks {blanks : List Char} (hblanks : ∀ c ∈ blanks, isBlank c = true)
    (cs : List Char) : afterLine (cs ++ blanks) = afterLine cs ++ blanks
      ∨ afterLine cs = [] ∧ ∀ d ∈ afterLine (cs ++ blanks), isBlank d = true := by
  obtain ⟨body, hbody, hline⟩ | ⟨hnone, hend⟩ := afterLine_eq cs
  · have hclosed : cs ++ blanks = body ++ '\n' :: (afterLine cs ++ blanks) := by
      conv_lhs => rw [hline, List.append_assoc]
      rfl
    refine .inl ?_
    rw [hclosed, afterLine_append hbody]
    rfl
  · -- The comment ends the text, if not with it, then among the blanks.
    refine .inr ⟨hend, fun d hd => hblanks d (mem_of_mem_afterLine ?_)⟩
    rwa [← afterLine_append hnone blanks]

/-- Behind the mark `?` blanks are left, but for one that the mark takes where nothing else is. -/
theorem question_append_blanks {blanks : List Char} (hblanks : ∀ c ∈ blanks, isBlank c = true)
    {rest after : List Char} {token : Option Token}
    (h : lexeme '?' (rest ++ blanks) = .ok (token, after)) :
    ∃ front, lexeme '?' rest = .ok (token, front)
      ∧ (after = front ++ blanks ∨ front = [] ∧ ∀ d ∈ after, isBlank d = true) := by
  cases rest with
  | cons d rest =>
      obtain ⟨token', htoken, -⟩ := lexeme_question d
      cases (htoken _).symm.trans h
      exact ⟨rest, htoken rest, .inl rfl⟩
  | nil =>
      cases blanks with
      | nil => exact ⟨after, h, .inl (List.append_nil after).symm⟩
      | cons d blanks =>
          rw [List.forall_mem_cons] at hblanks
          obtain ⟨token', htoken, hquestion⟩ := lexeme_question d
          cases (htoken _).symm.trans h
          rw [hquestion hblanks.1]
          exact ⟨[], rfl, .inr ⟨rfl, hblanks.2⟩⟩

/-- What a reader takes does not end with a blank, so that blanks at the end of the text are left. -/
theorem Takes.of_append_blanks {ρ : Type} {read result : List Char → ρ}
    {blanks rest after : List Char} (hblanks : ∀ c ∈ blanks, isBlank c = true) (h : Takes read result (rest ++ blanks) after) :
    ∃ front, after = front ++ blanks ∧ read rest = result front := by
  obtain ⟨taken, htaken, hlast, hread⟩ := h
  obtain ⟨tail, rfl, htail⟩ | ⟨front, rfl, rfl⟩ := List.append_eq_append_iff.mp htaken
  · have hnil : tail = [] := by
      obtain hnil | ⟨init, last, rfl⟩ := List.eq_nil_or_concat' tail
      · exact hnil
      · have hsolid := hlast last (by rw [← List.append_assoc, List.getLast?_concat]; rfl)
        rw [hblanks last (by rw [htail]; simp)] at hsolid
        cases hsolid
    subst hnil
    subst htail
    have hsame := untilBlank_append_blanks hblanks []
    exact ⟨[], rfl, by simpa using hread [] hsame⟩
  · exact ⟨front, rfl, hread front (untilBlank_append_blanks hblanks front)⟩

/-- Blanks at the end of the text are no part of a piece.  What it leaves ends with them, unless a
line comment or the mark `?` at the end has taken some of them along. -/
theorem lexeme_append_blanks {blanks : List Char} (hblanks : ∀ c ∈ blanks, isBlank c = true)
    {c : Char} {rest after : List Char} {token : Option Token}
    (h : lexeme c (rest ++ blanks) = .ok (token, after)) :
    ∃ front, lexeme c rest = .ok (token, front)
      ∧ (after = front ++ blanks ∨ front = [] ∧ ∀ d ∈ after, isBlank d = true) := by
  obtain ⟨hblank, rfl, rfl⟩ | rfl | ⟨more, rfl, hrest, rfl, rfl⟩ | ⟨-, htakes⟩ := lexeme_cases h
  · exact ⟨rest, lexeme_blank hblank rest, .inl rfl⟩
  · exact question_append_blanks hblanks h
  · cases rest with
    | nil =>
        rw [List.nil_append] at hrest
        have hmark := hblanks '-' (hrest ▸ List.mem_cons_self)
        exact absurd hmark (by decide)
    | cons d rest =>
        obtain ⟨rfl, rfl⟩ := List.cons.inj hrest
        exact ⟨afterLine rest, rfl, afterLine_append_blanks hblanks rest⟩
  · obtain ⟨front, rfl, hread⟩ := htakes.of_append_blanks hblanks
    exact ⟨front, hread, .inl rfl⟩

/-- Blanks at the end are no part of the last token.  The induction is on the length, since a piece
takes any number of characters. -/
theorem lexed_append_blanks {blanks : List Char} (hblanks : ∀ c ∈ blanks, isBlank c = true)
    {cs : List Char} (h : lexed (cs ++ blanks) = .ok ts) : lexed cs = .ok ts := by
  induction hn : cs.length using Nat.strong_induction_on generalizing cs ts with
  | _ n ih =>
  subst hn
  cases cs with
  | nil =>
      rw [List.nil_append, lexed_blanks hblanks] at h
      exact h
  | cons c rest =>
      rw [List.cons_append] at h
      cases hpiece : lexeme c (rest ++ blanks) with
      | error f =>
          rw [lexed_error hpiece] at h
          cases h
      | ok piece =>
          obtain ⟨token, after⟩ := piece
          rw [lexed_cons hpiece] at h
          obtain ⟨more, hmore, rfl⟩ := map_eq_ok.mp h
          -- Either the piece leaves the blanks, or it is the last and nothing but blanks is left.
          obtain ⟨front, hfront, rfl | ⟨rfl, hleft⟩⟩ := lexeme_append_blanks hblanks hpiece
          · rw [lexed_cons hfront, ih _ (Nat.lt_succ_of_le (lexeme_length hfront)) hmore rfl]
            rfl
          · rw [lexed_blanks hleft] at hmore
            cases hmore
            rw [lexed_cons hfront]
            rfl

/-- The blanks around a text are no part of any token. -/
theorem tokens_trim {text : String} (h : tokens text = .ok ts) : tokens (trim text) = .ok ts := by
  obtain ⟨behind, hbehind, heq⟩ := exists_dropLastBlanks (dropBlanks text.toList)
  rw [tokens_eq_lexed, ← lexed_dropBlanks, heq] at h
  rw [tokens_eq_lexed, trim, String.toList_ofList]
  exact lexed_append_blanks hbehind h

/-! ## Line breaks -/

/-- No carriage return of the text is a part of a token or has anything but blanks behind it in a
line comment. -/
inductive BreaksApart : List Char → Prop
  | nil : BreaksApart []
  /-- One between the pieces. -/
  | carriage {rest : List Char} (more : BreaksApart rest) : BreaksApart ('\r' :: rest)
  /-- None in a piece. -/
  | piece {c : Char} {taken after : List Char} {token : Option Token}
    (read : lexeme c (taken ++ after) = .ok (token, after)) (free : '\r' ∉ c :: taken)
    (more : BreaksApart after) : BreaksApart (c :: (taken ++ after))
  /-- Any of them in a comment that is closed by a mark. -/
  | comment {rest after : List Char} (read : afterComment 1 ' ' rest = some after)
    (more : BreaksApart after) : BreaksApart ('/' :: '*' :: rest)
  /-- One at the end of a line comment, with the line feed behind it or blanks between the two. -/
  | line {body blanks after : List Char} (free : '\r' ∉ body) (inside : '\n' ∉ body ++ blanks)
    (blank : ∀ c ∈ blanks, isBlank c = true) (more : BreaksApart after) :
    BreaksApart ('-' :: '-' :: (body ++ '\r' :: (blanks ++ '\n' :: after)))
  /-- One behind the mark `?`, where it is as good as any other blank. -/
  | question {after : List Char} (more : BreaksApart after) : BreaksApart ('?' :: '\r' :: after)

/-- A text without carriage returns has none in the wrong place. -/
theorem breaksApart_of_free {cs : List Char} (h : lexed cs = .ok ts) (hfree : '\r' ∉ cs) :
    BreaksApart cs := by
  induction hn : cs.length using Nat.strong_induction_on generalizing cs ts with
  | _ n ih =>
  subst hn
  cases cs with
  | nil => exact .nil
  | cons c rest =>
      cases hpiece : lexeme c rest with
      | error f =>
          rw [lexed_error hpiece] at h
          cases h
      | ok piece =>
          obtain ⟨token, after⟩ := piece
          rw [lexed_cons hpiece] at h
          obtain ⟨more, hmore, -⟩ := map_eq_ok.mp h
          obtain ⟨taken, rfl⟩ := lexeme_suffix hpiece
          rw [← List.cons_append, List.mem_append, not_or] at hfree
          refine .piece hpiece hfree.1 (ih _ ?_ hmore hfree.2 rfl)
          exact Nat.lt_succ_of_le (lexeme_length hpiece)

theorem unify_cons {c : Char} (hc : c ≠ '\r') (cs : List Char) :
    unify (c :: cs) = c :: unify cs := by
  rw [unify, if_neg hc]
  exact fun _ heq => absurd heq hc

/-- What has no carriage return stays as it is. -/
theorem unify_append {front : List Char} (hfront : '\r' ∉ front) (cs : List Char) :
    unify (front ++ cs) = front ++ unify cs := by
  induction front with
  | nil => rfl
  | cons c front ih =>
      rw [List.mem_cons, not_or] at hfront
      rw [List.cons_append, unify_cons (Ne.symm hfront.1), ih hfront.2, List.cons_append]

/-- A carriage return becomes a line feed, with the one behind it if there is one. -/
theorem unify_carriage (cs : List Char) : ∃ rest, unify ('\r' :: cs) = '\n' :: rest
    ∧ lexed rest = lexed (unify cs) := by
  cases cs with
  | nil => exact ⟨[], rfl, rfl⟩
  | cons c cs =>
      by_cases hc : c = '\n'
      · subst hc
        refine ⟨unify cs, rfl, ?_⟩
        rw [unify_cons (by decide), lexed_cons_blank (by decide)]
      · refine ⟨unify (c :: cs), ?_, rfl⟩
        rw [unify]
        · rfl
        · rintro rest heq
          exact fun hrest => hc (List.cons.inj hrest).1

theorem lexed_unify_blanks {blanks : List Char} (h : ∀ c ∈ blanks, isBlank c = true)
    (cs : List Char) : lexed (unify (blanks ++ cs)) = lexed (unify cs) := by
  induction blanks with
  | nil => rfl
  | cons c blanks ih =>
      rw [List.forall_mem_cons] at h
      rw [List.cons_append]
      by_cases hc : c = '\r'
      · subst hc
        obtain ⟨rest, hunify, hlexed⟩ := unify_carriage (blanks ++ cs)
        rw [hunify, lexed_cons_blank (by decide), hlexed, ih h.2]
      · rw [unify_cons hc, lexed_cons_blank h.1, ih h.2]

/-- Line breaks are blanks, whichever they are. -/
theorem untilBlank_unify (cs : List Char) : untilBlank (unify cs) = untilBlank cs := by
  fun_induction unify cs with
  | case1 => rfl
  | case2 rest ih => rfl
  | case3 c rest _ ih =>
      by_cases hc : c = '\r'
      · subst hc
        rfl
      · rw [if_neg hc]
        by_cases hblank : isBlank c = true
        · rw [untilBlank_blank hblank, untilBlank_blank hblank]
        · rw [untilBlank_cons (Bool.eq_false_iff.mpr hblank),
            untilBlank_cons (Bool.eq_false_iff.mpr hblank), ih]

theorem afterComment_skip {c : Char} (hstar : c ≠ '*') (hslash : c ≠ '/') (depth : Nat)
    (last : Char) (cs : List Char) :
    afterComment depth last (c :: cs) = afterComment depth c cs := by
  rw [afterComment, if_neg (by simp [hstar]), if_neg (by simp [hslash])]

/-- Line breaks in a comment are no marks of it.  The character before is one that the break was put
for, so the two texts may be at different ones, which are the same mark if any. -/
theorem afterComment_unify {depth : Nat} {last last' : Char} {cs after : List Char}
    (hopen : last' = '/' ↔ last = '/') (hclose : last' = '*' ↔ last = '*')
    (h : afterComment depth last cs = some after) :
    afterComment depth last' (unify cs) = some (unify after) := by
  fun_induction unify cs generalizing depth last last' with
  | case1 => cases h
  -- The two characters of a break become one, which is no mark either.
  | case2 rest ih =>
      rw [afterComment_skip (by decide) (by decide), afterComment_skip (by decide) (by decide)] at h
      rw [afterComment_skip (by decide) (by decide)]
      exact ih Iff.rfl Iff.rfl h
  | case3 c rest _ ih =>
      by_cases hc : c = '\r'
      · subst hc
        rw [afterComment_skip (by decide) (by decide)] at h
        rw [if_pos rfl, afterComment_skip (by decide) (by decide)]
        exact ih (by decide) (by decide) h
      · rw [if_neg hc]
        simp only [afterComment, hopen, hclose] at h ⊢
        split_ifs at h ⊢ with hbegins hends hdepth
        · exact ih Iff.rfl Iff.rfl h
        · rw [Option.some.inj h]
        · exact ih Iff.rfl Iff.rfl h
        · exact ih Iff.rfl Iff.rfl h

/-- A piece is read the same with other line breaks behind it. -/
theorem lexeme_unify {c : Char} {taken after : List Char} {token : Option Token}
    (h : lexeme c (taken ++ after) = .ok (token, after)) :
    lexeme c (taken ++ unify after) = .ok (token, unify after) := by
  obtain ⟨hblank, rfl, hafter⟩ | rfl | ⟨comment, rfl, hcomment, rfl, hafter⟩ | ⟨-, htakes⟩ :=
    lexeme_cases h
  · obtain rfl : taken = [] := by simpa using hafter
    exact lexeme_blank hblank _
  · -- The mark takes the character behind it, so what was taken is that one.
    obtain _ | ⟨d, taken⟩ := taken
    · cases after with
      | nil => exact h
      | cons d after =>
          obtain ⟨token', hread, -⟩ := lexeme_question d
          have hsame := (hread after).symm.trans h
          simp at hsame
    · obtain ⟨token', hread, -⟩ := lexeme_question d
      obtain ⟨rfl, hnone⟩ := Prod.mk.inj (Except.ok.inj ((hread _).symm.trans h))
      obtain rfl : taken = [] := by simpa using hnone
      exact hread _
  · obtain _ | ⟨d, taken⟩ := taken
    · -- Nothing but the mark was taken: the rest would be shorter than itself.
      have hshorter := congrArg List.length hcomment
      have hlength := afterLine_length comment
      rw [← hafter] at hlength
      simp at hshorter
      omega
    · rw [List.cons_append, List.cons.injEq] at hcomment
      obtain ⟨rfl, hcomment⟩ := hcomment
      rw [List.cons_append]
      refine congrArg (fun after => Except.ok (none, after)) ?_
      -- The comment takes its line feed along, if there is one.
      obtain ⟨body, hbody, hline⟩ | ⟨-, hend⟩ := afterLine_eq comment
      · rw [← hafter, ← hcomment, List.append_cons, List.append_cancel_right_eq] at hline
        rw [hline, List.append_assoc, afterLine_append hbody]
        rfl
      · rw [hafter, hend]
        rw [hafter, hend, List.append_nil] at hcomment
        rw [unify, List.append_nil, hcomment, hend]
  · obtain ⟨taken', htaken, -, hread⟩ := htakes
    obtain rfl := List.append_cancel_right htaken
    exact hread _ (untilBlank_unify after)

/-- A text with all its carriage returns between the pieces has the same tokens with line feeds for
them. -/
theorem lexed_unify (h : BreaksApart cs) : lexed (unify cs) = lexed cs := by
  induction h with
  | nil => rfl
  | @carriage rest more ih =>
      obtain ⟨rest', hunify, hlexed⟩ := unify_carriage rest
      rw [hunify, lexed_cons_blank (by decide), lexed_cons_blank (by decide), hlexed, ih]
  | @piece c taken after token read free more ih =>
      rw [← List.cons_append, unify_append free, List.cons_append]
      rw [lexed_cons (lexeme_unify read), List.cons_append, lexed_cons read, ih]
  | @comment rest after read more ih =>
      have hform : ∀ {rest after : List Char}, afterComment 1 ' ' rest = some after →
          lexeme '/' ('*' :: rest) = .ok (none, after) := by
        intro rest after hread
        show commentLexeme (afterComment 1 ' ' rest) = _
        rw [hread]
        rfl
      rw [unify_cons (by decide), unify_cons (by decide),
        lexed_cons (hform (afterComment_unify Iff.rfl Iff.rfl read)), lexed_cons (hform read), ih]
  | @line body blanks after free inside blank more ih =>
      have hform : ∀ rest, lexeme '-' ('-' :: rest) = .ok (none, afterLine rest) := fun _ => rfl
      rw [List.mem_append, not_or] at inside
      obtain ⟨rest, hunify, hlexed⟩ := unify_carriage (blanks ++ '\n' :: after)
      -- The comment now ends before the blanks, which are no tokens.
      have hbreaks : lexed rest = lexed after := by
        rw [hlexed, lexed_unify_blanks blank, unify_cons (by decide),
          lexed_cons_blank (by decide), ih]
      have hinside : '\n' ∉ body ++ '\r' :: blanks := by simp [inside]
      rw [unify_cons (by decide), unify_cons (by decide), unify_append free, hunify,
        lexed_cons (hform _), lexed_cons (hform _), afterLine_append inside.1, List.append_cons,
        ← List.append_assoc, ← List.append_cons, afterLine_append hinside]
      exact congrArg _ hbreaks
  | @question after more ih =>
      obtain ⟨rest, hunify, hlexed⟩ := unify_carriage after
      obtain ⟨token, hread, htoken⟩ := lexeme_question '\r'
      obtain ⟨token', hread', htoken'⟩ := lexeme_question '\n'
      rw [unify_cons (by decide), hunify, lexed_cons (hread' rest), lexed_cons (hread after),
        hlexed, ih, htoken (by decide), htoken' (by decide)]

end QueryReport.Sql
