import QueryReport.Sql.Parser.Basic

/-!
# `QueryReport.Proofs.Sql.Reading.Basic`: running readers on known tokens

A reader is run by giving it tokens; what it comes to is an equation `p ts = .ok (a, rest)`.  The
lemmas here take a reader apart at its first step (`bind_ok`, `map_ok`, …) and say what the readers
of single tokens do where the token is, or is not, the one they look for (`keyword_self`,
`keyword_ne`, …).  `Fails p ts` is failure other than by nesting, which is what `attempt` takes for
an answer.  `separated_entries` reads a list with commas, given a reader of its entries.
-/

set_option autoImplicit false

namespace QueryReport.Sql.Parser

variable {α β : Type} {p : Parser α} {ts rest : List Token} {a : α} {e : Fault}

/-! ## Steps -/

theorem bind_ok (h : p ts = .ok (a, rest)) (f : α → Parser β) : (p >>= f) ts = f a rest := by
  show (p ts >>= fun r => f r.1 r.2) = _
  rw [h]
  rfl

theorem bind_error (h : p ts = .error e) (f : α → Parser β) : (p >>= f) ts = .error e := by
  show (p ts >>= fun r => f r.1 r.2) = _
  rw [h]
  rfl

theorem map_ok (h : p ts = .ok (a, rest)) (f : α → β) : (f <$> p) ts = .ok (f a, rest) := by
  show (p ts >>= fun r => .ok (f r.1, r.2)) = _
  rw [h]
  rfl

/-- What a reader of two steps comes to, its steps come to. -/
theorem bind_eq_ok_iff {f : α → Parser β} {b : β} :
    (p >>= f) ts = .ok (b, rest) ↔ ∃ a us, p ts = .ok (a, us) ∧ f a us = .ok (b, rest) := by
  show (p ts >>= fun r => f r.1 r.2) = _ ↔ _
  cases p ts with
  | error e => exact ⟨nofun, fun ⟨_, _, h, _⟩ => nomatch h⟩
  | ok r =>
      constructor
      · exact fun h => ⟨r.1, r.2, rfl, h⟩
      · rintro ⟨_, _, ⟨⟩, h⟩
        exact h

theorem map_eq_ok_iff {f : α → β} {b : β} :
    (f <$> p) ts = .ok (b, rest) ↔ ∃ a, p ts = .ok (a, rest) ∧ f a = b := by
  show (p ts >>= fun r => .ok (f r.1, r.2)) = _ ↔ _
  cases p ts with
  | error e => exact ⟨nofun, fun ⟨_, h, _⟩ => nomatch h⟩
  | ok r =>
      constructor
      · intro h
        cases h
        exact ⟨r.1, rfl, rfl⟩
      · rintro ⟨_, ⟨⟩, rfl⟩
        rfl

@[simp] theorem pure_run (a : α) (ts : List Token) : (pure a : Parser α) ts = .ok (a, ts) := rfl

@[simp] theorem rest_run (ts : List Token) : Parser.rest ts = .ok (ts, ts) := rfl

@[simp] theorem peek_run (ts : List Token) : peek ts = .ok (ts.head?, ts) := rfl

@[simp] theorem set_run (ts us : List Token) :
    (set us : Parser PUnit) ts = .ok (⟨⟩, us) := rfl

theorem rest_bind (f : List Token → Parser β) (ts : List Token) :
    (Parser.rest >>= f) ts = f ts ts := rfl

/-! ## Failure -/

/-- The reader fails, and not because something nests too deeply. -/
def Fails (p : Parser α) (ts : List Token) : Prop := ∃ e, p ts = .error e ∧ e ≠ .tooDeep

theorem fails_fail (ts : List Token) : Fails (fail : Parser α) ts := by
  cases ts with
  | nil => exact ⟨_, rfl, nofun⟩
  | cons t ts => exact ⟨_, rfl, nofun⟩

theorem Fails.bind (h : Fails p ts) (f : α → Parser β) : Fails (p >>= f) ts := by
  obtain ⟨e, he, hne⟩ := h
  exact ⟨e, bind_error he f, hne⟩

theorem Fails.of_bind_ok {f : α → Parser β} (hp : p ts = .ok (a, rest)) (h : Fails (f a) rest) :
    Fails (p >>= f) ts := by
  obtain ⟨e, he, hne⟩ := h
  exact ⟨e, by rw [bind_ok hp, he], hne⟩

theorem Fails.map (h : Fails p ts) (f : α → β) : Fails (f <$> p) ts := by
  obtain ⟨e, he, hne⟩ := h
  refine ⟨e, ?_, hne⟩
  show (p ts >>= fun r => .ok (f r.1, r.2)) = _
  rw [he]
  rfl

theorem attempt_of_fails (h : Fails p ts) : attempt p ts = .ok (none, ts) := by
  obtain ⟨e, he, hne⟩ := h
  unfold attempt
  rw [he]
  cases e <;> first | rfl | exact absurd rfl hne

theorem outcome_error (h : p ts = .error e) : outcome p ts = .ok (.error e, ts) := by
  unfold outcome
  rw [h]

theorem outcome_ok (h : p ts = .ok (a, rest)) : outcome p ts = .ok (.ok a, rest) := by
  unfold outcome
  rw [h]

/-! ## Keywords and marks -/

/-- A keyword as it is written. -/
def keywordToken (key : String) : Token := .word ⟨key, none⟩ key

theorem ofWord_eq_keywordToken (key : String) (h : Text.upperKey key = key) :
    Token.ofWord key = keywordToken key := by
  unfold Token.ofWord keywordToken
  rw [h]

theorem keyword_self (name : Ident) (key : String) (ts : List Token) :
    keyword key (.word name key :: ts) = .ok (true, ts) := by
  show (if key = key then _ else _ : Parser Bool) (.word name key :: ts) = _
  rw [if_pos rfl]
  rfl

/-- A keyword that is not next is not taken. -/
theorem keyword_ne {key : String} (h : keyOf ts.head? ≠ key) :
    keyword key ts = .ok (false, ts) := by
  unfold keyword
  rw [rest_bind]
  split
  · next name k ts =>
    have hk : k ≠ key := h
    rw [if_neg hk]
    rfl
  · rfl

theorem keywords_ne {key : String} {keys : List String} (h : keyOf ts.head? ≠ key) :
    keywords (key :: keys) ts = .ok (false, ts) := by
  unfold keywords
  rw [rest_bind, if_neg]
  · rfl
  · cases ts with
    | nil => exact nofun
    | cons t ts => exact fun heq => h (List.cons.inj heq).1

theorem oneOf_ne {keys : List String} (h : keyOf ts.head? ∉ keys) :
    oneOf keys ts = .ok (none, ts) := by
  unfold oneOf
  rw [rest_bind]
  split
  · next name k ts =>
    have hk : ¬ keys.contains k = true := fun hc => h (List.contains_iff_mem.mp hc)
    rw [if_neg hk]
    rfl
  · rfl

theorem mark_self (m : String) (ts : List Token) : mark m (.symbol m :: ts) = .ok (true, ts) := by
  show (if m = m then _ else _ : Parser Bool) (.symbol m :: ts) = _
  rw [if_pos rfl]
  rfl

/-- A mark that is not next is not taken. -/
theorem mark_ne {m : String} (h : ts.head? ≠ some (.symbol m)) : mark m ts = .ok (false, ts) := by
  unfold mark
  rw [rest_bind]
  split
  · next s ts =>
    have hs : s ≠ m := fun heq => h (heq ▸ rfl)
    rw [if_neg hs]
    rfl
  · rfl

/-- A word is no mark. -/
theorem mark_word (m w : String) (ts : List Token) :
    mark m (.ofWord w :: ts) = .ok (false, .ofWord w :: ts) := rfl

theorem peekMark_ne {m : String} (h : ts.head? ≠ some (.symbol m)) :
    peekMark m ts = .ok (false, ts) := by
  show Except.ok (ts.head? == some (.symbol m), ts) = _
  rw [beq_eq_false_iff_ne.mpr h]

theorem expect_self (name : Ident) (key : String) (ts : List Token) :
    expect key (.word name key :: ts) = .ok ((), ts) :=
  bind_ok (keyword_self name key ts) _

theorem expectMark_self (m : String) (ts : List Token) :
    expectMark m (.symbol m :: ts) = .ok ((), ts) :=
  bind_ok (mark_self m ts) _

theorem expectMark_fails {m : String} (h : ts.head? ≠ some (.symbol m)) :
    Fails (expectMark m) ts :=
  .of_bind_ok (mark_ne h) (fails_fail ts)

theorem parenthesized_fails (h : ts.head? ≠ some (.symbol "(")) : Fails (parenthesized p) ts :=
  (expectMark_fails h).bind _

theorem parenthesized_ok (h : p ts = .ok (a, .symbol ")" :: rest)) :
    parenthesized p (.symbol "(" :: ts) = .ok (a, rest) := by
  unfold parenthesized
  rw [bind_ok (expectMark_self "(" ts), bind_ok h, bind_ok (expectMark_self ")" rest)]
  rfl

theorem separated_one (h : p ts = .ok (a, rest)) (hrest : rest.head? ≠ some (.symbol ",")) :
    separated p ts = .ok ([a], rest) := by
  unfold separated separatedUpTo
  rw [rest_bind, bind_ok h, bind_ok (mark_ne hrest)]
  rfl

theorem after_ne {key : String} (h : keyOf ts.head? ≠ key) :
    after key p ts = .ok (none, ts) := by
  unfold after
  rw [bind_ok (keyword_ne h)]
  rfl

/-! ## Entries and commas -/

section Entries

variable {ι : Type} {tokens : ι → List Token} {tree : ι → α} {close : String} {items : List ι}

/-- The tokens of entries with commas between them. -/
def commaTokens (tokens : ι → List Token) : List ι → List Token
  | [] => []
  | [a] => tokens a
  | a :: b :: as => tokens a ++ .symbol "," :: commaTokens tokens (b :: as)

/-- Each entry but the last has a comma. -/
theorem length_commaTokens (tokens : ι → List Token) (items : List ι) :
    items.length ≤ (commaTokens tokens items).length + 1 := by
  fun_induction commaTokens tokens items with
  | case1 => exact Nat.zero_le _
  | case2 a => exact Nat.le_add_left _ _
  | case3 a b as ih =>
      simp only [List.length_append, List.length_cons] at ih ⊢
      omega

/-- A list begins with its first entry. -/
theorem commaTokens_cons (tokens : ι → List Token) (a : ι) (as : List ι) (rest : List Token)
    (close : String) : ∃ m ∈ [",", close], ∃ more,
      commaTokens tokens (a :: as) ++ .symbol close :: rest = tokens a ++ .symbol m :: more := by
  cases as with
  | nil => exact ⟨close, by simp, rest, rfl⟩
  | cons b as =>
      refine ⟨",", by simp, commaTokens tokens (b :: as) ++ .symbol close :: rest, ?_⟩
      rw [commaTokens, List.append_assoc, List.cons_append]

theorem separatedUpTo_entries (hclose : close ≠ ",") (hitems : items ≠ [])
    (hread : ∀ a ∈ items, ∀ m ∈ [",", close], ∀ more,
      p (tokens a ++ .symbol m :: more) = .ok (tree a, .symbol m :: more))
    (rest : List Token) {count : Nat} (hcount : items.length ≤ count) :
    separatedUpTo p count (commaTokens tokens items ++ .symbol close :: rest)
      = .ok (items.map tree, .symbol close :: rest) := by
  induction items generalizing count with
  | nil => exact absurd rfl hitems
  | cons a as ih =>
      rw [List.forall_mem_cons] at hread
      obtain ⟨count, rfl⟩ :=
        Nat.exists_eq_add_one_of_ne_zero (Nat.ne_zero_of_lt (Nat.lt_of_succ_le hcount))
      unfold separatedUpTo
      -- One round reads an entry; whether there is another round depends on the mark behind it.
      cases as with
      | nil =>
          have hend : (Token.symbol close :: rest).head? ≠ some (.symbol ",") := by
            simpa using hclose
          rw [commaTokens, bind_ok (hread.1 close (by simp) rest), bind_ok (mark_ne hend)]
          rfl
      | cons b as =>
          have hmore := ih (List.cons_ne_nil b as) hread.2 (Nat.le_of_succ_le_succ hcount)
          rw [commaTokens, List.append_assoc, List.cons_append,
            bind_ok (hread.1 "," (by simp) _), bind_ok (mark_self "," _)]
          show (separatedUpTo p count >>= _) _ = _
          rw [bind_ok hmore]
          rfl

/-- Entries that end where a comma or the mark behind the last of them stands are read one after
the other. -/
theorem separated_entries (hclose : close ≠ ",") (hitems : items ≠ [])
    (hread : ∀ a ∈ items, ∀ m ∈ [",", close], ∀ more,
      p (tokens a ++ .symbol m :: more) = .ok (tree a, .symbol m :: more))
    (rest : List Token) :
    separated p (commaTokens tokens items ++ .symbol close :: rest)
      = .ok (items.map tree, .symbol close :: rest) := by
  unfold separated
  rw [rest_bind]
  refine separatedUpTo_entries hclose hitems hread rest ?_
  have := length_commaTokens tokens items
  rw [List.length_append, List.length_cons]
  omega

end Entries

end QueryReport.Sql.Parser
