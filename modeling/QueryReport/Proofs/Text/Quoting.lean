import QueryReport.Text.Quoting

/-!
# `QueryReport.Proofs.Text.Quoting`: when both ways of quoting agree

`printed` leaves alone what looks like a quote that is escaped already, `doubled` does not look.
They agree exactly on the texts in which every quote stands by itself (`QuotesApart`): not right
after another quote, and not right after a backslash.

* `printed_eq_doubled_iff`: the two agree on a text if and only if its quotes stand apart.
* `printQuoted_eq_quote`: such a text is written between quotes the same way by both.
* `quotesApart_of_append`: nor do they agree up to the closing quote on any other text.
-/

set_option autoImplicit false

namespace QueryReport.Text

/-- No `q` of the text comes right after a `q` or a backslash. -/
def QuotesApart (q : Char) : List Char → Prop
  | [] => True
  | [_] => True
  | c :: d :: rest => (d = q → c ≠ q ∧ c ≠ '\\') ∧ QuotesApart q (d :: rest)

instance (q : Char) : (cs : List Char) → Decidable (QuotesApart q cs)
  | [] => .isTrue trivial
  | [_] => .isTrue trivial
  | _ :: d :: rest =>
    have := instDecidableQuotesApart q (d :: rest)
    inferInstanceAs (Decidable (_ ∧ _))

/-! ## Pieces, and texts without quotes -/

theorem doubled_append (q : Char) (cs ds : List Char) :
    doubled q (cs ++ ds) = doubled q cs ++ doubled q ds := by
  induction cs with
  | nil => rfl
  | cons c cs ih =>
      rw [List.cons_append, doubled, doubled, ih]
      split <;> rfl

theorem doubled_free {q : Char} {cs : List Char} (h : q ∉ cs) : doubled q cs = cs := by
  induction cs with
  | nil => rfl
  | cons c cs ih =>
      rw [List.mem_cons, not_or] at h
      rw [doubled, if_neg (Ne.symm h.1), ih h.2]

theorem printed_free {q : Char} {cs : List Char} (h : q ∉ cs) (escaped : Bool) :
    printed q escaped cs = cs := by
  fun_induction printed q escaped cs <;> simp_all

/-! ## Where both write the same -/

/-- With a backslash before it, a text is printed as it would be elsewhere unless it begins with a
quote. -/
theorem printed_true {q c : Char} (hc : c ≠ q) (rest : List Char) :
    printed q true (c :: rest) = printed q false (c :: rest) := by
  cases rest with
  | nil => simp [printed, hc]
  | cons d rest => simp [printed, hc]

/-- Printing never writes more than doubling. -/
theorem length_printed_le (q : Char) (escaped : Bool) (cs : List Char) :
    (printed q escaped cs).length ≤ (doubled q cs).length := by
  fun_induction printed q escaped cs <;> simp_all [doubled]
  all_goals omega

/-- A quote after a backslash stays single. -/
theorem printed_true_ne (q : Char) (rest : List Char) :
    printed q true (q :: rest) ≠ doubled q (q :: rest) := by
  intro h
  have hlength := congrArg List.length h
  have hle := length_printed_le q true rest
  simp only [printed, doubled, if_true, List.length_cons] at hlength
  omega

/-- A pair of quotes stays a pair. -/
theorem printed_pair_ne (q : Char) (rest : List Char) :
    printed q false (q :: q :: rest) ≠ doubled q (q :: q :: rest) := by
  intro h
  have hlength := congrArg List.length h
  have hle := length_printed_le q false rest
  simp only [printed, doubled, if_true, List.length_cons] at hlength
  omega

/-- Both ways of quoting write the same exactly when no quote looks escaped.  The induction goes by
two characters, since printing decides by the character before. -/
theorem printed_eq_doubled_iff {q : Char} (hq : q ≠ '\\') (cs : List Char) :
    printed q false cs = doubled q cs ↔ QuotesApart q cs := by
  induction cs with
  | nil => exact iff_of_true rfl trivial
  | cons c rest ih =>
      cases rest with
      | nil => exact iff_of_true (by simp [printed, doubled]) trivial
      | cons d rest =>
          by_cases hc : c = q
          · subst hc
            -- A quote is doubled unless another one follows.
            by_cases hd : d = c
            · subst hd
              exact iff_of_false (printed_pair_ne d rest) fun h => (h.1 rfl).1 rfl
            · have hprinted : printed c false (c :: d :: rest)
                  = c :: c :: printed c false (d :: rest) := by
                simp only [printed, if_true, if_neg hd]
              have hdoubled : doubled c (c :: d :: rest) = c :: c :: doubled c (d :: rest) := by
                rw [doubled, if_pos rfl]
              rw [hprinted, hdoubled, List.cons.injEq, List.cons.injEq, QuotesApart, ← ih]
              simp [hd]
          -- Any other character is copied, and a backslash marks the next one as escaped.
          · have hprinted : printed q false (c :: d :: rest)
                = c :: printed q (c == '\\') (d :: rest) := by
              simp only [printed, if_neg hc]
            have hdoubled : doubled q (c :: d :: rest) = c :: doubled q (d :: rest) := by
              rw [doubled, if_neg hc]
            rw [hprinted, hdoubled, List.cons.injEq, QuotesApart]
            by_cases hslash : c = '\\'
            · subst hslash
              by_cases hd : d = q
              · subst hd
                refine iff_of_false (fun h => ?_) fun h => (h.1 rfl).2 rfl
                exact printed_true_ne d rest h.2
              · rw [show ('\\' == '\\') = true from rfl, printed_true hd, ih]
                simp [hd]
            · rw [show (c == '\\') = false by simpa using hslash, ih]
              simp [hc, hslash]

theorem printQuoted_eq_quote {text : String} (h : QuotesApart '\'' text.toList) :
    printQuoted '\'' text = quote text := by
  unfold printQuoted quote
  rw [(printed_eq_doubled_iff (by decide) text.toList).mpr h]

/-! ## Up to the closing quote -/

theorem filter_doubled (q : Char) (cs : List Char) :
    (doubled q cs).filter (· ≠ q) = cs.filter (· ≠ q) := by
  fun_induction doubled q cs <;> simp_all

theorem filter_printed (q : Char) (escaped : Bool) (cs : List Char) :
    (printed q escaped cs).filter (· ≠ q) = cs.filter (· ≠ q) := by
  fun_induction printed q escaped cs <;> simp_all

/-- What is printed with a quote and something else behind it is what doubling writes with a quote
and something else behind it only if both write the same.  Printing can only write fewer quotes, and
the quotes it lacks would have to stand behind the closing one. -/
theorem quotesApart_of_append {q : Char} (hq : q ≠ '\\') {cs more after : List Char}
    (h : printed q false cs ++ q :: more = doubled q cs ++ q :: after)
    (hmore : more.head? ≠ some q) : QuotesApart q cs := by
  obtain ⟨lacking, hdoubled, hquotes⟩ | ⟨extra, hprinted, -⟩ := List.append_eq_append_iff.mp h
  · cases lacking with
    | nil =>
        rw [List.append_nil] at hdoubled
        exact (printed_eq_doubled_iff hq cs).mp hdoubled.symm
    | cons c lacking =>
        -- All that doubling writes besides is quotes, and only one of them is there.
        have hfilter := congrArg (List.filter (· ≠ q)) hdoubled
        rw [List.filter_append, filter_doubled, filter_printed, List.self_eq_append_right,
          List.filter_eq_nil_iff] at hfilter
        rw [List.cons_append, List.cons.injEq] at hquotes
        cases lacking with
        | nil =>
            rw [hquotes.2] at hmore
            exact absurd rfl hmore
        | cons d lacking =>
            have hd : d = q := by simpa using hfilter d (by simp)
            rw [hquotes.2, hd] at hmore
            exact absurd rfl hmore
  -- Printing would have written more than doubling, which it never does.
  · have hlength := congrArg List.length hprinted
    have hle := length_printed_le q false cs
    rw [List.length_append] at hlength
    have hextra : extra = [] := List.length_eq_zero_iff.mp (by omega)
    rw [hextra, List.append_nil] at hprinted
    exact (printed_eq_doubled_iff hq cs).mp hprinted

end QueryReport.Text
