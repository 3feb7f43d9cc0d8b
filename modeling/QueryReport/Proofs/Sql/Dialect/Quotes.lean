import QueryReport.Proofs.Sql.Dialect.Top

/-!
# `QueryReport.Proofs.Sql.Dialect.Quotes`: text without quotes around names

For T-SQL the double quotes are left out of a text, but for those in a text between single quotes.
`Undelimited` says of a text that it has no others.

* `undelimited_stripQuotes` and `Undelimited.stripQuotes_eq`: leaving out quotes leads to such texts,
  and changes nothing in them.
* `undelimited_limitToTop`: moving a limit to the front does not touch what is between quotes.
* `undelimited_delimit` is the result for whole texts.
-/

set_option autoImplicit false

namespace QueryReport.Sql.Dialect

open QueryReport.Text

variable {cs inner rest : List Char}

/-- Double quotes stand only between two single quotes.  A single quote that has no partner opens
nothing. -/
inductive Undelimited : List Char → Prop where
  | nil : Undelimited []
  | between {inner rest : List Char} (hinner : '\'' ∉ inner) (h : Undelimited rest) :
      Undelimited ('\'' :: (inner ++ '\'' :: rest))
  | other {c : Char} {rest : List Char} (hc : c ≠ '"') (halone : c = '\'' → '\'' ∉ rest)
      (h : Undelimited rest) : Undelimited (c :: rest)

/-! ## Leaving out quotes -/

theorem stripQuotes_inside (hinner : '\'' ∉ inner) (rest : List Char) :
    stripQuotes true (inner ++ '\'' :: rest) = inner ++ '\'' :: stripQuotes false rest := by
  induction inner with
  | nil => rfl
  | cons c inner ih =>
      rw [List.mem_cons, not_or] at hinner
      rw [List.cons_append, stripQuotes, if_pos rfl, decide_eq_true (Ne.symm hinner.1),
        ih hinner.2, List.cons_append]

/-- A text between single quotes is left as it is. -/
theorem stripQuotes_between (hinner : '\'' ∉ inner) (rest : List Char) :
    stripQuotes false ('\'' :: (inner ++ '\'' :: rest))
      = '\'' :: (inner ++ '\'' :: stripQuotes false rest) := by
  have hpartner : (inner ++ '\'' :: rest).contains '\'' = true := by simp
  rw [stripQuotes, if_neg Bool.false_ne_true, if_pos rfl, hpartner, stripQuotes_inside hinner]

/-- A quote without a partner opens nothing. -/
theorem stripQuotes_alone (h : '\'' ∉ rest) :
    stripQuotes false ('\'' :: rest) = '\'' :: stripQuotes false rest := by
  have hnone : rest.contains '\'' = false := by simpa using h
  rw [stripQuotes, if_neg Bool.false_ne_true, if_pos rfl, hnone]

theorem stripQuotes_other {c : Char} (hsingle : c ≠ '\'') (hdouble : c ≠ '"') (rest : List Char) :
    stripQuotes false (c :: rest) = c :: stripQuotes false rest := by
  rw [stripQuotes, if_neg Bool.false_ne_true, if_neg hsingle, if_neg hdouble]

theorem stripQuotes_double (rest : List Char) :
    stripQuotes false ('"' :: rest) = stripQuotes false rest := by
  rw [stripQuotes, if_neg Bool.false_ne_true, if_neg (by decide), if_pos rfl]

theorem mem_of_mem_stripQuotes {c : Char} {inside : Bool} (h : c ∈ stripQuotes inside cs) :
    c ∈ cs := by
  induction cs generalizing inside with
  | nil => exact h
  | cons d cs ih =>
      unfold stripQuotes at h
      split at h
      · exact (List.mem_cons.mp h).elim (fun heq => heq ▸ .head _) fun h => .tail _ (ih h)
      · split at h
        · exact (List.mem_cons.mp h).elim (fun heq => heq ▸ .head _) fun h => .tail _ (ih h)
        · split at h
          · exact .tail _ (ih h)
          · exact (List.mem_cons.mp h).elim (fun heq => heq ▸ .head _) fun h => .tail _ (ih h)

theorem Undelimited.stripQuotes_eq (h : Undelimited cs) : stripQuotes false cs = cs := by
  induction h with
  | nil => rfl
  | between hinner _ ih => rw [stripQuotes_between hinner, ih]
  | @other c rest hc halone _ ih =>
      by_cases hsingle : c = '\''
      · subst hsingle
        rw [stripQuotes_alone (halone rfl), ih]
      · rw [stripQuotes_other hsingle hc, ih]

/-- The induction is on the length, since a text between quotes is gone over as a whole. -/
theorem undelimited_stripQuotes (cs : List Char) : Undelimited (stripQuotes false cs) := by
  induction hn : cs.length using Nat.strong_induction_on generalizing cs with
  | _ n ih =>
  subst hn
  cases cs with
  | nil => exact .nil
  | cons c rest =>
      have hrest := ih rest.length (Nat.lt_succ_self _) rest rfl
      by_cases hsingle : c = '\''
      · subst hsingle
        by_cases hpartner : '\'' ∈ rest
        · obtain ⟨inner, after, rfl, hinner⟩ := List.eq_append_cons_of_mem hpartner
          have hafter : after.length < ('\'' :: (inner ++ '\'' :: after)).length := by
            simp only [List.length_cons, List.length_append]
            omega
          -- What stands between single quotes is kept as it is.
          rw [stripQuotes_between hinner]
          exact .between hinner (ih after.length hafter after rfl)
        · rw [stripQuotes_alone hpartner]
          exact .other (by decide) (fun _ hmem => hpartner (mem_of_mem_stripQuotes hmem)) hrest
      · by_cases hdouble : c = '"'
        · subst hdouble
          -- A double quote goes.
          rw [stripQuotes_double]
          exact hrest
        · rw [stripQuotes_other hsingle hdouble]
          exact .other hdouble (fun heq => absurd heq hsingle) hrest

theorem undelimited_iff : Undelimited cs ↔ stripQuotes false cs = cs :=
  ⟨Undelimited.stripQuotes_eq, fun h => h ▸ undelimited_stripQuotes cs⟩

/-! ## Moving a limit -/

/-- A character that is no quote. -/
def isPlain (c : Char) : Prop := c ≠ '\'' ∧ c ≠ '"'

theorem plain_of_isBlank {c : Char} (h : isBlank c = true) : isPlain c := by
  constructor <;> rintro rfl <;> exact absurd h (by decide)

theorem plain_of_isDecimal {c : Char} (h : isDecimal c = true) : isPlain c := by
  constructor <;> rintro rfl <;> exact absurd h (by decide)

theorem plain_of_mayLimit {c : Char} (h : mayLimit c = true) : isPlain c := by
  constructor <;> rintro rfl <;> exact absurd h (by decide)

theorem plain_of_spells {word : List Char} (hword : word.all fun letter =>
    !isLetter letter '\'' && !isLetter letter '"') (h : Spells word cs) : ∀ c ∈ cs, isPlain c := by
  intro c hc
  obtain ⟨letter, hletter, heq⟩ := h.letter hc
  have hneither := List.all_eq_true.mp hword letter hletter
  rw [Bool.and_eq_true, Bool.not_eq_true', Bool.not_eq_true'] at hneither
  constructor
  · rintro rfl
    rw [hneither.1] at heq
    cases heq
  · rintro rfl
    rw [hneither.2] at heq
    cases heq

theorem wordLength?_plain {word : List Char} {n : Nat} (hword : word.all fun letter =>
    !isLetter letter '\'' && !isLetter letter '"') (h : wordLength? word cs = some n) :
    ∀ c ∈ cs.take n, isPlain c := by
  unfold wordLength? at h
  rw [Option.bind_eq_bind, Option.bind_eq_some_iff] at h
  obtain ⟨after, hafter, h⟩ := h
  rw [Option.bind_eq_bind, Option.bind_eq_some_iff] at h
  obtain ⟨blanks, hblanks, h⟩ := h
  obtain ⟨spelled, rfl, hspelled⟩ := afterWord?_eq_some.mp hafter
  have hcount : blanks = (after.takeWhile isBlank).length := by
    unfold blanksLength? at hblanks
    split at hblanks
    · cases hblanks
    · exact (Option.some.inj hblanks).symm
  -- What is measured is the word and the blanks behind it.
  have htake : (spelled ++ after).take n = spelled ++ after.takeWhile isBlank := by
    rw [← Option.some.inj h, hspelled.length_eq, List.take_length_add_append, hcount]
    congr 1
    exact (List.prefix_iff_eq_take.mp (List.takeWhile_prefix _)).symm
  rw [htake]
  intro c hc
  rcases List.mem_append.mp hc with hc | hc
  · exact plain_of_spells hword hspelled c hc
  · exact plain_of_isBlank (isBlank_of_mem_takeWhile hc)

/-- What stands in front of a `TOP` has no quotes. -/
theorem selectLength?_plain {n : Nat} (h : selectLength? cs = some n) :
    ∀ c ∈ cs.take n, isPlain c := by
  unfold selectLength? at h
  dsimp only at h
  rw [Option.bind_eq_bind, Option.bind_eq_some_iff] at h
  obtain ⟨select, hselect, h⟩ := h
  -- Up to the first word there are blanks only.
  have hlead : ∀ c ∈ cs.take ((cs.takeWhile isBlank).length + select), isPlain c := by
    rw [List.take_add]
    intro c hc
    rcases List.mem_append.mp hc with hc | hc
    · rw [← List.prefix_iff_eq_take.mp (List.takeWhile_prefix _)] at hc
      exact plain_of_isBlank (isBlank_of_mem_takeWhile hc)
    · exact wordLength?_plain (by decide) hselect c hc
  split at h
  · next distinct hdistinct =>
    cases h
    rw [List.take_add]
    intro c hc
    rcases List.mem_append.mp hc with hc | hc
    · exact hlead c hc
    · exact wordLength?_plain (by decide) hdistinct c hc
  · cases h
    exact hlead

/-- The limit is taken from the end and put in front as a `TOP`, and neither has quotes. -/
theorem undelimited_limitToTop (h : Undelimited cs) : Undelimited (limitToTop cs) := by
  unfold limitToTop
  split
  · exact h
  · next before digits hsplit =>
    obtain ⟨hdigits, gap, blank, clause, hcs, hgap, hblank, hclause⟩ := splitLimit?_eq_some hsplit
    -- The part that is cut off is plain, so stripping the whole strips the front.
    have hbefore : stripQuotes false before = before := by
      have hend : ∀ c ∈ gap ++ blank :: clause, isPlain c := by
        intro c hc
        rw [List.mem_append, List.mem_cons] at hc
        rcases hc with hc | rfl | hc
        · exact plain_of_isBlank (hgap c hc)
        · exact plain_of_isBlank hblank
        · exact plain_of_mayLimit (hclause.mayLimit hc)
      have hstrip := undelimited_iff.mp h
      rw [hcs, stripQuotes_append hend false before nofun] at hstrip
      exact List.append_cancel_right hstrip
    split
    · exact undelimited_iff.mpr hbefore
    · next n hn =>
      have hfront := selectLength?_plain hn
      have hback : stripQuotes false (before.drop n) = before.drop n := by
        rw [← List.take_append_drop n before, stripQuotes_lead hfront] at hbefore
        exact List.append_cancel_left hbefore
      -- The words up to the `TOP` and the count behind it are plain as well.
      have htop : ∀ c ∈ before.take n ++ "TOP ".toList ++ digits ++ [' '], isPlain c := by
        intro c hc
        simp only [List.mem_append, List.mem_singleton] at hc
        rcases hc with ((hc | hc) | hc) | rfl
        · exact hfront c hc
        · exact noQuotes_of_all (by decide) c hc
        · exact plain_of_isDecimal (hdigits c hc)
        · exact plain_of_isBlank rfl
      rw [undelimited_iff, List.append_cons, stripQuotes_lead htop, hback]

/-- No text for T-SQL has double quotes around a name. -/
theorem undelimited_delimit {text delimited : String} {skips : Bool}
    (h : Dialect.delimit .tsql text skips = .ok delimited) : Undelimited delimited.toList := by
  unfold Dialect.delimit at h
  dsimp only at h
  split at h
  · cases h
  · cases h
    rw [String.toList_ofList]
    exact undelimited_limitToTop (undelimited_stripQuotes _)

end QueryReport.Sql.Dialect
