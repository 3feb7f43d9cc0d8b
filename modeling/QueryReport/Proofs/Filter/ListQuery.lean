import QueryReport.Filter.Definition
import QueryReport.Proofs.Sql.Dialect.Ending
import QueryReport.Proofs.Sql.Lexing.Locality

/-!
# `QueryReport.Proofs.Filter.ListQuery`: what is looked for in the query of a list

Two things are looked for in the query that a list of options comes from: the words of statements
that change data, and the words `ORDER BY`.

* `HoldsWord` says where a whole word stands in a text: nothing right before or behind it is a word
  character.  `hasWholeWord_iff` is the search for it, and `changesData_iff` the check for all three
  words.
* `HoldsPair` says where two words follow one another.  `hasPair_iff` is the search, and
  `ordersRows_iff` the check for `ORDER BY`.
-/

set_option autoImplicit false

namespace QueryReport.Filter.ListSource

open QueryReport.Text
open QueryReport.Sql.Dialect (Spells afterWord?_eq_some)

variable {word first second cs : List Char}

/-! ## Whole words -/

/-- The word stands in the text, in any case, with no word character right before or behind it. -/
def HoldsWord (word text : List Char) : Prop :=
  ∃ before found behind, text = before ++ (found ++ behind) ∧ Spells word found
    ∧ (∀ c ∈ before.getLast?, isWordChar c = false) ∧ ∀ c ∈ behind.head?, isWordChar c = false

theorem startsWithWholeWord_iff : startsWithWholeWord word cs = true ↔
    ∃ found behind, cs = found ++ behind ∧ Spells word found
      ∧ ∀ c ∈ behind.head?, isWordChar c = false := by
  unfold startsWithWholeWord
  constructor
  · intro h
    cases hword : afterWord? word cs with
    | none =>
        rw [hword] at h
        cases h
    | some behind =>
        rw [hword] at h
        obtain ⟨found, hcs, hfound⟩ := afterWord?_eq_some.mp hword
        refine ⟨found, behind, hcs, hfound, ?_⟩
        cases behind with
        | nil => exact fun c hc => nomatch hc
        | cons c behind =>
            rintro d ⟨⟩
            simpa using h
  · rintro ⟨found, behind, hcs, hfound, hbehind⟩
    rw [afterWord?_eq_some.mpr ⟨found, hcs, hfound⟩]
    cases behind with
    | nil => rfl
    | cons c behind =>
        show (!isWordChar c) = true
        rw [hbehind c rfl]
        rfl

/-- The search goes on behind any character; `inWord` stands for the character before the text. -/
theorem hasWholeWord_iff {words : List (List Char)} (hwords : [] ∉ words) {inWord : Bool} :
    hasWholeWord words inWord cs = true ↔
      ∃ word ∈ words, ∃ before found behind, cs = before ++ (found ++ behind) ∧ Spells word found
        ∧ (before = [] → inWord = false) ∧ (∀ c ∈ before.getLast?, isWordChar c = false)
        ∧ ∀ c ∈ behind.head?, isWordChar c = false := by
  induction cs generalizing inWord with
  | nil =>
      refine ⟨nofun, ?_⟩
      rintro ⟨word, hword, before, found, behind, heq, hfound, -⟩
      -- Only the empty word could be found in an empty text.
      obtain ⟨-, heq⟩ := List.append_eq_nil_iff.mp heq.symm
      obtain ⟨rfl, -⟩ := List.append_eq_nil_iff.mp heq
      cases hfound
      exact absurd hword hwords
  | cons c rest ih =>
      unfold hasWholeWord
      rw [Bool.or_eq_true, Bool.and_eq_true, List.any_eq_true, ih]
      constructor
      · rintro (⟨hstart, word, hword, hfound⟩ | ⟨word, hword, before, found, behind, rfl, hfound,
          hinside, hbefore, hbehind⟩)
        · obtain ⟨found, behind, hcs, hfound, hbehind⟩ := startsWithWholeWord_iff.mp hfound
          exact ⟨word, hword, [], found, behind, hcs, hfound, fun _ => by simpa using hstart,
            fun d hd => (nomatch hd), hbehind⟩
        · refine ⟨word, hword, c :: before, found, behind, rfl, hfound, nofun, ?_, hbehind⟩
          cases before with
          | nil =>
              rintro d ⟨⟩
              exact hinside rfl
          | cons b before =>
              rw [List.getLast?_cons_cons]
              exact hbefore
      · rintro ⟨word, hword, before, found, behind, heq, hfound, hinside, hbefore, hbehind⟩
        cases before with
        | nil =>
            refine .inl ⟨by rw [hinside rfl]; rfl, word, hword, ?_⟩
            exact startsWithWholeWord_iff.mpr ⟨found, behind, heq, hfound, hbehind⟩
        | cons b before =>
            cases heq
            refine .inr ⟨word, hword, before, found, behind, rfl, hfound, ?_, ?_, hbehind⟩
            · rintro rfl
              exact hbefore c rfl
            · cases before with
              | nil => exact fun d hd => nomatch hd
              | cons b before =>
                  rw [List.getLast?_cons_cons] at hbefore
                  exact hbefore

/-- A query could change data if one of the three words stands in it. -/
theorem changesData_iff {sql : String} :
    changesData sql = true ↔ ∃ word ∈ changingWords, HoldsWord word sql.toList := by
  have hwords : [] ∉ changingWords := by decide
  unfold changesData
  rw [hasWholeWord_iff hwords]
  refine exists_congr fun word => and_congr_right fun _ => ?_
  refine exists_congr fun before => exists_congr fun found => exists_congr fun behind => ?_
  exact and_congr_right fun _ => and_congr_right fun _ => and_iff_right fun _ => rfl

/-! ## Pairs of words -/

/-- The two words follow one another in the text, in any case, with blanks between them. -/
def HoldsPair (first second text : List Char) : Prop :=
  ∃ before opening blanks closing behind,
    text = before ++ (opening ++ (blanks ++ (closing ++ behind)))
      ∧ Spells first opening ∧ blanks ≠ [] ∧ (∀ c ∈ blanks, isBlank c = true)
      ∧ Spells second closing

/-- The second word begins behind all of the blanks, as it has none itself. -/
theorem startsWithPair_iff {letter : Char} {tail : List Char}
    (hletter : ∀ c, isLetter letter c = true → isBlank c = false) :
    startsWithPair first (letter :: tail) cs = true ↔
      ∃ opening blanks closing behind, cs = opening ++ (blanks ++ (closing ++ behind))
        ∧ Spells first opening ∧ blanks ≠ [] ∧ (∀ c ∈ blanks, isBlank c = true)
        ∧ Spells (letter :: tail) closing := by
  unfold startsWithPair
  constructor
  · intro h
    cases hword : afterWord? first cs with
    | none =>
        rw [hword] at h
        cases h
    | some rest =>
        rw [hword] at h
        obtain ⟨opening, rfl, hopening⟩ := afterWord?_eq_some.mp hword
        cases rest with
        | nil => cases h
        | cons c rest =>
            obtain ⟨hblank, hclosing⟩ := Bool.and_eq_true_iff.mp h
            obtain ⟨behind, hbehind⟩ := Option.isSome_iff_exists.mp hclosing
            obtain ⟨closing, hrest, hclosing⟩ := afterWord?_eq_some.mp hbehind
            refine ⟨opening, (c :: rest).takeWhile isBlank, closing, behind, ?_, hopening, ?_,
              fun d hd => Sql.Dialect.isBlank_of_mem_takeWhile hd, hclosing⟩
            · rw [← hrest, dropBlanks, List.takeWhile_append_dropWhile]
            · rw [List.takeWhile_cons_of_pos hblank]
              exact List.cons_ne_nil _ _
  · rintro ⟨opening, blanks, closing, behind, rfl, hopening, hsome, hblanks, hclosing⟩
    rw [afterWord?_eq_some.mpr ⟨opening, rfl, hopening⟩]
    obtain ⟨c, blanks, rfl⟩ := List.exists_cons_of_ne_nil hsome
    show (isBlank c && _) = true
    rw [hblanks c List.mem_cons_self, Bool.true_and]
    -- The blanks end where the second word begins, whose first letter is none.
    have hdrop : dropBlanks (c :: blanks ++ (closing ++ behind)) = closing ++ behind := by
      cases hclosing with
      | cons hfirst _ =>
          rw [dropBlanks, List.dropWhile_append_of_pos hblanks, List.cons_append,
            List.dropWhile_cons_of_neg (Bool.eq_false_iff.mp (hletter _ hfirst))]
    show (afterWord? _ (dropBlanks (c :: blanks ++ (closing ++ behind)))).isSome = true
    rw [hdrop, afterWord?_eq_some.mpr ⟨closing, rfl, hclosing⟩]
    rfl

theorem hasPair_iff {letter : Char} {tail : List Char} (hfirst : first ≠ [])
    (hletter : ∀ c, isLetter letter c = true → isBlank c = false) :
    hasPair first (letter :: tail) cs = true ↔ HoldsPair first (letter :: tail) cs := by
  induction cs with
  | nil =>
      refine ⟨nofun, ?_⟩
      rintro ⟨before, opening, blanks, closing, behind, heq, hopening, -⟩
      obtain ⟨-, heq⟩ := List.append_eq_nil_iff.mp heq.symm
      obtain ⟨rfl, -⟩ := List.append_eq_nil_iff.mp heq
      cases hopening
      exact absurd rfl hfirst
  | cons c rest ih =>
      unfold hasPair
      rw [Bool.or_eq_true, startsWithPair_iff hletter, ih]
      constructor
      · rintro (⟨opening, blanks, closing, behind, heq, h⟩ | ⟨before, opening, blanks, closing,
          behind, rfl, h⟩)
        · exact ⟨[], opening, blanks, closing, behind, heq, h⟩
        · exact ⟨c :: before, opening, blanks, closing, behind, rfl, h⟩
      · rintro ⟨before, opening, blanks, closing, behind, heq, h⟩
        cases before with
        | nil => exact .inl ⟨opening, blanks, closing, behind, heq, h⟩
        | cons b before =>
            cases heq
            exact .inr ⟨before, opening, blanks, closing, behind, rfl, h⟩

theorem ordersRows_iff {sql : String} :
    ordersRows sql = true ↔ HoldsPair "order".toList "by".toList sql.toList :=
  hasPair_iff (by decide) fun _ hc => Sql.not_blank_of_class (by decide) (by decide) hc

end QueryReport.Filter.ListSource
