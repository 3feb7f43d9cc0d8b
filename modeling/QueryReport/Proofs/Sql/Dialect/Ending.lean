import Mathlib.Data.List.Forall2
import QueryReport.Proofs.Decimal.Numeral
import QueryReport.Proofs.Sql.Lexing.Pieces
import QueryReport.Sql.Dialect

/-!
# `QueryReport.Proofs.Sql.Dialect.Ending`: texts that end in a limit

For T-SQL a row limit is found by looking at the end of the query's text, once the quotes around
names are left out: a blank, the word `LIMIT` and a number (`EndsInLimit`).

* `endsInLimit_of_splitLimit` says that nothing else is found, `splitLimit?_limit` that a limit is.
* `mayLimit` are the characters such an end consists of.  Any other character stands in front of it
  (`EndsInLimit.of_append_mark`), so how a text ends is decided by what follows the last keyword or
  mark.  `Cuts` says so of a text in front of another one, and `separates` is a check for it.
-/

set_option autoImplicit false

namespace QueryReport.Sql.Dialect

open QueryReport.Text

variable {c : Char} {cs front rest word : List Char}

/-! ## Words -/

/-- The characters spell a word, in any case. -/
def Spells (word cs : List Char) : Prop :=
  List.Forall₂ (fun letter c => isLetter letter c = true) word cs

theorem Spells.letter (h : Spells word cs) (hc : c ∈ cs) :
    ∃ letter ∈ word, isLetter letter c = true := by
  unfold Spells at h
  induction h with
  | nil => cases hc
  | cons hletter _ ih =>
      cases hc with
      | head => exact ⟨_, List.mem_cons_self, hletter⟩
      | tail _ hc =>
          obtain ⟨letter, hmem, hletter⟩ := ih hc
          exact ⟨letter, List.mem_cons_of_mem _ hmem, hletter⟩

theorem afterWord?_eq_some : afterWord? word cs = some rest ↔
    ∃ front, cs = front ++ rest ∧ Spells word front := by
  induction word generalizing cs with
  | nil =>
      constructor
      · rintro ⟨⟩
        exact ⟨[], rfl, .nil⟩
      · rintro ⟨front, rfl, hfront⟩
        cases hfront
        rfl
  | cons letter word ih =>
      cases cs with
      | nil =>
          refine ⟨nofun, ?_⟩
          rintro ⟨front, heq, hfront⟩
          cases hfront
          cases heq
      | cons c cs =>
          -- Either way the first letters decide, and the rest is the induction hypothesis.
          unfold afterWord?
          split
          · next hc =>
            rw [ih]
            constructor
            · rintro ⟨front, rfl, hfront⟩
              exact ⟨c :: front, rfl, .cons hc hfront⟩
            · rintro ⟨front, heq, hfront⟩
              cases hfront with
              | cons hletter hfront =>
                  cases heq
                  exact ⟨_, rfl, hfront⟩
          · next hc =>
            refine ⟨nofun, ?_⟩
            rintro ⟨front, heq, hfront⟩
            cases hfront with
            | cons hletter hfront =>
                cases heq
                exact absurd hletter hc

/-! ## Limits -/

/-- The word `LIMIT` and a number, with blanks between them and perhaps after them. -/
inductive IsLimit : List Char → Prop where
  | intro {word blanks digits trail : List Char} (hword : Spells "limit".toList word)
      (hsome : blanks ≠ []) (hblanks : ∀ c ∈ blanks, isBlank c = true)
      (hnumber : digits ≠ []) (hdigits : ∀ c ∈ digits, isDecimal c = true)
      (htrail : ∀ c ∈ trail, isBlank c = true) :
      IsLimit (word ++ (blanks ++ (digits ++ trail)))

/-- The text ends in a limit that has a blank before it. -/
def EndsInLimit (cs : List Char) : Prop :=
  ∃ before blank clause, cs = before ++ blank :: clause ∧ isBlank blank = true ∧ IsLimit clause

/-- Whether a limit may have the character in it. -/
def mayLimit (c : Char) : Bool :=
  isBlank c || isDecimal c || "limit".toList.any fun letter => isLetter letter c

theorem IsLimit.mayLimit (h : IsLimit cs) (hc : c ∈ cs) : mayLimit c = true := by
  obtain ⟨hword, -, hblanks, -, hdigits, htrail⟩ := h
  unfold Dialect.mayLimit
  rw [Bool.or_eq_true, Bool.or_eq_true]
  simp only [List.mem_append] at hc
  rcases hc with hc | hc | hc | hc
  · obtain ⟨letter, hletter, heq⟩ := hword.letter hc
    exact .inr (List.any_eq_true.mpr ⟨letter, hletter, heq⟩)
  · exact .inl (.inl (hblanks c hc))
  · exact .inl (.inr (hdigits c hc))
  · exact .inl (.inl (htrail c hc))

theorem IsLimit.head (h : IsLimit (c :: cs)) : isLetter 'l' c = true := by
  generalize hcs : c :: cs = clause at h
  obtain ⟨hword, -⟩ := h
  cases hword with
  | cons hletter _ =>
      cases hcs
      exact hletter

namespace EndsInLimit

theorem append (h : EndsInLimit cs) (front : List Char) : EndsInLimit (front ++ cs) := by
  obtain ⟨before, blank, clause, rfl, hblank, hclause⟩ := h
  exact ⟨front ++ before, blank, clause, (List.append_assoc ..).symm, hblank, hclause⟩

/-- The first character belongs to the limit only if it is the blank before it. -/
theorem of_cons (h : EndsInLimit (c :: cs)) :
    EndsInLimit cs ∨ isBlank c = true ∧ IsLimit cs := by
  obtain ⟨before, blank, clause, heq, hblank, hclause⟩ := h
  cases before with
  | nil =>
      cases heq
      exact .inr ⟨hblank, hclause⟩
  | cons b before =>
      cases heq
      exact .inl ⟨before, blank, clause, rfl, hblank, hclause⟩

theorem of_append_mark (hc : mayLimit c = false) (h : EndsInLimit (front ++ c :: cs)) :
    EndsInLimit cs := by
  induction front with
  | nil =>
      obtain h | ⟨hblank, -⟩ := h.of_cons
      · exact h
      · rw [mayLimit, hblank] at hc
        cases hc
  | cons b front ih =>
      obtain h | ⟨-, hlimit⟩ := h.of_cons
      · exact ih h
      · -- A limit that begins in front of the mark has the mark in it.
        have hmay := hlimit.mayLimit (List.mem_append_right front List.mem_cons_self)
        rw [hc] at hmay
        cases hmay

theorem of_append_word (hfront : ∀ c ∈ front, isBlank c = false) (h : EndsInLimit (front ++ cs)) :
    EndsInLimit cs := by
  induction front with
  | nil => exact h
  | cons b front ih =>
      rw [List.forall_mem_cons] at hfront
      obtain h | ⟨hblank, -⟩ := h.of_cons
      · exact ih hfront.2 h
      · rw [hfront.1] at hblank
        cases hblank

end EndsInLimit

/-! ## Finding a limit -/

/-- A word that is found before the end has a blank in front of it. -/
theorem beforeWord?_eq_some {before : List Char} (h : beforeWord? word cs = some before) :
    ∃ spelled blank more, cs = spelled ++ blank :: more ∧ Spells word.reverse spelled
      ∧ isBlank blank = true ∧ before = dropBlanks more := by
  unfold beforeWord? at h
  split at h
  · next blank more hword =>
    obtain ⟨spelled, heq, hspelled⟩ := afterWord?_eq_some.mp hword
    split at h
    · next hblank =>
      cases h
      exact ⟨spelled, blank, more, heq, hspelled, hblank, rfl⟩
    · cases h
  · cases h

theorem isBlank_of_mem_takeWhile (hc : c ∈ cs.takeWhile isBlank) : isBlank c = true :=
  List.all_eq_true.mp (List.all_takeWhile ..) c hc

/-- What is found at the end of a text is a limit with blanks before it, and its number. -/
theorem splitLimit?_eq_some {before digits : List Char}
    (h : splitLimit? cs = some (before, digits)) :
    (∀ c ∈ digits, isDecimal c = true) ∧ ∃ gap blank clause,
      cs = before ++ (gap ++ blank :: clause) ∧ (∀ c ∈ gap, isBlank c = true)
        ∧ isBlank blank = true ∧ IsLimit clause := by
  unfold splitLimit? at h
  dsimp only at h
  generalize hreversed : dropBlanks cs.reverse = reversed at h
  split at h
  · next c rest hrest =>
    split at h
    · cases h
    · next hguard =>
      rw [Bool.or_eq_true, Bool.not_eq_true', not_or, Bool.not_eq_false] at hguard
      obtain ⟨hnumber, hblank⟩ := hguard
      obtain ⟨_, hbefore, heq⟩ := Option.map_eq_some_iff.mp h
      cases heq
      obtain ⟨spelled, blank, more, hmore, hspelled, hfirst, rfl⟩ := beforeWord?_eq_some hbefore
      -- The text is read from its end, so its pieces come in reverse.
      have hcs : cs.reverse = cs.reverse.takeWhile isBlank ++ (reversed.takeWhile isDecimal
          ++ c :: (rest.takeWhile isBlank ++ (spelled ++ blank ::
            (more.takeWhile isBlank ++ dropBlanks more)))) := by
        rw [dropBlanks, List.takeWhile_append_dropWhile, ← hmore, dropBlanks,
          List.takeWhile_append_dropWhile, ← hrest, List.takeWhile_append_dropWhile, ← hreversed,
          dropBlanks, List.takeWhile_append_dropWhile]
      refine ⟨?_, (more.takeWhile isBlank).reverse, blank,
        spelled.reverse ++ ((rest.takeWhile isBlank).reverse ++ [c]
          ++ ((reversed.takeWhile isDecimal).reverse ++ (cs.reverse.takeWhile isBlank).reverse)), ?_,
        ?_, hfirst, ⟨?_, by simp, ?_, ?_, ?_, ?_⟩⟩
      · intro d hd
        exact List.all_eq_true.mp (List.all_takeWhile ..) d (List.mem_reverse.mp hd)
      · rw [← List.reverse_reverse cs]
        refine (congrArg List.reverse hcs).trans ?_
        simp
      · exact fun d hd => isBlank_of_mem_takeWhile (List.mem_reverse.mp hd)
      · rw [Spells, ← List.forall₂_reverse_iff, List.reverse_reverse]
        exact hspelled
      · intro d hd
        rw [List.mem_append, List.mem_reverse, List.mem_singleton] at hd
        obtain hd | rfl := hd
        · exact isBlank_of_mem_takeWhile hd
        · exact hblank
      · rw [ne_eq, List.reverse_eq_nil_iff, ← List.isEmpty_iff]
        exact hnumber
      · intro d hd
        exact List.all_eq_true.mp (List.all_takeWhile ..) d (List.mem_reverse.mp hd)
      · intro d hd
        exact isBlank_of_mem_takeWhile (List.mem_reverse.mp hd)
  · cases h

theorem endsInLimit_of_splitLimit {found : List Char × List Char}
    (h : splitLimit? cs = some found) : EndsInLimit cs := by
  obtain ⟨-, gap, blank, clause, hcs, -, hblank, hclause⟩ := splitLimit?_eq_some h
  exact ⟨found.1 ++ gap, blank, clause, by rw [hcs, List.append_assoc], hblank, hclause⟩

/-- What holds of the ten digits. -/
theorem of_isDigit {p : Char → Bool}
    (hp : ['0', '1', '2', '3', '4', '5', '6', '7', '8', '9'].all p = true) (h : c.isDigit = true) :
    p c = true :=
  List.all_eq_true.mp hp c (eq_of_isDigit h)

/-- A limit that is there is found. -/
theorem splitLimit?_limit {digits : List Char} (hnumber : digits ≠ [])
    (hdigits : ∀ c ∈ digits, c.isDigit = true) (cs : List Char) :
    splitLimit? (cs ++ " LIMIT ".toList ++ digits) = some (dropLastBlanks cs, digits) := by
  -- The end is looked at from behind: digits, a blank, the word and what stands before it.
  have hreverse : (cs ++ " LIMIT ".toList ++ digits).reverse
      = digits.reverse ++ ' ' :: ("TIMIL".toList ++ ' ' :: cs.reverse) := by
    simp
  have hdecimal : ∀ c ∈ digits.reverse, isDecimal c = true :=
    fun c hc => of_isDigit (by decide) (hdigits c (List.mem_reverse.mp hc))
  have hblanks : dropBlanks (digits.reverse ++ ' ' :: ("TIMIL".toList ++ ' ' :: cs.reverse))
      = digits.reverse ++ ' ' :: ("TIMIL".toList ++ ' ' :: cs.reverse) := by
    obtain ⟨d, ds, hd⟩ := List.exists_cons_of_ne_nil (mt List.reverse_eq_nil_iff.mp hnumber)
    have hfirst : d.isDigit = true :=
      hdigits d (List.mem_reverse.mp (hd ▸ List.mem_cons_self))
    rw [hd, List.cons_append]
    exact List.dropWhile_cons_of_neg (by
      simpa using of_isDigit (p := fun c => !isBlank c) (by decide) hfirst)
  have htake : (digits.reverse ++ ' ' :: ("TIMIL".toList ++ ' ' :: cs.reverse)).takeWhile isDecimal
      = digits.reverse := by
    rw [List.takeWhile_append_of_pos hdecimal]
    exact List.append_nil _
  have hdrop : (digits.reverse ++ ' ' :: ("TIMIL".toList ++ ' ' :: cs.reverse)).dropWhile isDecimal
      = ' ' :: ("TIMIL".toList ++ ' ' :: cs.reverse) := by
    rw [List.dropWhile_append_of_pos hdecimal]
    rfl
  have hword : beforeWord? "limit".toList (dropBlanks ("TIMIL".toList ++ ' ' :: cs.reverse))
      = some (dropBlanks cs.reverse) := rfl
  have hblank : isBlank ' ' = true := rfl
  have hsome : (digits.reverse.isEmpty || !isBlank ' ') = false := by
    simpa [hblank] using hnumber
  unfold splitLimit?
  dsimp only
  rw [hreverse, hblanks, htake, hdrop]
  dsimp only
  rw [hsome, hword, if_neg Bool.false_ne_true, Option.map_some, List.reverse_reverse]
  rfl

/-! ## Quotes -/

/-- The characters of a text but for double quotes. -/
def plain (s : String) : List Char := s.toList.filter (· ≠ '"')

theorem plain_append (s t : String) : plain (s ++ t) = plain s ++ plain t := by
  rw [plain, String.toList_append, List.filter_append]
  rfl

/-- What is left of a text in single quotes has its double quotes, which make no difference. -/
theorem filter_stripQuotes (inside : Bool) (cs : List Char) :
    (stripQuotes inside cs).filter (· ≠ '"') = cs.filter (· ≠ '"') := by
  induction cs generalizing inside with
  | nil => rfl
  | cons c cs ih =>
      unfold stripQuotes
      split
      · rw [List.filter_cons, List.filter_cons, ih]
      · split
        · rw [List.filter_cons, List.filter_cons, ih]
        · split
          · next hc =>
            subst hc
            rw [ih, List.filter_cons_of_neg (by decide)]
          · rw [List.filter_cons, List.filter_cons, ih]

theorem EndsInLimit.filter (h : EndsInLimit cs) : EndsInLimit (cs.filter (· ≠ '"')) := by
  obtain ⟨before, blank, clause, rfl, hblank, hclause⟩ := h
  have hquote : mayLimit '"' = false := by decide
  have hmay : ∀ c ∈ blank :: clause, mayLimit c = true := by
    rw [List.forall_mem_cons]
    refine ⟨?_, fun c hc => hclause.mayLimit hc⟩
    rw [mayLimit, hblank]
    rfl
  have hkept : (blank :: clause).filter (· ≠ '"') = blank :: clause := by
    refine List.filter_eq_self.mpr fun c hc => decide_eq_true ?_
    rintro rfl
    rw [hmay _ hc] at hquote
    cases hquote
  rw [List.filter_append, hkept]
  exact ⟨_, blank, clause, rfl, hblank, hclause⟩

/-- After a blank and without its double quotes the text ends in a limit. -/
def LimitLike (s : String) : Prop := EndsInLimit (' ' :: plain s)

/-- A text in which a limit is found when its quotes are left out is like a limit. -/
theorem limitLike_of_splitLimit {s : String} {found : List Char × List Char}
    (h : splitLimit? (stripQuotes false s.toList) = some found) : LimitLike s := by
  have hfiltered := (endsInLimit_of_splitLimit h).filter
  rw [filter_stripQuotes] at hfiltered
  exact hfiltered.append [' ']

/-- A single word is no limit. -/
theorem not_limitLike_of_word {s : String} (hword : (plain s).any isBlank = false) :
    ¬ LimitLike s := by
  have h : ∀ c ∈ plain s, isBlank c = false := by
    simpa using hword
  intro hlimit
  obtain hends | ⟨-, hclause⟩ := hlimit.of_cons
  · rw [← List.append_nil (plain s)] at hends
    obtain ⟨before, blank, clause, heq, -⟩ := hends.of_append_word h
    exact List.append_ne_nil_of_right_ne_nil before (List.cons_ne_nil blank clause) heq.symm
  · generalize plain s = cs at hclause h
    obtain ⟨-, hsome, hblanks, -⟩ := hclause
    obtain ⟨blank, blanks, rfl⟩ := List.exists_cons_of_ne_nil hsome
    have hsolid := h blank (List.mem_append_right _ (List.mem_append_left _ List.mem_cons_self))
    rw [hblanks blank List.mem_cons_self] at hsolid
    cases hsolid

/-! ## What decides how a text ends -/

/-- Whatever text follows, the lead has no part in a limit at its end. -/
def Cuts (lead : String) : Prop := ∀ text, LimitLike (lead ++ text) → LimitLike text

/-- Without the one blank that it ends with. -/
def dropBlank : List Char → List Char
  | ' ' :: cs => cs
  | cs => cs

/-- Whether the last word of a text, after which one blank may stand, is none that is found in
limits. -/
def separates (lead : String) : Bool :=
  ((dropBlank (plain lead).reverse).takeWhile fun c => !isBlank c).any fun c => !mayLimit c

theorem eq_dropBlank (cs : List Char) : ∃ blanks, cs = blanks ++ dropBlank cs
    ∧ (blanks = [] ∨ blanks = [' ']) := by
  unfold dropBlank
  split
  · exact ⟨[' '], rfl, .inr rfl⟩
  · exact ⟨[], rfl, .inl rfl⟩

theorem cuts_of_separates {lead : String} (h : separates lead = true) (front : String) :
    Cuts (front ++ lead) := by
  obtain ⟨mark, hmem, hmark⟩ := List.any_eq_true.mp h
  rw [Bool.not_eq_true'] at hmark
  obtain ⟨blanks, hblanks, hone⟩ := eq_dropBlank (plain lead).reverse
  obtain ⟨word, before, hword⟩ := List.append_of_mem hmem
  have hsolid : ∀ c ∈ word.reverse, isBlank c = false := by
    intro c hc
    have hmem := List.mem_append_left (mark :: before) (List.mem_reverse.mp hc)
    rw [← hword] at hmem
    simpa using List.all_eq_true.mp (List.all_takeWhile ..) c hmem
  -- The lead up to the mark, the rest of its last word, and perhaps a blank.
  obtain ⟨more, hlead⟩ : ∃ more, plain lead = more ++ mark :: (word.reverse ++ blanks) := by
    rw [← List.takeWhile_append_dropWhile (p := fun c => !isBlank c)
      (l := dropBlank (plain lead).reverse), hword] at hblanks
    generalize (dropBlank (plain lead).reverse).dropWhile (fun c => !isBlank c) = rest at hblanks
    have hself : blanks.reverse = blanks := by obtain rfl | rfl := hone <;> rfl
    refine ⟨rest.reverse ++ before.reverse, ?_⟩
    rw [← List.reverse_reverse (plain lead), hblanks]
    simp [hself]
  intro text hlimit
  have hends : EndsInLimit ((' ' :: (plain front ++ more))
      ++ mark :: (word.reverse ++ (blanks ++ plain text))) := by
    unfold LimitLike at hlimit
    rw [plain_append, plain_append, hlead] at hlimit
    simpa using hlimit
  have hrest := (hends.of_append_mark hmark).of_append_word hsolid
  obtain rfl | rfl := hone
  · exact hrest.append [' ']
  · exact hrest

/-- A number with a blank after it. -/
theorem Cuts.number {lead : String} (h : Cuts lead) (n : Nat) :
    Cuts (lead ++ toString n ++ " ") := by
  have hdigit : ∀ c ∈ Nat.toDigits 10 n, c.isDigit = true :=
    fun c hc => Decimal.isDigit_toDigits hc
  have hdigits : plain (toString n) = Nat.toDigits 10 n := by
    have htext : (toString n).toList = Nat.toDigits 10 n := by simp
    rw [plain, htext]
    exact List.filter_eq_self.mpr fun c hc =>
      of_isDigit (p := fun c => decide (c ≠ '"')) (by decide) (hdigit c hc)
  intro text hlimit
  have hnumber : EndsInLimit (' ' :: (Nat.toDigits 10 n ++ ' ' :: plain text)) := by
    rw [String.append_assoc, String.append_assoc] at hlimit
    have hafter := h _ hlimit
    unfold LimitLike at hafter
    rw [plain_append, plain_append, hdigits] at hafter
    exact hafter
  obtain hrest | ⟨-, hlimit⟩ := hnumber.of_cons
  · refine hrest.of_append_word fun c hc => ?_
    simpa using of_isDigit (p := fun c => !isBlank c) (by decide) (hdigit c hc)
  · -- A limit begins with a letter.
    obtain ⟨d, ds, hd⟩ := List.exists_cons_of_ne_nil (Nat.toDigits_ne_nil (n := n) (b := 10))
    rw [hd, List.cons_append] at hlimit
    have hnone := of_isDigit (p := fun c => !isLetter 'l' c) (by decide)
      (hdigit d (hd ▸ List.mem_cons_self))
    rw [hlimit.head] at hnone
    cases hnone

end QueryReport.Sql.Dialect
