import Mathlib.Tactic.IntervalCases
import QueryReport.Proofs.Sql.Lexing.Pieces
import QueryReport.Sql.Statement

/-!
# `QueryReport.Proofs.Sql.Lexing.Blank`: blank text is no statement

Every character of the Unicode property White Space is passed over when a text is cut, not only the
four that SQL names.  A blank text has no tokens (`lexed_blanks`) and so no statements
(`parse_blank`).
-/

set_option autoImplicit false

namespace QueryReport.Sql

open QueryReport.Text

/-- The blanks that are no blanks of SQL. -/
def otherBlanks : List Char :=
  ['\x0b', '\x0c', '\u0085', '\u00a0', '\u1680', '\u2000', '\u2001', '\u2002', '\u2003', '\u2004',
    '\u2005', '\u2006', '\u2007', '\u2008', '\u2009', '\u200a', '\u2028', '\u2029', '\u202f',
    '\u205f', '\u3000']

theorem mem_of_isBlank {c : Char} (h : isBlank c) :
    c ∈ [' ', '\t', '\n', '\r'] ∨ c ∈ otherBlanks := by
  have hc : c = Char.ofNat c.toNat := (Char.ofNat_toNat c).symm
  unfold isBlank at h
  rw [hc]
  generalize c.toNat = n at h
  simp only [Bool.or_eq_true, Bool.and_eq_true, decide_eq_true_eq] at h
  obtain ((((((((((h | rfl) | rfl) | rfl) | rfl) | h) | rfl) | rfl) | rfl) | rfl) | rfl) := h
  · obtain ⟨hlow, hhigh⟩ := h
    interval_cases n <;> decide
  case inl.inl.inl.inl.inl.inr =>
    obtain ⟨hlow, hhigh⟩ := h
    interval_cases n <;> decide
  all_goals decide

/-- No operator begins with a character that none of them begins with. -/
theorem operatorAt?_none {c : Char} (rest : List Char)
    (h : ∀ op ∈ growingOperators ++ fixedOperators, op ≠ "" ∧ op.toList.head? ≠ some c) :
    operatorAt? (c :: rest) = none := by
  have hdiffers : ∀ s ∈ growingOperators ++ fixedOperators,
      s.toList.isPrefixOf (c :: rest) = false := by
    intro s hs
    obtain ⟨hne, hhead⟩ := h s hs
    cases hchars : s.toList with
    | nil => exact absurd (String.toList_eq_nil_iff.mp hchars) hne
    | cons d ds =>
        rw [hchars] at hhead
        have hd : d ≠ c := fun heq => hhead (heq ▸ rfl)
        simp only [List.isPrefixOf, beq_eq_false_iff_ne.mpr hd, Bool.false_and]
  -- The fold over the candidates never finds a first one.
  unfold operatorAt?
  refine List.foldlRecOn (motive := (· = none)) _ _ rfl ?_
  intro best hbest candidate hcandidate
  simp only [List.mem_append, List.mem_map] at hcandidate
  obtain ⟨s, hs, rfl⟩ | ⟨s, hs, rfl⟩ := hcandidate
  · simp only [hdiffers s (List.mem_append_left _ hs), hbest, Bool.false_eq_true, if_false]
  · simp only [hdiffers s (List.mem_append_right _ hs), hbest, Bool.false_eq_true, if_false]

/-- The ranges of a table one after the other. -/
theorem inRanges_toList (ranges : Array (Nat × Nat)) (n : Nat) :
    inRanges ranges n = ranges.toList.any fun (first, last) => first ≤ n && n ≤ last := by
  unfold inRanges
  rw [← Array.any_toList]

theorem isWordStart_otherBlank {c : Char} (h : c ∈ otherBlanks) : isWordStart c = false := by
  -- The table is searched as a list: the kernel is slow on the loop over an array.
  have hall : otherBlanks.all fun c => decide ((Table.alphabetic.toList.any fun (first, last) =>
      first ≤ c.toNat && c.toNat ≤ last) = false
        ∧ ((if c.toNat < 128 then c.isAlpha else false) || c = '_') = false) := by
    decide +kernel
  obtain ⟨hranges, hascii⟩ := of_decide_eq_true (List.all_eq_true.mp hall c h)
  unfold isWordStart isAlphabetic
  rw [inRanges_toList, hranges]
  exact hascii

/-- A blank that SQL does not name begins no operator, word or number. -/
theorem lexeme_otherBlank {c : Char} (h : c ∈ otherBlanks) (rest : List Char) :
    lexeme c rest = .ok (none, rest) := by
  have hall : otherBlanks.all fun c => decide (
      c ∉ [' ', '\t', '\n', '\r', '-', '/', '\'', '"', '$']
        ∧ c ∉ ['b', 'B', 'n', 'N', 'x', 'X', 'e', 'E', 'u', 'U']
        ∧ (c.isDigit || c = '.') = false ∧ c ≠ '?' ∧ isBlank c = true
        ∧ ∀ op ∈ growingOperators ++ fixedOperators, op ≠ "" ∧ op.toList.head? ≠ some c) := by
    decide +kernel
  obtain ⟨hspecial, hletter, hdigit, hquestion, hblank, hoperator⟩ :=
    of_decide_eq_true (List.all_eq_true.mp hall c h)
  rw [lexeme_eq_other hspecial (.inr hletter), lexeme.other, hdigit, isWordStart_otherBlank h]
  show operatorLexeme c rest = _
  unfold operatorLexeme
  rw [operatorAt?_none rest hoperator]
  show (if c = '?' then _ else if isBlank c = true then _ else _) = _
  rw [if_neg hquestion, if_pos hblank]

theorem lexeme_blank {c : Char} (h : isBlank c) (rest : List Char) :
    lexeme c rest = .ok (none, rest) := by
  obtain h | h := mem_of_isBlank h
  · simp only [List.mem_cons, List.not_mem_nil, or_false] at h
    obtain rfl | rfl | rfl | rfl := h <;> rfl
  · exact lexeme_otherBlank h rest

theorem lexed_blanks {cs : List Char} (h : ∀ c ∈ cs, isBlank c) : lexed cs = .ok [] := by
  induction cs with
  | nil => rfl
  | cons c cs ih =>
      rw [List.forall_mem_cons] at h
      rw [lexed_cons (lexeme_blank h.1 cs), ih h.2]
      rfl

/-- A blank text has no statements. -/
theorem parse_blank {text : String} (h : isBlankText text) : parse text = .ok [] := by
  have htokens : tokens text = .ok [] := by
    rw [tokens_eq_lexed]
    exact lexed_blanks (List.all_eq_true.mp h)
  unfold parse
  rw [htokens]
  rfl

end QueryReport.Sql
