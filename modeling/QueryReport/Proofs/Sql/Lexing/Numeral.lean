import QueryReport.Proofs.Decimal.Numeral
import QueryReport.Proofs.Sql.Lexing.Pieces
import QueryReport.Proofs.Text.Split

/-!
# `QueryReport.Proofs.Sql.Lexing.Numeral`: numbers are cut as one token

A numeral is cut as one token (`cut_numeral`), and as two if it has a sign (`cut_negative`).
-/

set_option autoImplicit false

namespace QueryReport.Sql

open QueryReport.Text QueryReport.Decimal

/-- What stops a number is neither a digit nor a mark of a number. -/
theorem Stops.head {more : List Char} (h : Stops more) {d : Char} (hd : d ∈ more.head?) :
    d = ' ' ∨ d = ',' ∨ d = ')' := by
  cases more with
  | nil => cases hd
  | cons c more =>
      cases hd
      exact h

theorem takeNumber_numeral {s : String} (hs : IsNumeral s) {more : List Char} (hmore : Stops more) :
    takeNumber (s.toList ++ more) = some (s.toList, more) := by
  obtain ⟨whole, fraction, hwhole, hdigits, hfraction, hs | hs⟩ := hs
  all_goals
    have hstop : ∀ d ∈ more.head?, d.isDigit = false := fun d hd => by
      obtain rfl | rfl | rfl := hmore.head hd <;> decide
    rw [hs]
  -- A whole number: the digits end where the text stops.
  · unfold takeNumber
    rw [Text.takeWhile_run hdigits hstop, Text.dropWhile_run hdigits hstop]
    have hpoint : whole ≠ ['.'] := fun heq => by
      have := hdigits '.' (heq ▸ List.mem_singleton.mpr rfl)
      revert this
      decide
    cases more with
    | nil => simp [hpoint]
    | cons d more =>
        obtain rfl | rfl | rfl := hmore.head rfl <;> simp [hpoint]
  -- A fraction: the whole part ends at the point, and the fraction where the text stops.
  · rw [List.append_assoc, List.cons_append]
    have hpoint : ∀ d ∈ ('.' :: (fraction ++ more)).head?, d.isDigit = false := by
      rintro d ⟨⟩
      decide
    have hne : whole ++ '.' :: fraction ≠ ['.'] := fun heq => by
      have := congrArg List.length heq
      have := List.length_pos_iff.mpr hwhole
      simp only [List.length_append, List.length_cons, List.length_nil] at *
      omega
    unfold takeNumber
    rw [Text.takeWhile_run hdigits hpoint, Text.dropWhile_run hdigits hpoint]
    simp only [Text.takeWhile_run hfraction hstop, Text.dropWhile_run hfraction hstop, if_neg hne]
    cases more with
    | nil => rfl
    | cons d more =>
        obtain rfl | rfl | rfl := hmore.head rfl <;> simp

/-- A number without a sign. -/
theorem cut_numeral {s : String} (hs : IsNumeral s) : Cut s [.literal (.number s false)] := by
  intro more hmore
  have htake := takeNumber_numeral hs hmore
  obtain ⟨c, cs, hcs, hdigit, hnext⟩ := hs.exists_cons
  have hnone : ∀ {cs : List Char}, cs.all (!·.isDigit) → c ∉ cs := by
    intro cs hall hmem
    have := List.all_eq_true.mp hall c hmem
    rw [hdigit] at this
    cases this
  -- Hexadecimal digits come after `0x`, but a numeral goes on with a digit or a point.
  have hhex : ∀ rest, c :: (cs ++ more) ≠ '0' :: 'x' :: rest := by
    intro rest heq
    have hx : (cs ++ more).head? = some 'x' := by
      rw [(List.cons.inj heq).2]
      rfl
    cases cs with
    | nil => obtain h | h | h := hmore.head hx <;> cases h
    | cons d cs =>
        cases hx
        obtain h | h := hnext 'x' rfl
        · revert h
          decide
        · cases h
  rw [hcs] at htake ⊢
  refine lexed_piece ?_
  rw [lexeme_eq_other (hnone (by decide)) (.inr (hnone (by decide))), lexeme.other,
    if_pos (by simp [hdigit])]
  unfold numberLexeme
  split
  · next heq => exact absurd heq (hhex _)
  · rw [List.append_eq, ← List.cons_append, htake, ← hcs]
    cases more with
    | nil => simp
    | cons d more => obtain rfl | rfl | rfl := hmore.head rfl <;> simp

/-- A number with a sign. -/
theorem cut_negative {s : String} (hs : IsNumeral s) :
    Cut ("-" ++ s) [.symbol "-", .literal (.number s false)] := by
  intro more hmore
  have hnumber := cut_numeral hs more hmore
  obtain ⟨c, cs, hcs, hdigit, _⟩ := hs.exists_cons
  -- Two minus signs would begin a comment, but here a digit follows.
  have hminus : lexeme '-' (s.toList ++ more) = .ok (some (.symbol "-"), s.toList ++ more) := by
    rw [hcs]
    have hdigit := eq_of_isDigit hdigit
    simp only [List.mem_cons, List.not_mem_nil, or_false] at hdigit
    obtain rfl | rfl | rfl | rfl | rfl | rfl | rfl | rfl | rfl | rfl := hdigit
    all_goals
      rw [List.cons_append]
      unfold lexeme
      rfl
  rw [String.toList_append]
  show lexed ('-' :: (s.toList ++ more)) = _
  rw [lexed_piece hminus, hnumber, lexed_append_map]
  rfl

end QueryReport.Sql
