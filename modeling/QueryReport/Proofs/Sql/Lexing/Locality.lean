import Mathlib.Data.List.Basic
import QueryReport.Proofs.Sql.Lexing.Blank
import QueryReport.Proofs.Sql.Lexing.Takes

/-!
# `QueryReport.Proofs.Sql.Lexing.Locality`: what a piece depends on

A piece of a text is read from its own characters and from what follows them up to the first blank.
So a text may be changed from a blank on without any change to the piece before it, and a piece that
is no blank and no line comment does not end with a blank.

* `takes_word`, `takes_number`, `takes_operator`, `takes_dollar`: pieces that are no quoted text.
  Where a reader does not look behind a blank at all, `Takes.of_append` is the bridge.
* `Plain c rest`: nothing but one of these begins with the character.
* `takes_lexeme` is the result for all pieces.
-/

set_option autoImplicit false

namespace QueryReport.Sql

open QueryReport.Text

variable {cs after : List Char}

/-! ## Words, numbers and operators -/

/-- A class of characters has no blanks if it has none of SQL's and none of the others. -/
theorem not_blank_of_class {p : Char → Bool} (hsql : [' ', '\t', '\n', '\r'].all (!p ·))
    (hother : otherBlanks.all (!p ·)) {c : Char} (hc : p c = true) : isBlank c = false := by
  refine Bool.eq_false_iff.mpr fun hblank => ?_
  have hnot : (!p c) = true := by
    obtain hmem | hmem := mem_of_isBlank hblank
    · exact List.all_eq_true.mp hsql c hmem
    · exact List.all_eq_true.mp hother c hmem
  rw [hc] at hnot
  cases hnot

/-- Characters that are no blanks do not end with one. -/
theorem getLast_solid {front : List Char} (h : front.all (!isBlank ·) = true) :
    ∀ c ∈ front.getLast?, isBlank c = false := fun c hc => by
  simpa using List.all_eq_true.mp h c (List.mem_of_getLast? hc)

theorem not_blank_of_isDigit {c : Char} (hc : c.isDigit = true) : isBlank c = false :=
  not_blank_of_class (by decide) (by decide) hc

theorem not_blank_of_isHexDigit {c : Char} (hc : isHexDigit c = true) : isBlank c = false :=
  not_blank_of_class (by decide) (by decide) hc

theorem not_blank_of_isOperatorPart {c : Char} (hc : isOperatorPart c = true) : isBlank c = false :=
  not_blank_of_class (by decide) (by decide) hc

theorem not_blank_of_isWordPart {c : Char} (hc : isWordPart c = true) : isBlank c = false := by
  refine not_blank_of_class (by decide) (List.all_eq_true.mpr fun c hmem => ?_) hc
  have hstart := isWordStart_otherBlank hmem
  have hrest : otherBlanks.all (fun c => !(c.isDigit || c = '$')) := by decide
  have := List.all_eq_true.mp hrest c hmem
  unfold isWordStart at hstart
  unfold isWordPart
  simp_all

theorem not_blank_of_isTagPart {c : Char} (hc : isTagPart c = true) : isBlank c = false := by
  refine not_blank_of_class (by decide) (List.all_eq_true.mpr fun c hmem => ?_) hc
  have hstart := isWordStart_otherBlank hmem
  have hall : otherBlanks.all fun c => decide ((Table.numeric.toList.any fun range =>
      range.1 ≤ c.toNat && c.toNat ≤ range.2) = false
        ∧ (if c.toNat < 128 then c.isDigit else false) = false) := by
    decide
  obtain ⟨hranges, hascii⟩ := of_decide_eq_true (List.all_eq_true.mp hall c hmem)
  have hnumeric : isNumeric c = false := by
    have hnone : inRanges Table.numeric c.toNat = false := (inRanges_toList _ _).trans hranges
    unfold isNumeric
    rw [hnone]
    exact hascii
  unfold isWordStart at hstart
  unfold isTagPart isAlphanumeric
  simp_all

/-- A run of characters of a class ends where it ends, as long as what follows is the same up to the
first blank. -/
theorem run_local {p : Char → Bool} (hp : ∀ c, p c = true → isBlank c = false)
    {cs after' : List Char}
    (h : untilBlank after' = untilBlank (cs.dropWhile p)) :
    (cs.takeWhile p ++ after').takeWhile p = cs.takeWhile p
      ∧ (cs.takeWhile p ++ after').dropWhile p = after' := by
  have hnone : after'.takeWhile p = [] ∧ after'.dropWhile p = after' := by
    cases after' with
    | nil => exact ⟨rfl, rfl⟩
    | cons d after' =>
        have hd : ¬ p d = true := by
          intro hd
          have hhead := (head_of_untilBlank h (hp d hd)).mp rfl
          have hnot := List.head?_dropWhile_not p cs
          rw [hhead] at hnot
          simp [hd] at hnot
        exact ⟨List.takeWhile_cons_of_neg hd, List.dropWhile_cons_of_neg hd⟩
  have hall : ∀ c ∈ cs.takeWhile p, p c = true :=
    fun c hc => List.all_eq_true.mp List.all_takeWhile c hc
  rw [List.takeWhile_append_of_pos hall, List.dropWhile_append_of_pos hall, hnone.1, hnone.2,
    List.append_nil]
  exact ⟨rfl, rfl⟩

theorem takes_word {c : Char} {rest : List Char} {token : Option Token} (hc : isWordPart c = true)
    (h : wordLexeme (c :: rest) = .ok (token, after)) :
    Takes (fun rest => wordLexeme (c :: rest)) (fun after => .ok (token, after)) rest after := by
  have hread : ∀ rest, wordLexeme (c :: rest) = .ok
      (some (.ofWord (String.ofList (c :: rest.takeWhile isWordPart))),
        rest.dropWhile isWordPart) := by
    intro rest
    unfold wordLexeme
    rw [List.takeWhile_cons_of_pos hc, List.dropWhile_cons_of_pos hc]
  rw [hread] at h
  cases h
  refine ⟨rest.takeWhile isWordPart, List.takeWhile_append_dropWhile.symm, fun d hd => ?_, ?_⟩
  · exact not_blank_of_isWordPart
      (List.all_eq_true.mp List.all_takeWhile d (List.mem_of_getLast? hd))
  · intro after' hafter
    obtain ⟨htake, hdrop⟩ := run_local (fun _ => not_blank_of_isWordPart) hafter
    show wordLexeme (c :: (rest.takeWhile isWordPart ++ after')) = _
    rw [hread, htake, hdrop]

/-- Behind a blank there is nothing of a run of characters of a class that has no blanks. -/
theorem run_append {p : Char → Bool} (hp : ∀ c, p c = true → isBlank c = false) (cs : List Char)
    {more : List Char} (hmore : ∀ c ∈ more.head?, isBlank c = true) :
    (cs ++ more).takeWhile p = cs.takeWhile p
      ∧ (cs ++ more).dropWhile p = cs.dropWhile p ++ more := by
  induction cs with
  | nil =>
      cases more with
      | nil => exact ⟨rfl, rfl⟩
      | cons d more =>
          have hd : ¬ p d = true := fun hd => by
            have hblank := hmore d rfl
            rw [hp d hd] at hblank
            cases hblank
          exact ⟨List.takeWhile_cons_of_neg hd, List.dropWhile_cons_of_neg hd⟩
  | cons c cs ih =>
      by_cases hc : p c = true
      · rw [List.cons_append, List.takeWhile_cons_of_pos hc, List.takeWhile_cons_of_pos hc,
          List.dropWhile_cons_of_pos hc, List.dropWhile_cons_of_pos hc, ih.1, ih.2]
        exact ⟨rfl, rfl⟩
      · rw [List.cons_append, List.takeWhile_cons_of_neg hc, List.takeWhile_cons_of_neg hc,
          List.dropWhile_cons_of_neg hc, List.dropWhile_cons_of_neg hc]
        exact ⟨rfl, rfl⟩

/-- The point of a number and the digits behind it. -/
def takeFraction : List Char → List Char × List Char
  | '.' :: rest => ('.' :: rest.takeWhile Char.isDigit, rest.dropWhile Char.isDigit)
  | rest => ([], rest)

/-- The sign of an exponent. -/
def takeSign : List Char → List Char × List Char
  | '+' :: rest => (['+'], rest)
  | '-' :: rest => (['-'], rest)
  | rest => ([], rest)

/-- The exponent of a number. -/
def takeExponent : List Char → List Char × List Char
  | e :: rest =>
    if e = 'e' || e = 'E' then
      let digits := (takeSign rest).2.takeWhile Char.isDigit
      if digits.isEmpty then ([], e :: rest)
      else (e :: ((takeSign rest).1 ++ digits), (takeSign rest).2.dropWhile Char.isDigit)
    else ([], e :: rest)
  | [] => ([], [])

theorem takeFraction_other {cs : List Char} (h : cs.head? ≠ some '.') :
    takeFraction cs = ([], cs) := by
  unfold takeFraction
  split
  · exact absurd rfl h
  · rfl

theorem takeSign_other {cs : List Char} (hplus : cs.head? ≠ some '+')
    (hminus : cs.head? ≠ some '-') :
    takeSign cs = ([], cs) := by
  unfold takeSign
  split
  · exact absurd rfl hplus
  · exact absurd rfl hminus
  · rfl

/-- A number is made of these parts. -/
theorem takeNumber_eq (cs : List Char) :
    takeNumber cs =
      let (fraction, rest) := takeFraction (cs.dropWhile Char.isDigit)
      let significand := cs.takeWhile Char.isDigit ++ fraction
      if significand = ['.'] then none
      else some (significand ++ (takeExponent rest).1, (takeExponent rest).2) := by
  unfold takeNumber takeFraction takeExponent takeSign
  grind

section Parts

variable {more : List Char} (hmore : ∀ c ∈ more.head?, isBlank c = true)

include hmore

theorem head_append_blank {c : Char} (hc : isBlank c = false) (cs : List Char) :
    (cs ++ more).head? = some c ↔ cs.head? = some c := by
  cases cs with
  | nil =>
      refine ⟨fun heq => ?_, nofun⟩
      have hblank := hmore c heq
      rw [hc] at hblank
      cases hblank
  | cons d cs => rfl

theorem takeFraction_append (cs : List Char) :
    takeFraction (cs ++ more) = ((takeFraction cs).1, (takeFraction cs).2 ++ more) := by
  by_cases hpoint : cs.head? = some '.'
  · obtain ⟨rest, rfl⟩ := List.head?_eq_some_iff.mp hpoint
    obtain ⟨htake, hdrop⟩ :=
      @run_append Char.isDigit (fun _ => not_blank_of_isDigit) rest more hmore
    rw [List.cons_append, takeFraction, htake, hdrop]
    rfl
  · rw [takeFraction_other hpoint, takeFraction_other]
    rwa [Ne, head_append_blank hmore (by decide)]

theorem takeSign_append (cs : List Char) :
    takeSign (cs ++ more) = ((takeSign cs).1, (takeSign cs).2 ++ more) := by
  by_cases hplus : cs.head? = some '+'
  · obtain ⟨rest, rfl⟩ := List.head?_eq_some_iff.mp hplus
    rfl
  by_cases hminus : cs.head? = some '-'
  · obtain ⟨rest, rfl⟩ := List.head?_eq_some_iff.mp hminus
    rfl
  rw [takeSign_other hplus hminus, takeSign_other]
  · rwa [Ne, head_append_blank hmore (by decide)]
  · rwa [Ne, head_append_blank hmore (by decide)]

theorem takeExponent_append (cs : List Char) :
    takeExponent (cs ++ more) = ((takeExponent cs).1, (takeExponent cs).2 ++ more) := by
  cases cs with
  | nil =>
      cases more with
      | nil => rfl
      | cons d more =>
          -- A blank is no exponent.
          have hd : ¬ (d = 'e' || d = 'E') = true := by
            have hblank := hmore d rfl
            intro hd
            obtain rfl | rfl : d = 'e' ∨ d = 'E' := by simpa using hd
            all_goals exact absurd hblank (by decide)
          rw [List.nil_append, takeExponent, if_neg hd]
          rfl
  | cons e cs =>
      obtain ⟨htake, hdrop⟩ :=
        @run_append Char.isDigit (fun _ => not_blank_of_isDigit) (takeSign cs).2 more hmore
      rw [List.cons_append, takeExponent, takeExponent, takeSign_append hmore cs]
      dsimp only
      rw [htake, hdrop]
      split
      · split <;> rfl
      · rfl

theorem takeNumber_append (cs : List Char) :
    takeNumber (cs ++ more)
      = (takeNumber cs).map fun (digits, after) => (digits, after ++ more) := by
  obtain ⟨htake, hdrop⟩ := @run_append Char.isDigit (fun _ => not_blank_of_isDigit) cs more hmore
  rw [takeNumber_eq, takeNumber_eq, htake, hdrop]
  simp only [takeFraction_append hmore, takeExponent_append hmore]
  split <;> rfl

end Parts

theorem takeFraction_parts (cs : List Char) : (takeFraction cs).1 ++ (takeFraction cs).2 = cs := by
  unfold takeFraction
  split
  · rw [List.cons_append, List.takeWhile_append_dropWhile]
  · rfl

theorem takeSign_parts (cs : List Char) : (takeSign cs).1 ++ (takeSign cs).2 = cs := by
  unfold takeSign
  split <;> rfl

theorem takeExponent_parts (cs : List Char) : (takeExponent cs).1 ++ (takeExponent cs).2 = cs := by
  unfold takeExponent
  split
  · next e rest =>
    split
    · dsimp only
      split
      · rfl
      · rw [List.cons_append, List.append_assoc, List.takeWhile_append_dropWhile, takeSign_parts]
    · rfl
  · rfl

/-- The parts of a number, and what follows them, are the text. -/
theorem takeNumber_eq_some {cs digits after : List Char}
    (h : takeNumber cs = some (digits, after)) :
    cs = digits ++ after := by
  rw [takeNumber_eq] at h
  dsimp only at h
  split at h
  · cases h
  · cases h
    rw [List.append_assoc, takeExponent_parts, List.append_assoc, takeFraction_parts,
      List.takeWhile_append_dropWhile]

theorem untilBlank_append_blank {cs more : List Char} (hcs : ∀ c ∈ cs, isBlank c = false)
    (hmore : ∀ c ∈ more.head?, isBlank c = true) : untilBlank (cs ++ more) = cs := by
  have hnone : untilBlank more = [] := by
    cases more with
    | nil => rfl
    | cons d more => exact untilBlank_blank (hmore d rfl) more
  unfold untilBlank at hnone ⊢
  rw [List.takeWhile_append_of_pos fun c hc => by rw [hcs c hc]; rfl, hnone, List.append_nil]

theorem head_dropWhile_blank (cs : List Char) :
    ∀ c ∈ (cs.dropWhile (!isBlank ·)).head?, isBlank c = true := by
  intro c hc
  have hnot := List.head?_dropWhile_not (!isBlank ·) cs
  rw [hc] at hnot
  simpa using hnot

/-- A reader that does not look behind a blank takes what it takes without what is behind it. -/
theorem Takes.of_append {read : List Char → Lexeme} {token : Option Token}
    (hsuffix : ∀ cs token after, read cs = .ok (token, after) → after <:+ cs)
    (happend : ∀ cs more : List Char, (∀ c ∈ more.head?, isBlank c = true) →
      read (cs ++ more) = (fun piece => (piece.1, piece.2 ++ more)) <$> read cs)
    (h : read cs = .ok (token, after)) :
    Takes read (fun after => .ok (token, after)) cs after := by
  let front := untilBlank cs
  let behind := cs.dropWhile (!isBlank ·)
  have hcs : front ++ behind = cs := List.takeWhile_append_dropWhile
  have hfront : ∀ c ∈ front, isBlank c = false := fun c hc => by
    simpa using List.all_eq_true.mp List.all_takeWhile c hc
  -- The piece is read from the characters before the first blank already.
  rw [← hcs, happend front behind (head_dropWhile_blank cs)] at h
  obtain ⟨⟨token', left⟩, hread, heq⟩ := map_eq_ok.mp h
  cases heq
  obtain ⟨taken, htaken⟩ := hsuffix front _ _ hread
  have hall : ∀ c ∈ taken ++ left, isBlank c = false := htaken ▸ hfront
  rw [List.forall_mem_append] at hall
  refine ⟨taken, by rw [← List.append_assoc, htaken, hcs], fun c hc => ?_, fun after' hafter => ?_⟩
  · exact hall.1 c (List.mem_of_getLast? hc)
  · rw [untilBlank_append_blank hall.2 (head_dropWhile_blank cs)] at hafter
    have hsplit : left ++ after'.dropWhile (!isBlank ·) = after' := by
      rw [← hafter]
      exact List.takeWhile_append_dropWhile
    rw [← hsplit, ← List.append_assoc, htaken, happend front _ (head_dropWhile_blank after'), hread]
    rfl

/-- The token of a number that is not hexadecimal. -/
def decimalLexeme (rest : List Char) : Option (List Char × List Char) → Lexeme
  | none => .ok (some (.symbol "."), rest)
  | some (digits, 'L' :: after) =>
    .ok (some (.literal (.number (String.ofList digits) true)), after)
  | some (digits, after) => .ok (some (.literal (.number (String.ofList digits) false)), after)

theorem numberLexeme_decimal {c : Char} {cs : List Char} (h : ¬ (c = '0' ∧ cs.head? = some 'x')) :
    numberLexeme (c :: cs) = decimalLexeme cs (takeNumber (c :: cs)) := by
  unfold numberLexeme
  split
  · next rest heq =>
    cases heq
    exact absurd ⟨rfl, rfl⟩ h
  · rfl

theorem decimalLexeme_append (cs : List Char) {more : List Char}
    (hmore : ∀ c ∈ more.head?, isBlank c = true) (found : Option (List Char × List Char)) :
    decimalLexeme (cs ++ more) (found.map fun (digits, after) => (digits, after ++ more))
      = (fun piece => (piece.1, piece.2 ++ more)) <$> decimalLexeme cs found := by
  cases found with
  | none => rfl
  | some found =>
      obtain ⟨digits, left⟩ := found
      by_cases hL : left.head? = some 'L'
      · obtain ⟨left, rfl⟩ := List.head?_eq_some_iff.mp hL
        rfl
      · -- A blank is no mark of a long number either.
        have hplain : ∀ rest, left ≠ 'L' :: rest := fun rest heq => hL (heq ▸ rfl)
        have hplain' : ∀ rest, left ++ more ≠ 'L' :: rest := fun rest heq =>
          hL ((head_append_blank hmore (by decide) left).mp (heq ▸ rfl))
        simp [decimalLexeme]

/-- The digits are cut off the front, and the first character is one of them. -/
theorem numberLexeme_suffix {c : Char} {token : Option Token} (hc : c.isDigit ∨ c = '.')
    (h : numberLexeme (c :: cs) = .ok (token, after)) : after <:+ cs := by
  have hshort := numberLexeme_length hc h
  have hsuffix : after <:+ c :: cs := by
    unfold numberLexeme at h
    split at h
    · next rest heq =>
      rw [heq]
      cases h
      exact (List.dropWhile_suffix _).trans ⟨['0', 'x'], rfl⟩
    · split at h
      · cases h
        exact List.suffix_cons c cs
      · next digits left heq =>
        rw [takeNumber_eq_some heq]
        cases h
        exact ⟨digits ++ ['L'], by rw [List.append_assoc]; rfl⟩
      · next digits left _ heq =>
        rw [takeNumber_eq_some heq]
        cases h
        exact List.suffix_append _ _
  -- What is left is shorter than the whole, so it is behind the first character.
  obtain heq | hsuffix := List.suffix_cons_iff.mp hsuffix
  · rw [heq, List.length_cons] at hshort
    omega
  · exact hsuffix

theorem takes_number {c : Char} {rest : List Char} {token : Option Token}
    (hc : c.isDigit ∨ c = '.') (h : numberLexeme (c :: rest) = .ok (token, after)) :
    Takes (fun rest => numberLexeme (c :: rest)) (fun after => .ok (token, after)) rest after := by
  refine .of_append (fun cs token after => numberLexeme_suffix hc) (fun cs more hmore => ?_) h
  by_cases hhex : c = '0' ∧ cs.head? = some 'x'
  · obtain ⟨rfl, hx⟩ := hhex
    obtain ⟨rest, rfl⟩ := List.head?_eq_some_iff.mp hx
    obtain ⟨htake, hdrop⟩ :=
      @run_append isHexDigit (fun _ => not_blank_of_isHexDigit) rest more hmore
    rw [List.cons_append, numberLexeme, numberLexeme, htake, hdrop]
    rfl
  · have hhex' : ¬ (c = '0' ∧ (cs ++ more).head? = some 'x') := by
      rwa [head_append_blank hmore (by decide)]
    rw [numberLexeme_decimal hhex, numberLexeme_decimal hhex', ← List.cons_append,
      takeNumber_append hmore]
    exact decimalLexeme_append cs hmore (takeNumber (c :: cs))

/-- What begins with an operator is seen from what stands before a blank. -/
theorem isPrefixOf_append_blank {op : List Char} (hop : ∀ c ∈ op, isBlank c = false)
    (cs : List Char)
    {more : List Char} (hmore : ∀ c ∈ more.head?, isBlank c = true) :
    op.isPrefixOf (cs ++ more) = op.isPrefixOf cs := by
  induction op generalizing cs with
  | nil => rfl
  | cons c op ih =>
      rw [List.forall_mem_cons] at hop
      cases cs with
      | nil =>
          cases more with
          | nil => rfl
          | cons d more =>
              have hd : c ≠ d := by
                rintro rfl
                have hblank := hmore c rfl
                rw [hop.1] at hblank
                cases hblank
              show (c == d && _) = false
              rw [beq_eq_false_iff_ne.mpr hd, Bool.false_and]
      | cons d cs =>
          rw [List.cons_append, List.isPrefixOf_cons_cons, List.isPrefixOf_cons_cons, ih hop.2 cs]

theorem operatorAt?_append (cs : List Char) {more : List Char}
    (hmore : ∀ c ∈ more.head?, isBlank c = true) : operatorAt? (cs ++ more) = operatorAt? cs := by
  have hsolid : (growingOperators.map (fun s => (s.toList, true))
      ++ fixedOperators.map (fun s => (s.toList, false))).all
        fun op => op.1.all fun c => !isBlank c := by
    decide
  unfold operatorAt?
  refine List.foldl_ext _ _ _ fun best op hop => ?_
  have hop' : ∀ c ∈ op.1, isBlank c = false := fun c hc => by
    simpa using List.all_eq_true.mp (List.all_eq_true.mp hsolid op hop) c hc
  simp only [isPrefixOf_append_blank hop' cs hmore]

/-- The operator found begins the text. -/
theorem operatorAt?_isPrefix {cs op : List Char} {grows : Bool}
    (h : operatorAt? cs = some (op, grows)) : op <+: cs := by
  -- The invariant of the fold: the longest operator so far begins the text.
  have hinv : ∀ c : List Char × Bool, operatorAt? cs = some c → c.1 <+: cs := by
    unfold operatorAt?
    refine List.foldlRecOn
      (motive := fun best => ∀ c : List Char × Bool, best = some c → c.1 <+: cs) _ _ ?_ ?_
    · intro c h
      cases h
    · intro best hbest candidate _ c h
      grind
  exact hinv (op, grows) h

/-- Behind an operator stands what is left when its characters are dropped. -/
theorem operatorLexeme_suffix {c : Char} {token : Option Token} (hc : isBlank c = false)
    (hquestion : c ≠ '?') (h : operatorLexeme c cs = .ok (token, after)) : after <:+ cs := by
  unfold operatorLexeme at h
  split at h
  · next op grows hop =>
    have hdrop : (c :: cs).drop op.length <:+ cs := by
      obtain ⟨n, hn⟩ := Nat.exists_eq_add_one_of_ne_zero (Nat.ne_of_gt (operatorAt?_length hop))
      rw [hn, List.drop_succ_cons]
      exact List.drop_suffix n cs
    dsimp only at h
    generalize (if grows = true then ((c :: cs).drop op.length).takeWhile isOperatorPart else [])
      = marks at h
    split at h
    · cases h
      exact hdrop
    · cases h
      exact (List.drop_suffix _ _).trans hdrop
  · rw [if_neg hquestion, hc] at h
    cases h
    exact List.suffix_rfl

theorem operatorLexeme_append {c : Char} (hc : isBlank c = false) (hquestion : c ≠ '?')
    (cs : List Char) {more : List Char} (hmore : ∀ c ∈ more.head?, isBlank c = true) :
    operatorLexeme c (cs ++ more)
      = (fun piece => (piece.1, piece.2 ++ more)) <$> operatorLexeme c cs := by
  unfold operatorLexeme
  rw [← List.cons_append, operatorAt?_append _ hmore]
  cases hop : operatorAt? (c :: cs) with
  | none =>
      dsimp only
      rw [if_neg hquestion, if_neg hquestion, hc]
      rfl
  | some found =>
      obtain ⟨op, grows⟩ := found
      dsimp only
      -- The operator is within the text, so dropping it leaves what was put behind.
      rw [List.drop_append_of_le_length (operatorAt?_isPrefix hop).length_le]
      generalize (c :: cs).drop op.length = left
      obtain ⟨htake, -⟩ :=
        @run_append isOperatorPart (fun _ => not_blank_of_isOperatorPart) left more hmore
      cases grows with
      | false => rfl
      | true =>
          rw [if_pos rfl, if_pos rfl, htake]
          split
          · rfl
          · rw [List.drop_append_of_le_length (List.takeWhile_sublist _).length_le]
            rfl

theorem takes_operator {c : Char} {rest : List Char} {token : Option Token}
    (hc : isBlank c = false) (hquestion : c ≠ '?')
    (h : operatorLexeme c rest = .ok (token, after)) :
    Takes (operatorLexeme c) (fun after => .ok (token, after)) rest after :=
  .of_append (fun _ _ _ => operatorLexeme_suffix hc hquestion)
    (fun cs _ => operatorLexeme_append hc hquestion cs) h

/-! ## Pieces -/

theorem takes_literal {make : String → Literal} {what : String}
    {read : List Char → Option (List Char × List Char)} {token : Option Token}
    (hread : ∀ text after, read cs = some (text, after) →
      Takes read (fun after => some (text, after)) cs after)
    (h : literalToken make what (read cs) = .ok (token, after)) :
    Takes (fun cs => literalToken make what (read cs)) (fun after => .ok (token, after)) cs
      after := by
  cases hsome : read cs with
  | none =>
      rw [hsome] at h
      cases h
  | some found =>
      rw [hsome] at h
      cases h
      exact (hread _ _ hsome).map (literalToken make what)

/-- A tag between two dollar signs, and the text that it opens. -/
theorem dollarLexeme_tagged {tag : List Char} (hne : tag ≠ [])
    (htag : ∀ c ∈ tag, isTagPart c = true)
    (more : List Char) : dollarLexeme (tag ++ '$' :: more) =
      literalToken (.dollar (some (String.ofList tag))) "dollar-quoted text"
        (takeTagged tag (more.length + 1) more) := by
  have htake : (tag ++ '$' :: more).takeWhile isTagPart = tag := by
    rw [List.takeWhile_append_of_pos htag, List.takeWhile_cons_of_neg (by decide), List.append_nil]
  have hdrop : (tag ++ '$' :: more).dropWhile isTagPart = '$' :: more := by
    rw [List.dropWhile_append_of_pos htag, List.dropWhile_cons_of_neg (by decide)]
  unfold dollarLexeme
  split
  · next heq =>
    obtain ⟨c, tag, rfl⟩ := List.exists_cons_of_ne_nil hne
    cases heq
    exact absurd (htag '$' List.mem_cons_self) (by decide)
  · dsimp only
    rw [htake, hdrop]
    rfl

/-- Without a second dollar sign the characters are a placeholder. -/
theorem dollarLexeme_placeholder {rest : List Char} (hdouble : rest.head? ≠ some '$')
    (hclose : (rest.dropWhile isTagPart).head? ≠ some '$') : dollarLexeme rest =
      .ok (some (.literal (.placeholder (String.ofList ('$' :: rest.takeWhile isTagPart)))),
        rest.dropWhile isTagPart) := by
  unfold dollarLexeme
  split
  · exact absurd rfl hdouble
  · dsimp only
    split
    · next heq => exact absurd (heq ▸ rfl) hclose
    · rfl

theorem takes_dollar {token : Option Token} (h : dollarLexeme cs = .ok (token, after)) :
    Takes dollarLexeme (fun after => .ok (token, after)) cs after := by
  by_cases hdouble : cs.head? = some '$'
  · obtain ⟨more, rfl⟩ := List.head?_eq_some_iff.mp hdouble
    exact (takes_literal (fun _ _ => takes_dollars) h).prepend ['$'] (getLast_solid rfl)
      fun _ => rfl
  have htag : ∀ c ∈ cs.takeWhile isTagPart, isTagPart c = true :=
    fun c hc => List.all_eq_true.mp List.all_takeWhile c hc
  have hcs : cs.takeWhile isTagPart ++ cs.dropWhile isTagPart = cs :=
    List.takeWhile_append_dropWhile
  -- With a second sign the characters are a tag, and without one a placeholder.
  by_cases hclose : (cs.dropWhile isTagPart).head? = some '$'
  · obtain ⟨more, hmore⟩ := List.head?_eq_some_iff.mp hclose
    have hne : cs.takeWhile isTagPart ≠ [] := by
      intro hnil
      rw [hnil, List.nil_append] at hcs
      exact hdouble (hcs ▸ hclose)
    generalize cs.takeWhile isTagPart = tag at htag hne hcs
    rw [hmore] at hcs
    subst hcs
    rw [dollarLexeme_tagged hne htag] at h
    have htext := @takes_literal more after _ _ (fun cs => takeTagged tag (cs.length + 1) cs) token
      (fun _ _ hsome => (takesUpTo_tagged hsome).takes (by decide)) h
    have hlast : ∀ c ∈ (tag ++ ['$']).getLast?, isBlank c = false := by
      rw [List.getLast?_concat]
      exact @getLast_solid ['$'] rfl
    rw [List.append_cons]
    exact htext.prepend (tag ++ ['$']) hlast fun more => by
      rw [← List.append_cons, dollarLexeme_tagged hne htag]
  · rw [dollarLexeme_placeholder hdouble hclose] at h
    cases h
    refine ⟨cs.takeWhile isTagPart, hcs.symm, fun c hc => ?_, fun after' hafter => ?_⟩
    · exact not_blank_of_isTagPart (htag c (List.mem_of_getLast? hc))
    · obtain ⟨htake, hdrop⟩ := run_local (fun _ => not_blank_of_isTagPart) hafter
      have hsame := untilBlank_append hafter (cs.takeWhile isTagPart)
      rw [hcs] at hsame
      rw [dollarLexeme_placeholder, htake, hdrop]
      · rwa [Ne, head_of_untilBlank hsame (by decide)]
      · rwa [hdrop, Ne, head_of_untilBlank hafter (by decide)]

/-- Nothing but a word, a number or an operator begins with the character in front of the text. -/
structure Plain (c : Char) (rest : List Char) : Prop where
  mark : c ∉ ['\'', '"', '$']
  line : c = '-' → rest.head? ≠ some '-'
  comment : c = '/' → rest.head? ≠ some '*'
  quoted : c ∈ ['b', 'B', 'n', 'N', 'x', 'X', 'e', 'E'] → rest.head? ≠ some '\''
  doubleQuoted : c ∈ ['b', 'B'] → rest.head? ≠ some '"'
  unicode : c ∈ ['u', 'U'] → rest.head? = some '&' → rest.tail.head? ≠ some '\''

theorem Plain.lexeme_eq_other {c : Char} {rest : List Char} (h : Plain c rest)
    (hc : isBlank c = false) : lexeme c rest = lexeme.other c rest := by
  obtain ⟨hmark, hline, hcomment, hquoted, hdouble, hunicode⟩ := h
  have hsql : c ∉ [' ', '\t', '\n', '\r'] := by
    intro hmem
    have hall : [' ', '\t', '\n', '\r'].all isBlank := by decide
    rw [List.all_eq_true.mp hall c hmem] at hc
    cases hc
  simp only [List.mem_cons, List.not_mem_nil, or_false, not_or] at *
  unfold lexeme
  match rest with
  | [] => grind
  | [d] => grind
  | d :: e :: rest => grind

/-- Whether this is so is seen from what stands before a blank. -/
theorem Plain.congr {c : Char} {rest rest' : List Char} (h : Plain c rest)
    (hsame : untilBlank rest' = untilBlank rest) : Plain c rest' := by
  have hhead : ∀ d, isBlank d = false → rest.head? ≠ some d → rest'.head? ≠ some d :=
    fun d hd hne heq => hne ((head_of_untilBlank hsame hd).mp heq)
  refine ⟨h.mark, fun hc => hhead _ (by decide) (h.line hc),
    fun hc => hhead _ (by decide) (h.comment hc), fun hc => hhead _ (by decide) (h.quoted hc),
    fun hc => hhead _ (by decide) (h.doubleQuoted hc), fun hc hand hquote => ?_⟩
  have hand' := (head_of_untilBlank hsame (by decide)).mp hand
  obtain ⟨more', rfl⟩ := List.head?_eq_some_iff.mp hand
  obtain ⟨more, rfl⟩ := List.head?_eq_some_iff.mp hand'
  rw [untilBlank_cons (by decide), untilBlank_cons (by decide), List.cons_inj_right] at hsame
  exact h.unicode hc rfl ((head_of_untilBlank hsame (by decide)).mp hquote)

theorem takes_other {c : Char} {rest : List Char} {token : Option Token} (hc : isBlank c = false)
    (hquestion : c ≠ '?') (h : lexeme.other c rest = .ok (token, after)) :
    Takes (lexeme.other c) (fun after => .ok (token, after)) rest after := by
  unfold lexeme.other at h ⊢
  split at h
  · next hdigit =>
    simp only [hdigit, if_true]
    exact takes_number (by simpa using hdigit) h
  · next hdigit =>
    split at h
    · next hstart =>
      simp only [hdigit, hstart, if_true]
      refine takes_word ?_ h
      unfold isWordStart at hstart
      unfold isWordPart
      grind
    · next hstart =>
      simp only [hdigit, hstart]
      exact takes_operator hc hquestion h

/-- The piece that a quoted name makes, if it is closed. -/
def nameLexeme : Option (List Char × List Char) → Lexeme
  | some (name, after) => .ok (some (.ofQuoted (String.ofList name)), after)
  | none => .error (.unreadable "quoted name")

/-- The piece that a comment makes, if it is closed. -/
def commentLexeme : Option (List Char) → Lexeme
  | some after => .ok (none, after)
  | none => .error (.unreadable "comment")

/-- A text that is opened by the characters behind a letter. -/
theorem takes_opened {c : Char} {make : String → Literal} {what : String}
    {read : List Char → Option (List Char × List Char)} {token : Option Token} (front : List Char)
    (hfront : ∀ d ∈ front.getLast?, isBlank d = false)
    (hform : ∀ cs, lexeme c (front ++ cs) = literalToken make what (read cs))
    (hread : ∀ text after, read cs = some (text, after) →
      Takes read (fun after => some (text, after)) cs after)
    (h : lexeme c (front ++ cs) = .ok (token, after)) :
    Takes (lexeme c) (fun after => .ok (token, after)) (front ++ cs) after := by
  rw [hform] at h
  exact (takes_literal hread h).prepend front hfront hform

theorem takes_name {token : Option Token}
    (h : nameLexeme (takeQuoted '"' cs) = .ok (token, after)) :
    Takes (fun cs => nameLexeme (takeQuoted '"' cs)) (fun after => .ok (token, after)) cs after := by
  cases hsome : takeQuoted '"' cs with
  | none =>
      rw [hsome] at h
      cases h
  | some found =>
      rw [hsome] at h
      cases h
      exact (takes_quoted (by decide) hsome).map nameLexeme

theorem takes_openedComment {token : Option Token}
    (h : lexeme '/' ('*' :: cs) = .ok (token, after)) :
    Takes (lexeme '/') (fun after => .ok (token, after)) ('*' :: cs) after := by
  replace h : commentLexeme (afterComment 1 ' ' cs) = .ok (token, after) := h
  cases hsome : afterComment 1 ' ' cs with
  | none =>
      rw [hsome] at h
      cases h
  | some found =>
      rw [hsome] at h
      cases h
      exact ((takes_comment hsome).map commentLexeme).prepend ['*'] (getLast_solid rfl)
        fun _ => rfl

/-- The letter in front of a quote says how the text behind the quote is read. -/
theorem takes_letterQuoted {c : Char} {token : Option Token}
    (hc : c ∈ ['b', 'B', 'n', 'N', 'x', 'X', 'e', 'E'])
    (h : lexeme c ('\'' :: cs) = .ok (token, after)) :
    Takes (lexeme c) (fun after => .ok (token, after)) ('\'' :: cs) after := by
  simp only [List.mem_cons, List.not_mem_nil, or_false] at hc
  obtain hbits | hbackslashed | hescaped : (c = 'b' ∨ c = 'B')
      ∨ (c = 'n' ∨ c = 'N' ∨ c = 'x' ∨ c = 'X') ∨ (c = 'e' ∨ c = 'E') := by
    tauto
  · obtain rfl | rfl := hbits
    all_goals
      exact takes_opened ['\''] (getLast_solid rfl) (fun _ => rfl)
        (fun _ _ => takes_quoted (by decide)) h
  · obtain rfl | rfl | rfl | rfl := hbackslashed
    all_goals
      exact takes_opened ['\''] (getLast_solid rfl) (fun _ => rfl)
        (fun _ _ => takes_backslashed (by decide) (by decide)) h
  · obtain rfl | rfl := hescaped
    all_goals
      exact takes_opened ['\''] (getLast_solid rfl) (fun _ => rfl)
        (fun _ _ hsome => (takesUpTo_escaped hsome).takes (by decide)) h

theorem takes_doubleQuoted {c : Char} {token : Option Token} (hc : c ∈ ['b', 'B'])
    (h : lexeme c ('"' :: cs) = .ok (token, after)) :
    Takes (lexeme c) (fun after => .ok (token, after)) ('"' :: cs) after := by
  simp only [List.mem_cons, List.not_mem_nil, or_false] at hc
  obtain rfl | rfl := hc
  all_goals
    exact takes_opened ['"'] (getLast_solid rfl) (fun _ => rfl)
      (fun _ _ => takes_quoted (by decide)) h

theorem takes_unicode {c : Char} {token : Option Token} (hc : c ∈ ['u', 'U'])
    (h : lexeme c ('&' :: '\'' :: cs) = .ok (token, after)) :
    Takes (lexeme c) (fun after => .ok (token, after)) ('&' :: '\'' :: cs) after := by
  simp only [List.mem_cons, List.not_mem_nil, or_false] at hc
  obtain rfl | rfl := hc
  all_goals
    exact takes_opened ['&', '\''] (getLast_solid rfl) (fun _ => rfl)
      (fun _ _ hsome => (takesUpTo_unicode hsome).takes (by decide)) h

/-- A piece that is neither a blank nor a line comment is read from its own characters and what
follows them up to the first blank.  The mark `?` takes the character behind it. -/
theorem takes_lexeme {c : Char} {rest : List Char} {token : Option Token} (hc : isBlank c = false)
    (hquestion : c ≠ '?') (hline : c = '-' → rest.head? ≠ some '-')
    (h : lexeme c rest = .ok (token, after)) :
    Takes (lexeme c) (fun after => .ok (token, after)) rest after := by
  -- The forms that are told by their first character.
  by_cases hstring : c = '\''
  · subst hstring
    exact takes_literal (fun _ _ => takes_quoted (by decide)) h
  by_cases hname : c = '"'
  · subst hname
    exact takes_name h
  by_cases hdollar : c = '$'
  · subst hdollar
    exact takes_dollar h
  -- The forms that are told by the next characters.
  by_cases hcomment : c = '/' ∧ rest.head? = some '*'
  · obtain ⟨rfl, hhead⟩ := hcomment
    obtain ⟨more, rfl⟩ := List.head?_eq_some_iff.mp hhead
    exact takes_openedComment h
  by_cases hquoted : c ∈ ['b', 'B', 'n', 'N', 'x', 'X', 'e', 'E'] ∧ rest.head? = some '\''
  · obtain ⟨hletter, hhead⟩ := hquoted
    obtain ⟨more, rfl⟩ := List.head?_eq_some_iff.mp hhead
    exact takes_letterQuoted hletter h
  by_cases hdouble : c ∈ ['b', 'B'] ∧ rest.head? = some '"'
  · obtain ⟨hletter, hhead⟩ := hdouble
    obtain ⟨more, rfl⟩ := List.head?_eq_some_iff.mp hhead
    exact takes_doubleQuoted hletter h
  by_cases hunicode : c ∈ ['u', 'U'] ∧ rest.head? = some '&' ∧ rest.tail.head? = some '\''
  · obtain ⟨hletter, hand, hquote⟩ := hunicode
    obtain ⟨more, rfl⟩ := List.head?_eq_some_iff.mp hand
    obtain ⟨more, rfl⟩ := List.head?_eq_some_iff.mp hquote
    exact takes_unicode hletter h
  -- What is left is a word, a number or an operator.
  have hplain : Plain c rest := by
    refine ⟨by simp [hstring, hname, hdollar], hline, fun hc hhead => hcomment ⟨hc, hhead⟩,
      fun hc hhead => hquoted ⟨hc, hhead⟩, fun hc hhead => hdouble ⟨hc, hhead⟩,
      fun hc hand hquote => hunicode ⟨hc, hand, hquote⟩⟩
  rw [hplain.lexeme_eq_other hc] at h
  exact (takes_other hc hquestion h).congr fun rest' hrest =>
    (hplain.congr hrest).lexeme_eq_other hc

end QueryReport.Sql
