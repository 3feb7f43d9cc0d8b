import QueryReport.Proofs.Sql.Lexing.Pieces

/-!
# `QueryReport.Proofs.Sql.Lexing.Takes`: what quoted texts and comments depend on

A text between quotes and a comment are read up to the mark that closes them.  What is behind the
mark matters only up to the first blank: a quote right behind a closing quote would not close it.

* `Takes read result cs after`: the reader comes to its result however the text goes on behind what
  it takes, as long as that is the same up to the first blank.
* `TakesUpTo q read cs text after`: the same for a reader with fuel that takes all up to a mark.
* `takes_quoted`, `takes_backslashed`, `takesUpTo_escaped`, `takesUpTo_unicode`, `takes_dollars`,
  `takesUpTo_tagged` and `takes_comment`: the readers of texts and comments.
-/

set_option autoImplicit false

namespace QueryReport.Sql

open QueryReport.Text

variable {ρ σ : Type}

/-! ## Texts that are the same up to the first blank -/

/-- The characters before the first blank. -/
def untilBlank (cs : List Char) : List Char := cs.takeWhile (!isBlank ·)

theorem untilBlank_cons {c : Char} (h : isBlank c = false) (cs : List Char) :
    untilBlank (c :: cs) = c :: untilBlank cs :=
  List.takeWhile_cons_of_pos (by rw [h]; rfl)

theorem untilBlank_blank {c : Char} (h : isBlank c = true) (cs : List Char) :
    untilBlank (c :: cs) = [] :=
  List.takeWhile_cons_of_neg (by rw [h]; exact Bool.false_ne_true)

/-- A character that is no blank begins both texts or neither. -/
theorem head_of_untilBlank {cs ds : List Char} (h : untilBlank ds = untilBlank cs) {c : Char}
    (hc : isBlank c = false) : ds.head? = some c ↔ cs.head? = some c := by
  have hhead : ∀ cs : List Char, cs.head? = some c ↔ (untilBlank cs).head? = some c := by
    intro cs
    cases cs with
    | nil => rfl
    | cons d cs =>
        by_cases hd : isBlank d = true
        · rw [untilBlank_blank hd]
          refine ⟨fun heq => ?_, nofun⟩
          cases heq
          rw [hc] at hd
          cases hd
        · rw [untilBlank_cons (Bool.eq_false_iff.mpr hd)]
          rfl
  rw [hhead ds, hhead cs, h]

/-- If what follows is the same up to the first blank, then so is the whole. -/
theorem untilBlank_append {cs ds : List Char} (h : untilBlank ds = untilBlank cs)
    (front : List Char) : untilBlank (front ++ ds) = untilBlank (front ++ cs) := by
  induction front with
  | nil => exact h
  | cons c front ih =>
      rw [List.cons_append, List.cons_append]
      by_cases hc : isBlank c = true
      · rw [untilBlank_blank hc, untilBlank_blank hc]
      · rw [untilBlank_cons (Bool.eq_false_iff.mpr hc), untilBlank_cons (Bool.eq_false_iff.mpr hc),
          ih]

/-! ## Readers -/

/-- The reader takes the front of the text and comes to its result, however the text goes on behind
that, as long as it is the same up to the first blank.  What it takes does not end with a blank. -/
def Takes (read result : List Char → ρ) (cs after : List Char) : Prop :=
  ∃ taken, cs = taken ++ after ∧ (∀ c ∈ taken.getLast?, isBlank c = false)
    ∧ ∀ after', untilBlank after' = untilBlank after → read (taken ++ after') = result after'

variable {read result : List Char → ρ} {cs after : List Char}

theorem Takes.map (h : Takes read result cs after) (f : ρ → σ) :
    Takes (fun cs => f (read cs)) (fun after => f (result after)) cs after := by
  obtain ⟨taken, hcs, hlast, hread⟩ := h
  exact ⟨taken, hcs, hlast, fun after' hafter => congrArg f (hread after' hafter)⟩

/-- A reader that goes on with another behind the characters that it takes first. -/
theorem Takes.prepend {read' : List Char → ρ} (h : Takes read result cs after) (front : List Char)
    (hfront : ∀ c ∈ front.getLast?, isBlank c = false)
    (hread' : ∀ cs, read' (front ++ cs) = read cs) : Takes read' result (front ++ cs) after := by
  obtain ⟨taken, rfl, hlast, hread⟩ := h
  refine ⟨front ++ taken, (List.append_assoc _ _ _).symm, fun c hc => ?_, fun after' hafter => ?_⟩
  · rw [List.getLast?_append] at hc
    cases htaken : taken.getLast? with
    | none => exact hfront c (by rwa [htaken] at hc)
    | some d =>
        rw [htaken] at hc hlast
        exact hlast c hc
  · rw [List.append_assoc, hread', hread after' hafter]

/-- A reader that reads the same as another where the text is the same up to the first blank. -/
theorem Takes.congr {read' : List Char → ρ} (h : Takes read result cs after)
    (hread' : ∀ cs', untilBlank cs' = untilBlank cs → read' cs' = read cs') :
    Takes read' result cs after := by
  obtain ⟨taken, rfl, hlast, hread⟩ := h
  refine ⟨taken, rfl, hlast, fun after' hafter => ?_⟩
  rw [hread' _ (untilBlank_append hafter taken), hread after' hafter]

/-- What is taken up to a closing mark. -/
theorem Takes.closed {front : List Char} {q : Char} (hq : isBlank q = false)
    (hcs : cs = front ++ q :: after)
    (hread : ∀ after', untilBlank after' = untilBlank after →
      read (front ++ q :: after') = result after') : Takes read result cs after := by
  refine ⟨front ++ [q], by rw [hcs, List.append_assoc]; rfl, fun c hc => ?_, fun after' h => ?_⟩
  · rw [List.getLast?_concat] at hc
    cases hc
    exact hq
  · rw [List.append_assoc]
    exact hread after' h

theorem takes_quoted {q : Char} (hq : isBlank q = false) {text : List Char}
    (h : takeQuoted q cs = some (text, after)) :
    Takes (takeQuoted q) (fun after => some (text, after)) cs after := by
  obtain ⟨hcs, hhead⟩ := eq_doubled_of_takeQuoted h
  refine .closed hq hcs fun after' hafter => takeQuoted_doubled q text fun heq => hhead ?_
  exact (head_of_untilBlank hafter hq).mp heq

/-! ## Texts with escapes -/

theorem takeBackslashed_end {q : Char} (h : cs.head? ≠ some q) :
    takeBackslashed q (q :: cs) = some ([], cs) := by
  cases cs with
  | nil => simp [takeBackslashed]
  | cons d cs =>
      have hd : d ≠ q := fun heq => h (congrArg some heq)
      simp [takeBackslashed, hd]

theorem takeBackslashed_cons {q c : Char} (hq : c ≠ q) (hslash : c ≠ '\\') (cs : List Char) :
    takeBackslashed q (c :: cs)
      = (takeBackslashed q cs).map fun (text, after) => (c :: text, after) := by
  cases cs with
  | nil => simp [takeBackslashed, hq]
  | cons d cs => simp [takeBackslashed, hq, hslash]

theorem takes_backslashed {q : Char} (hq : isBlank q = false) (hslash : q ≠ '\\')
    {text : List Char} (h : takeBackslashed q cs = some (text, after)) :
    Takes (takeBackslashed q) (fun after => some (text, after)) cs after := by
  suffices hfront : ∃ front, cs = front ++ q :: after
      ∧ ∀ after', untilBlank after' = untilBlank after →
      takeBackslashed q (front ++ q :: after') = some (text, after') by
    obtain ⟨front, hcs, hread⟩ := hfront
    exact .closed hq hcs hread
  fun_induction takeBackslashed q cs generalizing text after with
  | case1 => cases h
  | case2 =>
      cases h
      refine ⟨[], rfl, fun after' hafter => takeBackslashed_end fun heq => ?_⟩
      cases (head_of_untilBlank hafter hq).mp heq
  | case3 c hc => cases h
  | case4 rest ih =>
      obtain ⟨⟨text', after'⟩, hsome, heq⟩ := Option.map_eq_some_iff.mp h
      cases heq
      obtain ⟨front, rfl, hread⟩ := ih hsome
      refine ⟨q :: q :: front, rfl, fun after' hafter => ?_⟩
      simp [takeBackslashed, hread after' hafter]
  -- A closing quote is told by what follows it, which is the same up to the first blank.
  | case5 d rest hd =>
      cases h
      refine ⟨[], rfl, fun after' hafter => takeBackslashed_end fun heq => hd ?_⟩
      exact Option.some.inj ((head_of_untilBlank hafter hq).mp heq)
  | case6 d rest hc ih =>
      obtain ⟨⟨text', after'⟩, hsome, heq⟩ := Option.map_eq_some_iff.mp h
      cases heq
      obtain ⟨front, rfl, hread⟩ := ih hsome
      refine ⟨'\\' :: d :: front, rfl, fun after' hafter => ?_⟩
      simp [takeBackslashed, hslash.symm, hread after' hafter]
  | case7 c d rest hc hc' ih =>
      obtain ⟨⟨text', after'⟩, hsome, heq⟩ := Option.map_eq_some_iff.mp h
      cases heq
      obtain ⟨front, hfront, hread⟩ := ih hsome
      refine ⟨c :: front, by rw [hfront]; rfl, fun after' hafter => ?_⟩
      rw [List.cons_append, takeBackslashed_cons hc hc', hread after' hafter]
      rfl

/-- How far a run of characters goes is seen from the run and one character more. -/
theorem takeWhile_take_local (p : Char → Bool) {n : Nat} {rest rest' : List Char}
    (h : rest'.take (((rest.take n).takeWhile p).length + 1)
      = rest.take (((rest.take n).takeWhile p).length + 1)) :
    (rest'.take n).takeWhile p = (rest.take n).takeWhile p := by
  induction n generalizing rest rest' with
  | zero => rfl
  | succ n ih =>
      cases rest with
      | nil =>
          obtain rfl : rest' = [] := by simpa using h
          rfl
      | cons d rest =>
          -- The next character is in both texts.
          have hhead : rest'.head? = some d := by
            cases rest' <;> simp_all
          obtain ⟨rest', rfl⟩ := List.head?_eq_some_iff.mp hhead
          simp only [List.take_succ_cons] at h ⊢
          by_cases hd : p d = true
          · simp only [List.takeWhile_cons_of_pos hd, List.length_cons, List.cons_inj_right] at h ⊢
            exact ih h
          · rw [List.takeWhile_cons_of_neg hd, List.takeWhile_cons_of_neg hd]

/-- An escape with a fixed number of digits takes all of them and the letter in front. -/
theorem sized_eq_some {n used : Nat} {rest : List Char} {c : Char} :
    escape?.sized n rest = some (c, used) ↔ (rest.take n).length = n
      ∧ (hexNumber? (rest.take n)).bind charOfCode? = some c ∧ n + 1 = used := by
  unfold escape?.sized
  split
  · next hlength =>
    rw [Option.map_eq_some_iff]
    constructor
    · rintro ⟨c, hcode, ⟨⟩⟩
      exact ⟨hlength, hcode, rfl⟩
    · rintro ⟨-, hcode, rfl⟩
      exact ⟨c, hcode, rfl⟩
  · next hlength => exact ⟨nofun, fun h => absurd h.1 hlength⟩

/-- An escape is a character by itself, a letter with a fixed number of digits, or a character with
a run of at most two more behind it. -/
theorem escape?_cases {d c : Char} {rest : List Char} {used : Nat}
    (h : escape? (d :: rest) = some (c, used)) :
    (used = 1 ∧ ∀ rest', escape? (d :: rest') = some (c, used))
      ∨ (∃ n, escape?.sized n rest = some (c, used)
        ∧ ∀ rest', escape? (d :: rest') = escape?.sized n rest')
      ∨ ∃ p : Char → Bool, used = ((rest.take 2).takeWhile p).length + 1
        ∧ ∀ rest', (rest'.take 2).takeWhile p = (rest.take 2).takeWhile p →
          escape? (d :: rest') = some (c, used) := by
  unfold escape? at h
  split at h
  case h_1 heq => cases heq
  case h_2 heq | h_3 heq | h_4 heq | h_5 heq | h_6 heq =>
    cases heq
    cases h
    exact .inl ⟨rfl, fun _ => rfl⟩
  case h_7 heq =>
    cases heq
    exact .inr (.inl ⟨4, h, fun _ => rfl⟩)
  case h_8 heq =>
    cases heq
    exact .inr (.inl ⟨8, h, fun _ => rfl⟩)
  case h_9 rest heq =>
    cases heq
    have hform : ∀ cs, escape? ('x' :: cs) =
        let digits := (cs.take 2).takeWhile isHexDigit
        if digits.isEmpty then some ('x', 1)
        else (byteChar? 16 digits).map (·, digits.length + 1) := fun _ => rfl
    refine .inr (.inr ⟨isHexDigit, ?_, fun rest' hrun => ?_⟩)
    · dsimp only at h
      split at h
      · next hnone =>
        cases h
        rw [List.isEmpty_iff.mp hnone]
        rfl
      · obtain ⟨_, -, heq⟩ := Option.map_eq_some_iff.mp h
        cases heq
        rfl
    · rw [hform, hrun]
      exact h
  case h_10 d rest _ _ _ _ _ _ _ _ heq =>
    cases heq
    have hform : ∀ cs, escape? (d :: cs) = if isDigitOf 8 d then
        let digits := d :: (cs.take 2).takeWhile (isDigitOf 8)
        (byteChar? 8 digits).map (·, digits.length)
      else some (d, 1) := by
      intro cs
      simp_all [escape?]
    split at h
    · next hdigit =>
      refine .inr (.inr ⟨isDigitOf 8, ?_, fun rest' hrun => ?_⟩)
      · obtain ⟨_, -, heq⟩ := Option.map_eq_some_iff.mp h
        cases heq
        rfl
      · rw [hform, if_pos hdigit, hrun]
        exact h
    · next hdigit =>
      cases h
      exact .inl ⟨rfl, fun _ => by rw [hform, if_neg hdigit]⟩

/-- What an escape stands for is seen from the characters that it takes and one character more. -/
theorem escape?_local {rest rest' : List Char} {c : Char} {used : Nat}
    (h : escape? rest = some (c, used)) (hsame : rest'.take (used + 1) = rest.take (used + 1)) :
    escape? rest' = some (c, used) := by
  cases rest with
  | nil => cases h
  | cons d rest =>
      have hhead : rest'.head? = some d := by
        cases rest' <;> simp_all
      obtain ⟨rest', rfl⟩ := List.head?_eq_some_iff.mp hhead
      rw [List.take_succ_cons, List.take_succ_cons, List.cons_inj_right] at hsame
      obtain ⟨-, hform⟩ | ⟨n, hsized, hform⟩ | ⟨p, hused, hform⟩ := escape?_cases h
      · exact hform rest'
      · rw [hform]
        rw [sized_eq_some] at hsized ⊢
        obtain ⟨hlength, hcode, rfl⟩ := hsized
        have htake : rest'.take n = rest.take n := by
          simpa [List.take_take] using congrArg (List.take n) hsame
        rw [htake]
        exact ⟨hlength, hcode, rfl⟩
      · exact hform rest' (takeWhile_take_local p (hused ▸ hsame))

/-- An escape takes no more than there is. -/
theorem escape?_used {rest : List Char} {c : Char} {used : Nat}
    (h : escape? rest = some (c, used)) : used ≤ rest.length := by
  cases rest with
  | nil => cases h
  | cons d rest =>
      rw [List.length_cons]
      obtain ⟨rfl, -⟩ | ⟨n, hsized, -⟩ | ⟨p, rfl, -⟩ := escape?_cases h
      · exact Nat.succ_le_succ (Nat.zero_le _)
      · obtain ⟨hlength, -, rfl⟩ := sized_eq_some.mp hsized
        rw [List.length_take] at hlength
        omega
      · have hrun : ((rest.take 2).takeWhile p).length ≤ rest.length :=
          ((List.takeWhile_sublist p).trans (List.take_sublist 2 rest)).length_le
        exact Nat.succ_le_succ hrun

/-- Given fuel enough, the reader takes the front of the text up to a closing mark and comes to a
text, however it goes on behind that, as long as that is the same up to the first blank. -/
def TakesUpTo (q : Char) (read : Nat → List Char → Option (List Char × List Char))
    (cs text after : List Char) : Prop :=
  ∃ front, cs = front ++ q :: after ∧ ∀ after' fuel, untilBlank after' = untilBlank after →
    (front ++ q :: after').length < fuel → read fuel (front ++ q :: after') = some (text, after')

namespace TakesUpTo

variable {q : Char} {read : Nat → List Char → Option (List Char × List Char)}
  {cs text after : List Char}

theorem takes (h : TakesUpTo q read cs text after) (hq : isBlank q = false) :
    Takes (fun cs => read (cs.length + 1) cs) (fun after => some (text, after)) cs after := by
  obtain ⟨front, hcs, hread⟩ := h
  exact .closed hq hcs fun after' hafter => hread after' _ hafter (Nat.lt_succ_self _)

/-- The mark that closes a text is not written twice. -/
theorem closing (hq : isBlank q = false) (hhead : after.head? ≠ some q)
    (hread : ∀ fuel more, more.head? ≠ some q → read (fuel + 1) (q :: more) = some ([], more)) :
    TakesUpTo q read (q :: after) [] after := by
  refine ⟨[], rfl, fun after' fuel hafter hfuel => ?_⟩
  obtain ⟨fuel, rfl⟩ := Nat.exists_eq_add_one_of_ne_zero (Nat.ne_zero_of_lt hfuel)
  exact hread fuel after' fun heq => hhead ((head_of_untilBlank hafter hq).mp heq)

/-- One step further from the closing mark.  The step may look at the character behind it, which is
there in every text that is compared, if only as the closing mark. -/
theorem step (h : TakesUpTo q read cs text after) (c : Char) (pre text' : List Char)
    (hstep : ∀ fuel d more, cs.head? = some d → read (fuel + 1) (c :: (pre ++ d :: more))
      = (read fuel (d :: more)).map fun (text, after) => (text' ++ text, after)) :
    TakesUpTo q read (c :: (pre ++ cs)) (text' ++ text) after := by
  obtain ⟨front, rfl, hread⟩ := h
  refine ⟨c :: (pre ++ front), by rw [List.cons_append, List.append_assoc], ?_⟩
  intro after' fuel hafter hfuel
  obtain ⟨fuel, rfl⟩ := Nat.exists_eq_add_one_of_ne_zero (Nat.ne_zero_of_lt hfuel)
  have hless : (front ++ q :: after').length < fuel := by
    simp only [List.cons_append, List.append_assoc, List.length_cons, List.length_append]
      at hfuel ⊢
    omega
  obtain ⟨d, more, hmore, hhead⟩ : ∃ d more, front ++ q :: after' = d :: more
      ∧ (front ++ q :: after).head? = some d := by
    cases front with
    | nil => exact ⟨q, after', rfl, rfl⟩
    | cons d front => exact ⟨d, front ++ q :: after', rfl, rfl⟩
  rw [List.cons_append, List.append_assoc, hmore, hstep _ _ _ hhead, ← hmore,
    hread after' fuel hafter hless]
  rfl

end TakesUpTo

theorem takesUpTo_escaped {fuel : Nat} {text : List Char}
    (h : takeEscaped fuel cs = some (text, after)) : TakesUpTo '\'' takeEscaped cs text after := by
  fun_induction takeEscaped fuel cs generalizing text after with
  | case1 => cases h
  | case2 => cases h
  | case3 fuel rest ih =>
      obtain ⟨⟨text, after⟩, hsome, heq⟩ := Option.map_eq_some_iff.mp h
      cases heq
      exact (ih hsome).step '\'' ['\''] ['\''] fun _ _ _ _ => rfl
  | case4 fuel rest hrest =>
      cases h
      refine .closing (by decide) (fun heq => ?_) fun fuel more hmore => ?_
      · obtain ⟨more, rfl⟩ := List.head?_eq_some_iff.mp heq
        exact hrest more rfl
      · have hdouble : ∀ rest, more ≠ '\'' :: rest := fun rest heq => hmore (heq ▸ rfl)
        simp [takeEscaped]
  | case5 fuel rest ih =>
      obtain ⟨⟨c, used⟩, hescape, h⟩ := Option.bind_eq_some_iff.mp h
      dsimp only at h
      split at h
      · cases h
      next hc =>
      obtain ⟨⟨text, after⟩, hsome, heq⟩ := Option.map_eq_some_iff.mp h
      cases heq
      have hlength : (rest.take used).length = used :=
        List.length_take_of_le (escape?_used hescape)
      have hstep := (ih used hsome).step '\\' (rest.take used) [c]
      rw [List.take_append_drop] at hstep
      refine hstep fun fuel d more hd => ?_
      -- The escape is read from its own characters and one more, which the step brings along.
      have hnext : (rest.take used ++ d :: more).take (used + 1) = rest.take (used + 1) := by
        have hone : (rest.drop used).take 1 = [d] := by
          obtain ⟨behind, hbehind⟩ := List.head?_eq_some_iff.mp hd
          rw [hbehind]
          rfl
        rw [List.take_append, hlength, List.take_of_length_le (by omega),
          Nat.add_sub_cancel_left, List.take_add, hone]
        rfl
      show (escape? (rest.take used ++ d :: more) >>= _) = _
      rw [escape?_local hescape hnext]
      show (if c = '\x00' then none else _) = _
      rw [if_neg hc, List.drop_left' hlength]
      rfl
  | case6 fuel c rest hdouble hquote hslash ih =>
      obtain ⟨⟨text, after⟩, hsome, heq⟩ := Option.map_eq_some_iff.mp h
      cases heq
      refine (ih hsome).step c [] [c] fun fuel d more _ => ?_
      rw [List.nil_append, takeEscaped]
      · rfl
      · exact fun _ hc => absurd hc hquote
      · exact hquote
      · exact hslash

/-- The digits that an escape in a `U&'…'` takes, and what follows them. -/
theorem coded_eq_some {fuel n : Nat} {rest text after : List Char}
    (h : takeUnicode.coded fuel n rest = some (text, after)) :
    (rest.take n).length = n ∧ ∃ c text', text = c :: text'
      ∧ takeUnicode fuel (rest.drop n) = some (text', after)
      ∧ ∀ fuel more, takeUnicode.coded fuel n (rest.take n ++ more)
        = (takeUnicode fuel more).map fun (text, after) => (c :: text, after) := by
  unfold takeUnicode.coded at h
  dsimp only at h
  split at h
  · next hlength =>
    obtain ⟨c, hc, h⟩ := Option.bind_eq_some_iff.mp h
    obtain ⟨⟨text, after⟩, hsome, heq⟩ := Option.map_eq_some_iff.mp h
    cases heq
    refine ⟨hlength, c, text, rfl, hsome, fun fuel more => ?_⟩
    unfold takeUnicode.coded
    dsimp only
    rw [List.take_left' hlength, List.drop_left' hlength, if_pos hlength, hc]
    rfl
  · cases h

theorem takesUpTo_unicode {fuel : Nat} {text : List Char}
    (h : takeUnicode fuel cs = some (text, after)) : TakesUpTo '\'' takeUnicode cs text after := by
  induction fuel generalizing cs text after with
  | zero => simp [takeUnicode] at h
  | succ fuel ih =>
      unfold takeUnicode at h
      split at h
      case h_1 heq => cases heq
      case h_2 => cases h
      case h_3 rest heq =>
        cases heq
        obtain ⟨⟨text, after⟩, hsome, heq⟩ := Option.map_eq_some_iff.mp h
        cases heq
        exact (ih hsome).step '\'' ['\''] ['\''] fun _ _ _ _ => by simp [takeUnicode]
      case h_4 rest hrest heq =>
        cases heq
        cases h
        refine .closing (by decide) (fun heq => ?_) fun fuel more hmore => ?_
        · obtain ⟨more, rfl⟩ := List.head?_eq_some_iff.mp heq
          exact hrest more rfl
        · have hdouble : ∀ rest, more ≠ '\'' :: rest := fun rest heq => hmore (heq ▸ rfl)
          simp [takeUnicode]
      case h_5 rest heq =>
        cases heq
        obtain ⟨⟨text, after⟩, hsome, heq⟩ := Option.map_eq_some_iff.mp h
        cases heq
        exact (ih hsome).step '\\' ['\\'] ['\\'] fun _ _ _ _ => by simp [takeUnicode]
      case h_6 rest heq =>
        cases heq
        obtain ⟨-, c, text, rfl, hsome, hcoded⟩ := coded_eq_some h
        have hstep := (ih hsome).step '\\' ('+' :: rest.take 6) [c]
        rw [List.cons_append, List.take_append_drop] at hstep
        refine hstep fun fuel d more _ => ?_
        rw [List.cons_append, takeUnicode]
        exact hcoded fuel (d :: more)
      case h_7 rest hslash hplus heq =>
        cases heq
        obtain ⟨hlength, c, text, rfl, hsome, hcoded⟩ := coded_eq_some h
        have hstep := (ih hsome).step '\\' (rest.take 4) [c]
        rw [List.take_append_drop] at hstep
        refine hstep fun fuel d more _ => ?_
        -- The first digit decides that this is neither of the other two escapes.
        obtain ⟨e, rest, rfl⟩ : ∃ e rest', rest = e :: rest' := by
          cases rest with
          | nil => cases hlength
          | cons e rest => exact ⟨e, rest, rfl⟩
        rw [takeUnicode]
        · exact hcoded fuel (d :: more)
        · rintro _ ⟨⟩
          exact hslash _ rfl
        · rintro _ ⟨⟩
          exact hplus _ rfl
      case h_8 c rest _ hquote _ _ hslash heq =>
        cases heq
        obtain ⟨⟨text, after⟩, hsome, heq⟩ := Option.map_eq_some_iff.mp h
        cases heq
        refine (ih hsome).step c [] [c] fun fuel d more _ => ?_
        rw [List.nil_append, takeUnicode]
        · rfl
        · exact fun _ hc => absurd hc hquote
        · exact hquote
        · exact fun _ hc => absurd hc hslash
        · exact fun _ hc => absurd hc hslash
        · exact hslash

/-! ## Texts between dollar signs, and comments -/

theorem takes_dollars {text : List Char} (h : takeDollars cs = some (text, after)) :
    Takes takeDollars (fun after => some (text, after)) cs after := by
  suffices hfront : ∃ front, cs = front ++ '$' :: '$' :: after
      ∧ ∀ after', takeDollars (front ++ '$' :: '$' :: after') = some (text, after') by
    obtain ⟨front, hcs, hread⟩ := hfront
    have htwo : ∀ more, front ++ '$' :: '$' :: more = front ++ ['$'] ++ '$' :: more :=
      fun more => (List.append_cons front '$' ('$' :: more))
    exact .closed (q := '$') (by decide) (by rw [hcs, htwo]) fun after' _ => by rw [← htwo, hread]
  fun_induction takeDollars cs generalizing text after with
  | case1 => cases h
  | case2 rest =>
      cases h
      exact ⟨[], rfl, fun _ => rfl⟩
  -- The two signs that close the text do not begin any earlier behind another text.
  | case3 c rest hne ih =>
      obtain ⟨⟨text, after⟩, hsome, heq⟩ := Option.map_eq_some_iff.mp h
      cases heq
      obtain ⟨front, rfl, hread⟩ := ih hsome
      refine ⟨c :: front, rfl, fun after' => ?_⟩
      rw [List.cons_append, takeDollars, hread after']
      · rfl
      · rintro more rfl heq
        cases front with
        | nil => exact hne _ rfl rfl
        | cons d front =>
            cases heq
            exact hne _ rfl rfl

/-- How much of a tag follows is seen from that much of the text, if the text goes on. -/
theorem tagOverlap_local {tag cs : List Char} {d : Char} {more : List Char}
    (h : cs.drop (tagOverlap tag cs).length ≠ []) :
    tagOverlap tag (tagOverlap tag cs ++ d :: more) = tagOverlap tag cs := by
  fun_induction tagOverlap tag cs with
  | case1 => exact absurd List.drop_nil h
  | case2 => rfl
  | case3 tag c cs ih =>
      rw [List.length_cons, List.drop_succ_cons] at h
      rw [List.cons_append, tagOverlap, if_pos rfl, ih h]
  | case4 t tag c cs hne =>
      rw [List.cons_append, tagOverlap, if_neg hne]

theorem tagOverlap_append (tag cs : List Char) :
    tagOverlap tag cs ++ cs.drop (tagOverlap tag cs).length = cs := by
  fun_induction tagOverlap tag cs with
  | case1 => rfl
  | case2 => rfl
  | case3 tag c cs ih => rw [List.length_cons, List.drop_succ_cons, List.cons_append, ih]
  | case4 => rfl

/-- A dollar sign in a tagged text, and what is compared with the tag behind it. -/
theorem takeTagged_dollar {tag compared rest : List Char} (fuel : Nat)
    (h : tagOverlap tag (compared ++ rest) = compared) :
    takeTagged tag (fuel + 1) ('$' :: (compared ++ rest)) =
      if compared = tag ∧ rest.head? = some '$' then some ([], rest.tail)
      else if compared ≠ tag ∧ compared.length < tag.length ∧ rest = [] then none
      else (takeTagged tag fuel rest).map fun (text, after) =>
        ('$' :: compared ++ text, after) := by
  rw [takeTagged]
  dsimp only
  rw [h, List.drop_left]
  by_cases htag : compared = tag
  · rw [if_pos htag]
    split
    · simp [htag]
    · next hne =>
      have hhead : rest.head? ≠ some '$' := fun heq => by
        obtain ⟨more, rfl⟩ := List.head?_eq_some_iff.mp heq
        exact hne more rfl
      simp [htag, hhead, takeTagged.more]
  · cases rest <;> simp [htag, takeTagged.more]

/-- Behind a dollar sign in a tagged text there is more than what is compared with the tag.  With the
whole tag and a second dollar sign it closes the text, and without it stands in the text. -/
theorem takeTagged_dollar_eq_some {tag rest text : List Char} {fuel : Nat}
    (h : takeTagged tag (fuel + 1) ('$' :: rest) = some (text, after)) :
    ∃ compared d more, rest = compared ++ d :: more
      ∧ (∀ d more, tagOverlap tag (compared ++ d :: more) = compared)
      ∧ (compared = tag ∧ d = '$' ∧ text = [] ∧ after = more
        ∨ ¬ (compared = tag ∧ some d = some '$') ∧ ∃ text', text = '$' :: compared ++ text'
          ∧ takeTagged tag fuel (d :: more) = some (text', after)) := by
  have hrest := tagOverlap_append tag rest
  have hlocal := @tagOverlap_local tag rest
  generalize hcompared : tagOverlap tag rest = compared at hrest hlocal
  generalize rest.drop compared.length = behind at hrest hlocal
  subst hrest
  rw [takeTagged_dollar fuel hcompared] at h
  cases behind with
  | nil =>
      -- Where the text ends no dollar sign can close it.
      have hnone : takeTagged tag fuel [] = none := by
        cases fuel <;> simp [takeTagged]
      rw [hnone] at h
      simp at h
  | cons d more =>
      refine ⟨compared, d, more, rfl, fun _ _ => hlocal (List.cons_ne_nil _ _), ?_⟩
      split at h
      · next hclose =>
        cases h
        exact .inl ⟨hclose.1, Option.some.inj hclose.2, rfl, rfl⟩
      · next hclose =>
        rw [if_neg fun hend => List.cons_ne_nil _ _ hend.2.2] at h
        obtain ⟨⟨text', after⟩, hsome, heq⟩ := Option.map_eq_some_iff.mp h
        cases heq
        exact .inr ⟨hclose, text', rfl, hsome⟩

theorem takesUpTo_tagged {tag : List Char} {fuel : Nat} {text : List Char}
    (h : takeTagged tag fuel cs = some (text, after)) :
    TakesUpTo '$' (takeTagged tag) cs text after := by
  induction fuel generalizing cs text after with
  | zero => simp [takeTagged] at h
  | succ fuel ih =>
      cases cs with
      | nil => simp [takeTagged] at h
      | cons c rest =>
      by_cases hc : c = '$'
      · subst hc
        obtain ⟨compared, d, more, rfl, hsame, ⟨rfl, rfl, rfl, rfl⟩ | ⟨hopen, text, rfl, hsome⟩⟩ :=
          takeTagged_dollar_eq_some h
        · refine ⟨'$' :: compared, rfl, fun after' fuel' hafter hfuel => ?_⟩
          obtain ⟨fuel', rfl⟩ := Nat.exists_eq_add_one_of_ne_zero (Nat.ne_zero_of_lt hfuel)
          rw [List.cons_append, takeTagged_dollar fuel' (hsame '$' after'), if_pos ⟨rfl, rfl⟩]
          rfl
        · refine (ih hsome).step '$' compared ('$' :: compared) fun fuel' d' more' hd => ?_
          cases hd
          have hopen : ¬ (compared = tag ∧ (d :: more').head? = some '$') := hopen
          rw [takeTagged_dollar fuel' (hsame d more'), if_neg hopen,
            if_neg fun hend => List.cons_ne_nil _ _ hend.2.2]
      · rw [takeTagged] at h
        · obtain ⟨⟨text, after⟩, hsome, heq⟩ := Option.map_eq_some_iff.mp h
          cases heq
          refine (ih hsome).step c [] [c] fun fuel' d more _ => ?_
          rw [List.nil_append, takeTagged]
          · rfl
          · exact hc
        · exact hc

/-- The characters of a comment up to its last mark, whatever stands behind it. -/
theorem takes_comment {depth : Nat} {last : Char} (h : afterComment depth last cs = some after) :
    Takes (afterComment depth last) some cs after := by
  suffices hfront : ∃ front, cs = front ++ '/' :: after
      ∧ ∀ after', afterComment depth last (front ++ '/' :: after') = some after' by
    obtain ⟨front, hcs, hread⟩ := hfront
    exact .closed (by decide) hcs fun after' _ => hread after'
  fun_induction afterComment depth last cs with
  | case1 => cases h
  | case2 depth last c rest hopen ih =>
      obtain ⟨front, rfl, hread⟩ := ih h
      refine ⟨c :: front, rfl, fun after' => ?_⟩
      rw [List.cons_append, afterComment, if_pos hopen, hread]
  | case3 depth last c rest hopen hclose hdepth =>
      cases h
      obtain ⟨rfl, rfl⟩ : last = '*' ∧ c = '/' := by simpa using hclose
      refine ⟨[], rfl, fun after' => ?_⟩
      rw [List.nil_append, afterComment, if_neg hopen, if_pos hclose, if_pos hdepth]
  | case4 depth last c rest hopen hclose hdepth ih =>
      obtain ⟨front, rfl, hread⟩ := ih h
      refine ⟨c :: front, rfl, fun after' => ?_⟩
      rw [List.cons_append, afterComment, if_neg hopen, if_pos hclose, if_neg hdepth, hread]
  | case5 depth last c rest hopen hclose ih =>
      obtain ⟨front, rfl, hread⟩ := ih h
      refine ⟨c :: front, rfl, fun after' => ?_⟩
      rw [List.cons_append, afterComment, if_neg hopen, if_neg hclose, hread]

end QueryReport.Sql
