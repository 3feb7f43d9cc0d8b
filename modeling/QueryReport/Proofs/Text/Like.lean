import Mathlib.Data.List.Infix

/-!
# `QueryReport.Proofs.Text.Like`: patterns with wildcards

`like p s` says that a text matches a pattern by the rules of SQL.  A percent sign in the pattern
stands for any run of characters, an underscore for any one character, and a backslash takes what
is behind it for itself.

* `like_append`, `like_percent`: what characters that are no wildcards and a percent sign match in
  front of a pattern.
* `shortest`: a text that matches a pattern and has no character more than it needs.  A pattern
  that has no shortest match has no match (`like_eq_false`).
* `like_prefix_iff`, `like_suffix_iff`, `like_infix_iff`: a pattern of a text and percent signs
  finds the text at the beginning, at the end or anywhere exactly if the text has no wildcards.
-/

set_option autoImplicit false

namespace QueryReport.Text

/-- Whether a text matches a pattern.  A backslash with nothing behind it matches no text. -/
@[simp]
def like : List Char → List Char → Bool
  | [], s => s.isEmpty
  | '%' :: p, s => s.tails.any (like p)
  | '_' :: p, s =>
    match s with
    | [] => false
    | _ :: s => like p s
  | '\\' :: p, s =>
    match p, s with
    | c :: p, d :: s => d == c && like p s
    | _, _ => false
  | c :: p, s =>
    match s with
    | [] => false
    | d :: s => d == c && like p s

/-- A character that does not stand for itself in a pattern. -/
def IsWildcard (c : Char) : Prop := c = '%' ∨ c = '_' ∨ c = '\\'

instance (c : Char) : Decidable (IsWildcard c) := inferInstanceAs (Decidable (_ ∨ _ ∨ _))

theorem not_isWildcard {c : Char} : ¬ IsWildcard c ↔ c ≠ '%' ∧ c ≠ '_' ∧ c ≠ '\\' := by
  simp [IsWildcard]

/-- There are no wildcards in the text. -/
def Bare (s : List Char) : Prop := ∀ c ∈ s, ¬ IsWildcard c

instance (s : List Char) : Decidable (Bare s) := List.decidableBAll (fun c => ¬ IsWildcard c) s

variable {c : Char} {p s v m : List Char}

theorem bare_cons : Bare (c :: v) ↔ ¬ IsWildcard c ∧ Bare v := List.forall_mem_cons

/-! ## Matching -/

/-- A percent sign stands for any run of characters, so the rest may match any end of the text. -/
theorem like_percent : like ('%' :: p) s = true ↔ ∃ t, t <:+ s ∧ like p t = true := by
  simp [like, List.any_eq_true]

/-- A character that is no wildcard stands for itself. -/
theorem like_cons (hc : ¬ IsWildcard c) :
    like (c :: p) s = true ↔ ∃ t, s = c :: t ∧ like p t = true := by
  obtain ⟨hpercent, hunderscore, hbackslash⟩ := not_isWildcard.mp hc
  rw [like.eq_def]
  cases s <;> simp

/-- Characters that are no wildcards stand for themselves, whatever pattern is behind them. -/
theorem like_append (hv : Bare v) : like (v ++ p) s = true ↔ ∃ t, s = v ++ t ∧ like p t = true := by
  induction v generalizing s with
  | nil => simp
  | cons c v ih =>
      obtain ⟨hc, hv⟩ := bare_cons.mp hv
      rw [List.cons_append, like_cons hc]
      constructor
      · rintro ⟨t, rfl, ht⟩
        obtain ⟨u, rfl, hu⟩ := (ih hv).mp ht
        exact ⟨u, rfl, hu⟩
      · rintro ⟨u, rfl, hu⟩
        exact ⟨v ++ u, rfl, (ih hv).mpr ⟨u, rfl, hu⟩⟩

/-- Text without wildcards matches nothing but itself. -/
theorem like_bare (hv : Bare v) : like v s = true ↔ s = v := by
  have h := like_append (p := []) (s := s) hv
  rw [List.append_nil] at h
  rw [h]
  simp [like]

/-- With a percent sign behind it, text without wildcards matches what begins with it. -/
theorem like_bare_percent (hv : Bare v) : like (v ++ ['%']) s = true ↔ v <+: s := by
  have hany : ∀ t, like ['%'] t = true := fun t => like_percent.mpr ⟨[], List.nil_suffix, rfl⟩
  rw [like_append hv]
  constructor
  · rintro ⟨t, rfl, -⟩
    exact List.prefix_append v t
  · rintro ⟨t, rfl⟩
    exact ⟨t, rfl, hany t⟩

/-! ## Shortest matches -/

/-- A text that matches a pattern: nothing for a percent sign, and an `a` for an underscore. -/
@[simp]
def shortest : List Char → Option (List Char)
  | [] => some []
  | '%' :: p => shortest p
  | '_' :: p => ('a' :: ·) <$> shortest p
  | '\\' :: p =>
    match p with
    | [] => none
    | c :: p => (c :: ·) <$> shortest p
  | c :: p => (c :: ·) <$> shortest p

theorem like_shortest (h : shortest p = some m) : like p m = true := by
  fun_induction shortest p generalizing m with
  | case1 =>
      cases h
      rfl
  | case2 p ih => exact like_percent.mpr ⟨m, List.suffix_refl m, ih h⟩
  | case3 p ih =>
      obtain ⟨m, hm, rfl⟩ := Option.map_eq_some_iff.mp h
      exact ih hm
  | case4 => cases h
  | case5 c p ih =>
      obtain ⟨m, hm, rfl⟩ := Option.map_eq_some_iff.mp h
      simp [like, ih hm]
  | case6 c p hpercent hunderscore hbackslash ih =>
      obtain ⟨m, hm, rfl⟩ := Option.map_eq_some_iff.mp h
      have hc : ¬ IsWildcard c := not_isWildcard.mpr ⟨hpercent, hunderscore, hbackslash⟩
      exact (like_cons hc).mpr ⟨m, rfl, ih hm⟩

/-- A pattern without a shortest match ends in the middle of an escape and has no match at all. -/
theorem like_eq_false (h : shortest p = none) : like p s = false := by
  -- Only the lone backslash (`case4`) fails by itself; elsewhere the rest of the pattern does.
  fun_induction shortest p generalizing s with
  | case1 => cases h
  | case2 p ih =>
      rw [Bool.eq_false_iff, Ne, like_percent]
      rintro ⟨t, -, ht⟩
      rw [ih h] at ht
      cases ht
  | case3 p ih =>
      have hp : shortest p = none := by simpa using h
      cases s with
      | nil => rfl
      | cons d s => exact ih hp
  | case4 => rfl
  | case5 c p ih =>
      have hp : shortest p = none := by simpa using h
      cases s with
      | nil => rfl
      | cons d s => simp [like, ih hp]
  | case6 c p hpercent hunderscore hbackslash ih =>
      have hp : shortest p = none := by simpa using h
      have hc : ¬ IsWildcard c := not_isWildcard.mpr ⟨hpercent, hunderscore, hbackslash⟩
      rw [Bool.eq_false_iff, Ne, like_cons hc]
      rintro ⟨t, -, ht⟩
      rw [ih hp] at ht
      cases ht

theorem shortest_cons (hc : ¬ IsWildcard c) : shortest (c :: p) = (c :: ·) <$> shortest p := by
  obtain ⟨hpercent, hunderscore, hbackslash⟩ := not_isWildcard.mp hc
  rw [shortest.eq_def]
  simp

/-- A percent sign at the end completes an escape, if the text ends in the middle of one. -/
theorem exists_shortest_percent (v : List Char) : ∃ m, shortest (v ++ ['%']) = some m := by
  have hcons : ∀ (c : Char) {p : List Char}, (∃ m, shortest (p ++ ['%']) = some m) →
      ∃ m, (c :: ·) <$> shortest (p ++ ['%']) = some m := by
    rintro c p ⟨m, hm⟩
    exact ⟨c :: m, by rw [hm]; rfl⟩
  fun_induction shortest v with
  | case1 => exact ⟨[], rfl⟩
  | case2 p ih => exact ih
  | case3 p ih => exact hcons 'a' ih
  | case4 => exact ⟨['%'], rfl⟩
  | case5 c p ih => exact hcons c ih
  | case6 c p hpercent hunderscore hbackslash ih =>
      have hc : ¬ IsWildcard c := not_isWildcard.mpr ⟨hpercent, hunderscore, hbackslash⟩
      rw [List.cons_append, shortest_cons hc]
      exact hcons c ih

/-- Every wildcard of a text makes the shortest match shorter than the text, or it is an underscore
and the match has an `a` in its place.  So only a text without wildcards is its own shortest match,
whether or not a percent sign is behind it. -/
theorem bare_of_shortest {tail : List Char} (htail : tail = [] ∨ tail = ['%'])
    (h : shortest (v ++ tail) = some m) : m.length ≤ v.length ∧ (m = v → Bare v) := by
  -- The text is gone through as the pattern that it is, up to the tail.
  fun_induction shortest v generalizing m with
  | case1 =>
      obtain rfl | rfl := htail <;> cases h <;> exact ⟨Nat.le_refl 0, fun _ => List.forall_mem_nil _⟩
  | case2 p ih =>
      have hle := (ih h).1
      refine ⟨Nat.le_succ_of_le hle, fun heq => absurd hle ?_⟩
      rw [heq]
      exact Nat.not_succ_le_self p.length
  | case3 p ih =>
      obtain ⟨m, hm, rfl⟩ := Option.map_eq_some_iff.mp h
      have hle := (ih hm).1
      exact ⟨Nat.succ_le_succ hle, by simp⟩
  | case4 =>
      obtain rfl | rfl := htail <;> cases h
      exact ⟨Nat.le_refl 1, by simp⟩
  | case5 c p ih =>
      obtain ⟨m, hm, rfl⟩ := Option.map_eq_some_iff.mp h
      have hle := (ih hm).1
      refine ⟨Nat.le_succ_of_le (Nat.succ_le_succ hle), fun heq => ?_⟩
      have hlength := congrArg List.length heq
      simp only [List.length_cons] at hlength
      omega
  | case6 c p hpercent hunderscore hbackslash ih =>
      have hc : ¬ IsWildcard c := not_isWildcard.mpr ⟨hpercent, hunderscore, hbackslash⟩
      rw [List.cons_append, shortest_cons hc] at h
      obtain ⟨m, hm, rfl⟩ := Option.map_eq_some_iff.mp h
      obtain ⟨hle, hbare⟩ := ih hm
      refine ⟨Nat.succ_le_succ hle, fun heq => ?_⟩
      exact bare_cons.mpr ⟨hc, hbare (List.cons.inj heq).2⟩

/-- A text that is found in its own shortest match has no wildcards. -/
theorem bare_of_infix {tail : List Char} (htail : tail = [] ∨ tail = ['%'])
    (h : shortest (v ++ tail) = some m) (hwithin : v <:+: m) : Bare v := by
  obtain ⟨hle, hbare⟩ := bare_of_shortest htail h
  exact hbare (hwithin.eq_of_length_le hle).symm

/-! ## Finding a text -/

/-- A text with a percent sign behind it matches what begins with the text, as long as there are no
wildcards in the text, and only then. -/
theorem like_prefix_iff : (∀ s, like (v ++ ['%']) s = true ↔ v <+: s) ↔ Bare v := by
  constructor
  · intro h
    obtain ⟨m, hm⟩ := exists_shortest_percent v
    have hprefix : v <+: m := (h m).mp (like_shortest hm)
    exact bare_of_infix (.inr rfl) hm hprefix.isInfix
  · intro hv s
    exact like_bare_percent hv

/-- A text with a percent sign before it matches what ends with the text, as long as there are no
wildcards in the text, and only then. -/
theorem like_suffix_iff : (∀ s, like ('%' :: v) s = true ↔ v <:+ s) ↔ Bare v := by
  constructor
  · intro h
    have hself : like ('%' :: v) v = true := (h v).mpr (List.suffix_refl v)
    -- The text itself is matched, so the pattern does not end in the middle of an escape.
    cases hm : shortest v with
    | none =>
        have hnone : shortest ('%' :: v) = none := hm
        rw [like_eq_false hnone] at hself
        cases hself
    | some m =>
        have hsuffix : v <:+ m :=
          (h m).mp (like_percent.mpr ⟨m, List.suffix_refl m, like_shortest hm⟩)
        exact bare_of_infix (.inl rfl) (by rwa [List.append_nil]) hsuffix.isInfix
  · intro hv s
    rw [like_percent]
    constructor
    · rintro ⟨t, hsuffix, ht⟩
      rwa [(like_bare hv).mp ht] at hsuffix
    · intro hsuffix
      exact ⟨v, hsuffix, (like_bare hv).mpr rfl⟩

/-- A text between percent signs matches what contains the text, as long as there are no wildcards
in the text, and only then. -/
theorem like_infix_iff : (∀ s, like ('%' :: (v ++ ['%'])) s = true ↔ v <:+: s) ↔ Bare v := by
  constructor
  · intro h
    obtain ⟨m, hm⟩ := exists_shortest_percent v
    have hwithin : v <:+: m :=
      (h m).mp (like_percent.mpr ⟨m, List.suffix_refl m, like_shortest hm⟩)
    exact bare_of_infix (.inr rfl) hm hwithin
  · intro hv s
    rw [like_percent, List.infix_iff_prefix_suffix]
    refine exists_congr fun t => ?_
    rw [like_bare_percent hv, and_comm]

end QueryReport.Text
