/-!
# `QueryReport.Proofs.Except`: taking computations apart

A computation that succeeds was made of steps that succeed.  `bind_eq_ok` says so for one step;
`mapM_ok_mem` says so for the members of a list, where `mapM_map_ok` is about steps that undo
others, and `map_eq_map` compares two computations in part of their results.
-/

set_option autoImplicit false

namespace QueryReport

variable {ε α β : Type}

theorem bind_eq_ok {x : Except ε α} {f : α → Except ε β} {b : β} :
    (x >>= f) = .ok b ↔ ∃ a, x = .ok a ∧ f a = .ok b := by
  constructor
  · intro h
    cases x with
    | error e => cases h
    | ok a => exact ⟨a, rfl, h⟩
  · rintro ⟨a, rfl, h⟩
    exact h

theorem map_eq_ok {x : Except ε α} {f : α → β} {b : β} :
    f <$> x = .ok b ↔ ∃ a, x = .ok a ∧ f a = b := by
  cases x with
  | error e => exact ⟨nofun, fun ⟨_, h, _⟩ => nomatch h⟩
  | ok a =>
      constructor
      · intro h
        exact ⟨a, rfl, Except.ok.inj h⟩
      · rintro ⟨_, ⟨⟩, rfl⟩
        rfl

@[simp] theorem pure_eq_ok {a b : α} : (pure a : Except ε α) = .ok b ↔ a = b :=
  ⟨fun h => by cases h; rfl, fun h => by rw [h]; rfl⟩

/-- A result that was evaluated, with what is known of it. -/
theorem exists_ok {x : Except ε α} {p : α → Prop} (h : ∃ a ∈ x.toOption, p a) :
    ∃ a, x = .ok a ∧ p a := by
  obtain ⟨a, hmem, hp⟩ := h
  cases x with
  | error e => cases hmem
  | ok _ =>
      cases hmem
      exact ⟨a, rfl, hp⟩

/-- Two computations agree in what is seen of their results if they fail alike, or succeed with
results that look alike. -/
theorem map_eq_map {x y : Except ε α} {f : α → β} : f <$> x = f <$> y ↔
    (∃ e, x = .error e ∧ y = .error e) ∨ ∃ a b, x = .ok a ∧ y = .ok b ∧ f a = f b := by
  constructor
  · intro h
    cases x with
    | error e =>
        cases y with
        | error e' => exact .inl ⟨e, rfl, congrArg _ (Except.error.inj h).symm⟩
        | ok b => cases h
    | ok a =>
        cases y with
        | error e => cases h
        | ok b => exact .inr ⟨a, b, rfl, rfl, Except.ok.inj h⟩
  · rintro (⟨e, rfl, rfl⟩ | ⟨a, b, rfl, rfl, h⟩)
    · rfl
    · exact congrArg Except.ok h

/-- Each result of a list of steps comes from a member of the list. -/
theorem mapM_ok_mem {f : α → Except ε β} {as : List α} {bs : List β}
    (h : as.mapM f = .ok bs) {b : β} (hb : b ∈ bs) : ∃ a ∈ as, f a = .ok b := by
  induction as generalizing bs with
  | nil =>
      cases h
      cases hb
  | cons a as ih =>
      rw [List.mapM_cons, bind_eq_ok] at h
      obtain ⟨first, hfirst, h⟩ := h
      obtain ⟨rest, hrest, h⟩ := bind_eq_ok.mp h
      cases h
      cases hb with
      | head => exact ⟨a, .head _, hfirst⟩
      | tail _ hmem =>
          obtain ⟨a', ha', hfa'⟩ := ih hrest hmem
          exact ⟨a', .tail _ ha', hfa'⟩

/-- Each member of a list of steps that succeed has its result among the results. -/
theorem mem_mapM_ok {f : α → Except ε β} {as : List α} {bs : List β}
    (h : as.mapM f = .ok bs) {a : α} (ha : a ∈ as) : ∃ b ∈ bs, f a = .ok b := by
  induction as generalizing bs with
  | nil => cases ha
  | cons first as ih =>
      rw [List.mapM_cons, bind_eq_ok] at h
      obtain ⟨b, hb, h⟩ := h
      obtain ⟨rest, hrest, h⟩ := bind_eq_ok.mp h
      cases h
      cases ha with
      | head => exact ⟨b, .head _, hb⟩
      | tail _ hmem =>
          obtain ⟨b', hb', hfb'⟩ := ih hrest hmem
          exact ⟨b', .tail _ hb', hfb'⟩

/-- A list of results comes out of steps that undo what was made of each of them. -/
theorem mapM_map_ok {f : α → Except ε β} {g : β → α} {bs : List β}
    (h : ∀ b ∈ bs, f (g b) = .ok b) : (bs.map g).mapM f = .ok bs := by
  induction bs with
  | nil => rfl
  | cons b bs ih =>
      rw [List.forall_mem_cons] at h
      rw [List.map_cons, List.mapM_cons, h.1, ih h.2]
      rfl

end QueryReport
