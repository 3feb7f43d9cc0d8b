import QueryReport.Sql.Edit

/-!
# `QueryReport.Proofs.Sql.Targets`: which edits touch the target list

`Query.Lists q items` says that a query is a plain `SELECT` with exactly these targets.  Paging,
filter, order and grouping leave it alone (`lists_withLimit`, `lists_withFilter`, …); taking a
target out and putting one in front do to the list what their names say (`lists_withoutTarget`,
`lists_withLeadingTarget`), and nothing else (`withoutTarget_eq`, `withLeadingTarget_eq`).
-/

set_option autoImplicit false

namespace QueryReport.Sql.Query

/-- The query is a plain `SELECT` of the given targets. -/
def Lists (q : Query) (items : List SelectItem) : Prop :=
  ∃ s, q.select? = some s ∧ s.targets.toList = items

@[simp] theorem select?_mapSelect (f : Select → Select) (q : Query) :
    (q.mapSelect f).select? = q.select?.map f := by
  unfold mapSelect select?
  cases h : q.body <;> simp [h]

variable {q : Query} {items : List SelectItem}

theorem lists_targets (h : q.select?.isSome) : q.Lists q.targets := by
  obtain ⟨s, hs⟩ := Option.isSome_iff_exists.mp h
  refine ⟨s, hs, ?_⟩
  simp only [targets, hs]

theorem Lists.isSelect (h : q.Lists items) : q.select?.isSome := by
  obtain ⟨s, hs, _⟩ := h
  rw [hs]
  rfl

theorem Lists.targets_eq (h : q.Lists items) : q.targets = items := by
  obtain ⟨s, hs, hitems⟩ := h
  simp only [targets, hs]
  exact hitems

/-- What a change of the `SELECT` does to its target list, it does to the list of the query. -/
theorem Lists.mapSelect (h : q.Lists items) {f : Select → Select}
    {g : List SelectItem → List SelectItem}
    (hf : ∀ s : Select, (f s).targets.toList = g s.targets.toList) :
    (q.mapSelect f).Lists (g items) := by
  obtain ⟨s, hs, hitems⟩ := h
  refine ⟨f s, ?_, ?_⟩
  · rw [select?_mapSelect, hs]
    rfl
  · rw [hf, hitems]

/-! ## Edits that leave the targets alone -/

theorem lists_withLimit (h : q.Lists items) (n : Option Nat) : (q.withLimit n).Lists items := h

theorem lists_withOffset (h : q.Lists items) (n : Option Nat) : (q.withOffset n).Lists items := h

theorem lists_withoutSortKey (h : q.Lists items) (path : String) :
    (q.withoutSortKey path).Lists items := h

theorem lists_withFilter (h : q.Lists items) (e : Option Expr) : (q.withFilter e).Lists items :=
  h.mapSelect (g := id) fun _ => rfl

theorem lists_withoutGroupKey (h : q.Lists items) (path : String) :
    (q.withoutGroupKey path).Lists items :=
  h.mapSelect (g := id) fun _ => rfl

/-! ## Edits of the targets -/

theorem lists_withoutTarget (h : q.Lists items) (item : SelectItem) :
    (q.withoutTarget item).Lists (items.erase item) :=
  h.mapSelect (g := (·.erase item)) fun _ => SelectItems.toList_ofList _

theorem lists_withLeadingTarget (h : q.Lists items) (item : SelectItem) :
    (q.withLeadingTarget item).Lists (item :: items) :=
  h.mapSelect (g := (item :: ·)) fun _ => SelectItems.toList_ofList _

/-- The query with other targets and nothing else changed. -/
def withTargets (q : Query) (items : List SelectItem) : Query :=
  q.mapSelect fun s => { s with targets := .ofList items }

theorem lists_withTargets (h : q.select?.isSome) (items : List SelectItem) :
    (q.withTargets items).Lists items :=
  (lists_targets h).mapSelect (g := fun _ => items) fun _ => SelectItems.toList_ofList items

theorem withTargets_targets (q : Query) : q.withTargets q.targets = q := by
  obtain ⟨_, _, body, _, _, _, _, _, _, _⟩ := q
  cases body with
  | select s =>
      have hs : ({ s with targets := .ofList s.targets.toList } : Select) = s := by
        cases s
        rw [SelectItems.ofList_toList]
      simp only [withTargets, mapSelect, targets, select?, hs]
  | _ => rfl

theorem withTargets_withTargets (q : Query) (items items' : List SelectItem) :
    (q.withTargets items).withTargets items' = q.withTargets items' := by
  obtain ⟨_, _, body, _, _, _, _, _, _, _⟩ := q
  cases body <;> rfl

theorem withoutTarget_eq (q : Query) (item : SelectItem) :
    q.withoutTarget item = q.withTargets (q.targets.erase item) := by
  obtain ⟨_, _, body, _, _, _, _, _, _, _⟩ := q
  cases body <;> rfl

theorem targets_withoutTarget (q : Query) (item : SelectItem) :
    (q.withoutTarget item).targets = q.targets.erase item := by
  obtain ⟨_, _, body, _, _, _, _, _, _, _⟩ := q
  cases body with
  | select s => exact SelectItems.toList_ofList _
  | _ => rfl

theorem withLeadingTarget_eq (q : Query) (item : SelectItem) :
    q.withLeadingTarget item = q.withTargets (item :: q.targets) := by
  obtain ⟨_, _, body, _, _, _, _, _, _, _⟩ := q
  cases body <;> rfl

end QueryReport.Sql.Query
