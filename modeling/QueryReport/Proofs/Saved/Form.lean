import Mathlib.Data.List.Nodup
import QueryReport.Saved.Form

/-!
# `QueryReport.Proofs.Saved.Form`: the columns of a saved report

Columns with different names are put in order without loss (`perm_sortColumns`), so each can be
looked up by its name afterwards (`lookup_sortColumns`).  Columns that are in order stay as they are
(`sortColumns_ordered`).
-/

set_option autoImplicit false

namespace QueryReport.Saved

variable {columns found : List (String × Attributes)} {name : String} {a : Attributes}

/-- A column whose name is new takes no other one's place. -/
theorem perm_insertColumn (h : name ∉ found.map Prod.fst) (a : Attributes) :
    (insertColumn name a found).Perm ((name, a) :: found) := by
  induction found with
  | nil => exact .refl _
  | cons entry found ih =>
      obtain ⟨n, b⟩ := entry
      rw [List.map_cons, List.mem_cons, not_or] at h
      unfold insertColumn
      split
      · exact .refl _
      · rw [if_neg h.1]
        exact ((ih h.2).cons (n, b)).trans (.swap _ _ _)

/-- Columns with different names stay, whatever the order they are put in. -/
theorem perm_sortColumns (h : (columns.map Prod.fst).Nodup) :
    (sortColumns columns).Perm columns := by
  have step : ∀ (columns found : List (String × Attributes)),
      ((found ++ columns).map Prod.fst).Nodup →
        (columns.foldl (fun found entry => insertColumn entry.1 entry.2 found) found).Perm
          (found ++ columns) := by
    intro columns
    induction columns with
    | nil =>
        intro found _
        rw [List.append_nil]
        exact .refl _
    | cons entry columns ih =>
        intro found h
        obtain ⟨name, a⟩ := entry
        have hmoved : (found ++ (name, a) :: columns).Perm ((name, a) :: found ++ columns) :=
          List.perm_middle
        have hnodup := (hmoved.map Prod.fst).nodup_iff.mp h
        rw [List.cons_append, List.map_cons, List.nodup_cons] at hnodup
        have hnew : name ∉ found.map Prod.fst := fun hmem =>
          hnodup.1 (by rw [List.map_append]; exact List.mem_append_left _ hmem)
        -- Up to order, inserting is putting in front, which keeps the names apart.
        have hinsert := (perm_insertColumn hnew a).append_right columns
        rw [List.foldl_cons]
        refine (ih _ ?_).trans (hinsert.trans hmoved.symm)
        rw [(hinsert.map Prod.fst).nodup_iff, ← (hmoved.map Prod.fst).nodup_iff]
        exact h
  exact step columns [] h

theorem lookup_of_mem (h : (columns.map Prod.fst).Nodup) (hmem : (name, a) ∈ columns) :
    columns.lookup name = some a := by
  obtain ⟨before, after, rfl⟩ := List.append_of_mem hmem
  refine List.lookup_eq_some_iff.mpr ⟨before, after, rfl, fun entry hentry => ?_⟩
  rw [List.map_append, List.nodup_append] at h
  rw [bne_iff_ne]
  exact (h.2.2 _ (List.mem_map_of_mem hentry) name List.mem_cons_self).symm

/-- Each column is found among the columns in order. -/
theorem lookup_sortColumns (h : (columns.map Prod.fst).Nodup) (hmem : (name, a) ∈ columns) :
    (sortColumns columns).lookup name = some a := by
  have hperm := perm_sortColumns h
  exact lookup_of_mem ((hperm.map Prod.fst).nodup_iff.mpr h) (hperm.mem_iff.mpr hmem)

/-- A column behind all others is put at the end. -/
theorem insertColumn_last (h : ∀ n ∈ found.map Prod.fst, n < name) (a : Attributes) :
    insertColumn name a found = found ++ [(name, a)] := by
  induction found with
  | nil => rfl
  | cons entry found ih =>
      obtain ⟨n, b⟩ := entry
      rw [List.map_cons, List.forall_mem_cons] at h
      have hne : name ≠ n := fun heq => String.lt_irrefl n (heq ▸ h.1)
      rw [insertColumn, if_neg (String.lt_asymm h.1), if_neg hne, ih h.2]
      rfl

/-- Columns in order of their names stay as they are. -/
theorem sortColumns_ordered (h : (columns.map Prod.fst).Pairwise (· < ·)) :
    sortColumns columns = columns := by
  -- The induction is over the columns that are left, with those found in front of them.
  have step : ∀ (columns found : List (String × Attributes)),
      ((found ++ columns).map Prod.fst).Pairwise (· < ·) →
        columns.foldl (fun found entry => insertColumn entry.1 entry.2 found) found
          = found ++ columns := by
    intro columns
    induction columns with
    | nil => exact fun found _ => (List.append_nil found).symm
    | cons entry columns ih =>
        intro found h
        have hlast : ∀ n ∈ found.map Prod.fst, n < entry.1 := by
          rw [List.map_append, List.pairwise_append] at h
          exact fun n hn => h.2.2 n hn entry.1 List.mem_cons_self
        rw [List.append_cons] at h ⊢
        rw [List.foldl_cons, insertColumn_last hlast]
        exact ih _ h
  exact step columns [] h

end QueryReport.Saved
