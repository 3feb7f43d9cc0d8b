import QueryReport.Proofs.Except
import QueryReport.Report.Basic

/-!
# `QueryReport.Proofs.Column.Build`: the columns of a target list

* `Column.Built` says what a column owes to its target: the name is the target's own, it is not
  empty, and the target is no wildcard.
* `buildColumns_sources`: columns that are built stand for exactly the targets, in order.
* `buildColumns_built`, `buildColumns_names`: each of them is `Built`, and their names differ.
-/

set_option autoImplicit false

namespace QueryReport

open Sql

namespace Column

/-- The name of a column is the one that its target has, whatever the number of the target. -/
structure Built (c : Column) : Prop where
  named : ∃ number, itemName number c.source = .ok c.name
  nonempty : c.name ≠ ""
  single : c.source.expr.isStar = false

/-- The number of a target occurs in errors only. -/
theorem itemName_number {item : SelectItem} {m n : Nat} {a b : String}
    (ha : itemName m item = .ok a) (hb : itemName n item = .ok b) : a = b := by
  unfold itemName at ha hb
  cases hlabel : item.label with
  | some label =>
      rw [hlabel] at ha hb
      exact (Except.ok.inj ha).symm.trans (Except.ok.inj hb)
  | none =>
      rw [hlabel] at ha hb
      cases hexpr : item.expr <;> rw [hexpr] at ha hb <;> cases ha <;> cases hb <;> rfl

/-- Columns of the same target have the same name. -/
theorem Built.name_eq {c d : Column} (hc : c.Built) (hd : d.Built) (h : c.source = d.source) :
    c.name = d.name := by
  obtain ⟨m, hm⟩ := hc.named
  obtain ⟨n, hn⟩ := hd.named
  rw [h] at hm
  exact itemName_number hm hn

theorem make_ok {number : Nat} {item : SelectItem} {options : Attributes} {c : Column}
    (h : make number item options = .ok c) : c.source = item ∧ c.Built := by
  unfold make at h
  by_cases hstar : item.expr.isStar = true
  · rw [if_pos hstar] at h
    cases h
  · rw [if_neg hstar, bind_eq_ok] at h
    obtain ⟨name, hname, h⟩ := h
    by_cases hempty : name = ""
    · rw [if_pos hempty] at h
      cases h
    · rw [if_neg hempty] at h
      cases h
      exact ⟨rfl, ⟨number, hname⟩, hempty, Bool.eq_false_iff.mpr hstar⟩

/-! ## Attributes -/

@[simp] theorem inherit_name (c : Column) (p : Option Column) : (c.inherit p).name = c.name := by
  cases p <;> rfl

@[simp] theorem inherit_source (c : Column) (p : Option Column) :
    (c.inherit p).source = c.source := by
  cases p <;> rfl

@[simp] theorem withAttributes_name (c : Column) (a : Attributes) :
    (c.withAttributes a).name = c.name := rfl

@[simp] theorem withAttributes_source (c : Column) (a : Attributes) :
    (c.withAttributes a).source = c.source := rfl

theorem Built.inherit {c : Column} (h : c.Built) (p : Option Column) : (c.inherit p).Built := by
  refine ⟨?_, ?_, ?_⟩
  · rw [inherit_name, inherit_source]
    exact h.named
  · rw [inherit_name]
    exact h.nonempty
  · rw [inherit_source]
    exact h.single

theorem Built.withAttributes {c : Column} (h : c.Built) (a : Attributes) :
    (c.withAttributes a).Built :=
  ⟨h.named, h.nonempty, h.single⟩

end Column

namespace Report

variable {mode : ColumnMatch} {previous found columns : List Column} {number : Nat}
  {items : List SelectItem}

/-- One step of building: the first target gives the first column, whose name is new. -/
theorem buildColumns_cons {item : SelectItem}
    (h : buildColumns mode previous number found (item :: items) = .ok columns) :
    ∃ c rest, columns = c :: rest ∧ c.source = item ∧ c.Built ∧ c.name ∉ found.map Column.name
      ∧ buildColumns mode previous (number + 1) (found ++ [c]) items = .ok rest := by
  unfold buildColumns at h
  obtain ⟨c, hc, h⟩ := bind_eq_ok.mp h
  obtain ⟨hsource, hbuilt⟩ := Column.make_ok hc
  by_cases hfound : (found.any fun f => f.name == c.name) = true
  · rw [if_pos hfound] at h
    cases h
  · rw [if_neg hfound, bind_eq_ok] at h
    obtain ⟨rest, hrest, h⟩ := h
    refine ⟨c.inherit (inherited mode previous c), rest, (pure_eq_ok.mp h).symm, ?_,
      hbuilt.inherit _, ?_, hrest⟩
    · rw [Column.inherit_source, hsource]
    · rw [Column.inherit_name]
      simpa using hfound

theorem buildColumns_sources
    (h : buildColumns mode previous number found items = .ok columns) :
    columns.map Column.source = items := by
  induction items generalizing number found columns with
  | nil =>
      cases h
      rfl
  | cons item items ih =>
      obtain ⟨c, rest, rfl, hsource, _, _, hrest⟩ := buildColumns_cons h
      rw [List.map_cons, hsource, ih hrest]

theorem buildColumns_built (h : buildColumns mode previous number found items = .ok columns) :
    ∀ c ∈ columns, c.Built := by
  induction items generalizing number found columns with
  | nil =>
      cases h
      exact fun c hc => nomatch hc
  | cons item items ih =>
      obtain ⟨c, rest, rfl, _, hbuilt, _, hrest⟩ := buildColumns_cons h
      exact List.forall_mem_cons.mpr ⟨hbuilt, ih hrest⟩

/-- The names differ from each other and from those found before.  The second part is what the
induction needs: a later column is compared with all that came before it. -/
theorem buildColumns_names (h : buildColumns mode previous number found items = .ok columns) :
    (columns.map Column.name).Nodup
      ∧ ∀ name ∈ columns.map Column.name, name ∉ found.map Column.name := by
  induction items generalizing number found columns with
  | nil =>
      cases h
      exact ⟨List.nodup_nil, fun name hname => nomatch hname⟩
  | cons item items ih =>
      obtain ⟨c, rest, rfl, _, _, hnew, hrest⟩ := buildColumns_cons h
      obtain ⟨hdistinct, hfresh⟩ := ih hrest
      have hfresh : ∀ name ∈ rest.map Column.name,
          name ∉ found.map Column.name ∧ name ≠ c.name := by
        intro name hname
        have h := hfresh name hname
        rw [List.map_append, List.mem_append, not_or] at h
        exact ⟨h.1, fun heq => h.2 (heq ▸ List.mem_singleton_self _)⟩
      -- The first column is found before all the others, so none of them has its name.
      rw [List.map_cons, List.nodup_cons, List.forall_mem_cons]
      refine ⟨⟨fun hmem => (hfresh _ hmem).2 rfl, hdistinct⟩, hnew, ?_⟩
      exact fun name hname => (hfresh name hname).1

end Report

end QueryReport
