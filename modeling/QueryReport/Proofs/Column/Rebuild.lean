import QueryReport.Proofs.Column.Build

/-!
# `QueryReport.Proofs.Column.Rebuild`: building the columns of a target list again

Of a column only the attributes are its own; all else can be read off its target.  `Column.Derived`
says so.  Columns that are derived can therefore be built again from their targets, and what comes
of it is known beforehand.

* `make_derived`, `make_fresh`: columns that are made are derived, and derived columns can be made
  with any number.
* `rebuilt`: the columns that are built from the targets of others, without a look at the targets.
* `buildColumns_sources_of_derived`: the targets of derived columns with different names are built
  into these columns rebuilt.
* `buildColumns_rebuilt`: columns that are built from any targets are their own rebuilding.
-/

set_option autoImplicit false

namespace QueryReport

open Sql

namespace Column

variable {c : Column} {number : Nat} {item : SelectItem}

/-- The column as it is made anew, before it takes over any attributes. -/
def fresh (c : Column) (number : Nat) : Column :=
  c.withAttributes { sequenceNo := number, caption := Text.caption c.name }

/-- All of the column but its attributes can be read off its target. -/
def Derived (c : Column) : Prop := ∃ number, make number c.source = .ok (c.fresh number)

theorem itemName_any {name : String} {m : Nat} (n : Nat) (h : itemName m item = .ok name) :
    itemName n item = .ok name := by
  unfold itemName at h ⊢
  cases hlabel : item.label with
  | some label =>
      rw [hlabel] at h
      exact h
  | none =>
      rw [hlabel] at h
      cases hexpr : item.expr <;> rw [hexpr] at h <;> first | exact h | cases h

/-- A target makes a column if it is no wildcard and has a name. -/
theorem make_eq_ok {options : Attributes} : make number item options = .ok c ↔
    item.expr.isStar = false ∧ ∃ name, itemName number item = .ok name ∧ name ≠ "" ∧ c = {
      name
      path := item.expr.referencePath?
      function := functionName? item.expr
      fingerprint := fingerprint? item.expr
      source := item
      attributes := { options with sequenceNo := number, caption := Text.caption name } } := by
  unfold make
  -- The two checks are made in this order, so a wildcard is refused before its name is looked at.
  cases hstar : item.expr.isStar with
  | true => exact ⟨nofun, nofun⟩
  | false =>
      rw [if_neg (by decide), bind_eq_ok, eq_self, true_and]
      refine exists_congr fun name => and_congr_right fun _ => ?_
      by_cases hempty : name = ""
      · rw [if_pos hempty]
        exact ⟨nofun, fun h => absurd hempty h.1⟩
      · rw [if_neg hempty, pure_eq_ok, eq_comm]
        exact ⟨fun h => ⟨hempty, h⟩, fun h => h.2⟩

/-- A column that can be made at all can be made with any number. -/
theorem make_fresh (h : c.Derived) (number : Nat) :
    make number c.source = .ok (c.fresh number) := by
  obtain ⟨m, hm⟩ := h
  obtain ⟨hstar, name, hname, hempty, hc⟩ := make_eq_ok.mp hm
  refine make_eq_ok.mpr ⟨hstar, name, itemName_any number hname, hempty, ?_⟩
  rw [fresh, withAttributes, Column.mk.injEq] at hc ⊢
  obtain ⟨rfl, hpath, hfunction, hfingerprint, hsource, -⟩ := hc
  exact ⟨rfl, hpath, hfunction, hfingerprint, hsource, rfl⟩

theorem make_derived {options : Attributes} (h : make number item options = .ok c) :
    c.source = item ∧ c.Derived := by
  obtain ⟨hstar, name, hname, hempty, rfl⟩ := make_eq_ok.mp h
  exact ⟨rfl, number, make_eq_ok.mpr ⟨hstar, name, hname, hempty, rfl⟩⟩

/-- The fingerprint of a column is that of its target's expression. -/
theorem Derived.fingerprint_eq (h : c.Derived) :
    c.fingerprint = fingerprint? c.source.expr := by
  obtain ⟨number, hmake⟩ := h
  obtain ⟨-, name, -, -, hc⟩ := make_eq_ok.mp hmake
  exact congrArg Column.fingerprint hc

/-- So is its path, if that is a reference. -/
theorem Derived.path_eq (h : c.Derived) : c.path = c.source.expr.referencePath? := by
  obtain ⟨number, hmake⟩ := h
  obtain ⟨-, name, -, -, hc⟩ := make_eq_ok.mp hmake
  exact congrArg Column.path hc

/-! ## Attributes -/

theorem Derived.withAttributes (h : c.Derived) (a : Attributes) : (c.withAttributes a).Derived := h

theorem Derived.inherit (h : c.Derived) (previous : Option Column) :
    (c.inherit previous).Derived := by
  cases previous <;> exact h

/-- What a person has set about a column: all of the attributes but the number. -/
def customizations (c : Column) : Attributes := { c.attributes with sequenceNo := 0 }

/-- What there is before a person has set anything. -/
def uncustomized (name : String) : Attributes := { caption := Text.caption name }

theorem customizations_inherit (c : Column) (number : Nat) (previous : Option Column) :
    ((c.fresh number).inherit previous).customizations
      = previous.elim (uncustomized c.name) customizations := by
  cases previous <;> rfl

end Column

namespace Report

variable {mode : ColumnMatch} {previous found columns : List Column} {number : Nat}
  {items : List SelectItem}

/-! ## Building again -/

/-- The columns that are built from the targets of the given ones. -/
def rebuilt (mode : ColumnMatch) (previous : List Column) : Nat → List Column → List Column
  | _, [] => []
  | number, c :: columns =>
    (c.fresh number).inherit (inherited mode previous (c.fresh number))
      :: rebuilt mode previous (number + 1) columns

theorem buildColumns_derived (h : buildColumns mode previous number found items = .ok columns) :
    ∀ c ∈ columns, c.Derived := by
  induction items generalizing number found columns with
  | nil =>
      cases h
      exact fun c hc => nomatch hc
  | cons item items ih =>
      unfold buildColumns at h
      obtain ⟨c, hc, h⟩ := bind_eq_ok.mp h
      have hderived := (Column.make_derived hc).2
      by_cases hfound : (found.any fun f => f.name == c.name) = true
      · rw [if_pos hfound] at h
        cases h
      · rw [if_neg hfound, bind_eq_ok] at h
        obtain ⟨rest, hrest, h⟩ := h
        rw [← pure_eq_ok.mp h]
        exact List.forall_mem_cons.mpr ⟨hderived.inherit _, ih hrest⟩

theorem buildColumns_sources_of_derived (hderived : ∀ c ∈ columns, c.Derived)
    (hdistinct : (columns.map Column.name).Nodup)
    (hfresh : ∀ name ∈ columns.map Column.name, name ∉ found.map Column.name) :
    buildColumns mode previous number found (columns.map Column.source)
      = .ok (rebuilt mode previous number columns) := by
  induction columns generalizing number found with
  | nil => rfl
  | cons c columns ih =>
      rw [List.forall_mem_cons] at hderived
      rw [List.map_cons, List.nodup_cons] at hdistinct
      rw [List.map_cons, List.forall_mem_cons] at hfresh
      let built := (c.fresh number).inherit (inherited mode previous (c.fresh number))
      have hname : built.name = c.name := Column.inherit_name _ _
      have hnew : ¬ (found.any fun f => f.name == (c.fresh number).name) = true := by
        have hc : (c.fresh number).name ∉ found.map Column.name := hfresh.1
        simpa using hc
      -- The column that was just built has a name that the ones to come do not have.
      have hrest : buildColumns mode previous (number + 1) (found ++ [built])
          (columns.map Column.source) = .ok (rebuilt mode previous (number + 1) columns) := by
        refine ih hderived.2 hdistinct.2 fun name hmem => ?_
        rw [List.map_append, List.mem_append, not_or]
        refine ⟨hfresh.2 name hmem, ?_⟩
        rw [List.map_singleton, List.mem_singleton, hname]
        rintro rfl
        exact hdistinct.1 hmem
      rw [List.map_cons, buildColumns, Column.make_fresh hderived.1 number]
      show (if (found.any fun f => f.name == (c.fresh number).name) = true then _ else _) = _
      rw [if_neg hnew]
      show (buildColumns mode previous (number + 1) (found ++ [built]) _ >>= _) = _
      rw [hrest]
      rfl

/-- Columns that are built are those that would be built again from their own targets. -/
theorem buildColumns_rebuilt (h : buildColumns mode previous number found items = .ok columns) :
    columns = rebuilt mode previous number columns := by
  obtain ⟨hdistinct, hfresh⟩ := buildColumns_names h
  have hagain := @buildColumns_sources_of_derived mode previous found columns number
    (buildColumns_derived h) hdistinct hfresh
  rw [buildColumns_sources h, h, Except.ok.injEq] at hagain
  exact hagain

/-! ## What rebuilding keeps -/

theorem map_rebuilt {α : Type} {f g : Column → α} {columns : List Column}
    (h : ∀ c ∈ columns, ∀ (number : Nat) (p : Option Column),
      f ((c.fresh number).inherit p) = g c) :
    (rebuilt mode previous number columns).map f = columns.map g := by
  induction columns generalizing number with
  | nil => rfl
  | cons c columns ih =>
      rw [List.forall_mem_cons] at h
      rw [rebuilt, List.map_cons, List.map_cons, h.1, ih h.2]

theorem rebuilt_names (columns : List Column) :
    (rebuilt mode previous number columns).map Column.name = columns.map Column.name :=
  map_rebuilt fun c _ number p => Column.inherit_name (c.fresh number) p

/-- Each rebuilt column has taken over the attributes of the column it inherits from. -/
theorem mem_rebuilt {c : Column} (hc : c ∈ rebuilt mode previous number columns) :
    ∃ d ∈ columns, ∃ n, c = (d.fresh n).inherit (inherited mode previous (d.fresh n)) := by
  induction columns generalizing number with
  | nil => cases hc
  | cons d columns ih =>
      rw [rebuilt, List.mem_cons] at hc
      obtain rfl | hc := hc
      · exact ⟨d, List.mem_cons_self, number, rfl⟩
      · obtain ⟨d', hd', n, hn⟩ := ih hc
        exact ⟨d', List.mem_cons_of_mem _ hd', n, hn⟩

end Report

end QueryReport
