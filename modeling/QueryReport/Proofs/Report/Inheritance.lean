import Mathlib.Data.List.Pairwise
import QueryReport.Proofs.Report.Literal
import QueryReport.Proofs.Report.Replay

/-!
# `QueryReport.Proofs.Report.Inheritance`: customizations that outlive the query

When a report adopts another query, what a person has set about its columns passes over to the new
ones.  A column inherits by its name, or by its structure if the report says so.

* `Column.Alike p c`: both have a structure, and it is the same.  The structure is that of the
  target's expression, so neither the place of a target nor the name it is given plays a part.
* `inherited_name`, `inherited_alike`, `inherited_strange`: the column that is inherited from.
* `inherited_self`: a column that is still there inherits from itself, whatever else is like it.
* `setSql_customizations` is the result for all queries that a report adopts.
-/

set_option autoImplicit false

namespace QueryReport

open Sql

namespace Column

/-- The columns have the same structure. -/
def Alike (p c : Column) : Prop :=
  fingerprint? p.source.expr ≠ none ∧ fingerprint? p.source.expr = fingerprint? c.source.expr

instance (p c : Column) : Decidable (p.Alike c) := inferInstanceAs (Decidable (_ ∧ _))

instance : Std.Symm fun p c : Column => ¬ p.Alike c :=
  ⟨fun _ _ hnot halike => hnot ⟨halike.2 ▸ halike.1, halike.2.symm⟩⟩

/-- The column has the customizations of the previous column of its name, or none. -/
structure CarriesByName (previous : List Column) (c : Column) : Prop where
  named : ∀ p ∈ previous, p.name = c.name → c.customizations = p.customizations
  unnamed : (∀ p ∈ previous, p.name ≠ c.name) → c.customizations = uncustomized c.name

end Column

namespace Report

variable {r next : Report} {mode : ColumnMatch} {previous columns : List Column} {p c d : Column}

/-! ## Whom a column inherits from -/

/-- A column is found by its name if no other one has that name. -/
theorem find?_name (hdistinct : (columns.map Column.name).Nodup) (hp : p ∈ columns)
    (hname : p.name = c.name) : columns.find? (fun p => p.name == c.name) = some p := by
  have hfound : (columns.find? fun p => p.name == c.name).isSome :=
    List.find?_isSome.mpr ⟨p, hp, beq_iff_eq.mpr hname⟩
  obtain ⟨p', hp'⟩ := Option.isSome_iff_exists.mp hfound
  have hname' : p'.name = c.name := by simpa using List.find?_some hp'
  rw [hp', List.inj_on_of_nodup_map hdistinct (List.mem_of_find?_eq_some hp') hp
    (hname'.trans hname.symm)]

theorem find?_no_name (hname : ∀ p ∈ columns, p.name ≠ c.name) :
    columns.find? (fun p => p.name == c.name) = none :=
  List.find?_eq_none.mpr fun p hp => by simpa using hname p hp

theorem inherited_name (previous : List Column) (c : Column) :
    inherited .name previous c = previous.find? fun p => p.name == c.name := by
  unfold inherited
  cases c.fingerprint <;> rfl

/-- In a list in which only one column is of a structure, that column is inherited from. -/
theorem inherited_alike {fp : String} (hc : c.fingerprint = some fp) (hp : p ∈ previous)
    (hfp : p.fingerprint = some fp) (honly : ∀ p' ∈ previous, p'.fingerprint = some fp → p' = p) :
    inherited .fingerprint previous c = some p := by
  have honly : ∀ p' ∈ previous.filter fun p => p.fingerprint == some fp, p' = p := by
    intro p' hp'
    obtain ⟨hmem, heq⟩ := List.mem_filter.mp hp'
    exact honly p' hmem (beq_iff_eq.mp heq)
  have hmem : p ∈ previous.filter fun p => p.fingerprint == some fp :=
    List.mem_filter.mpr ⟨hp, beq_iff_eq.mpr hfp⟩
  unfold inherited
  rw [hc]
  show (((previous.filter _).find? _).or (previous.filter _).head?).or _ = some p
  -- Every way to pick one of the alike columns picks `p`.
  generalize previous.filter (fun p => p.fingerprint == some fp) = alike at honly hmem
  cases hfind : alike.find? fun p => p.name == c.name with
  | some found =>
      rw [Option.some_or, Option.some_or, honly found (List.mem_of_find?_eq_some hfind)]
  | none =>
      cases alike with
      | nil => cases hmem
      | cons first alike =>
          rw [Option.none_or, List.head?_cons, Option.some_or, honly first List.mem_cons_self]

/-- Where nothing is of the structure of a column, the name counts. -/
theorem inherited_strange (hc : ∀ fp, c.fingerprint = some fp → ∀ p ∈ previous,
      p.fingerprint ≠ some fp) :
    inherited .fingerprint previous c = previous.find? fun p => p.name == c.name := by
  unfold inherited
  cases hfp : c.fingerprint with
  | none => rfl
  | some fp =>
      have hnone : previous.filter (fun p => p.fingerprint == some fp) = [] :=
        List.filter_eq_nil_iff.mpr fun p hp => by simpa using hc fp hfp p hp
      show (((previous.filter _).find? _).or (previous.filter _).head?).or _ = _
      rw [hnone]
      rfl

/-- A column that is still there inherits from itself.  Others of the same structure do not matter,
since among them the name decides. -/
theorem inherited_self (hdistinct : (columns.map Column.name).Nodup) (hc : c ∈ columns)
    (hname : d.name = c.name) (hfingerprint : d.fingerprint = c.fingerprint) :
    inherited mode columns d = some c := by
  have hbyName := find?_name hdistinct hc hname.symm
  cases mode with
  | name => rw [inherited_name, hbyName]
  | fingerprint =>
      unfold inherited
      rw [hfingerprint]
      cases hfp : c.fingerprint with
      | none => exact hbyName
      | some fp =>
          have hmem : c ∈ columns.filter fun p => p.fingerprint == some fp :=
            List.mem_filter.mpr ⟨hc, beq_iff_eq.mpr hfp⟩
          -- The name singles the column out among those of its structure as well.
          have halike : (columns.filter fun p => p.fingerprint == some fp).find?
              (fun p => p.name == d.name) = some c :=
            find?_name (hdistinct.sublist (List.filter_sublist.map Column.name)) hmem hname.symm
          show (((columns.filter _).find? _).or _).or _ = _
          rw [halike]
          rfl

/-! ## What the new columns carry -/

theorem carriesByName_of_find? (hdistinct : (previous.map Column.name).Nodup)
    (h : c.customizations = (previous.find? fun p => p.name == c.name).elim
      (Column.uncustomized c.name) Column.customizations) : c.CarriesByName previous where
  named p hp hname := by rw [h, find?_name hdistinct hp hname]; rfl
  unnamed hname := by rw [h, find?_no_name hname]; rfl

/-- A column that is built carries the customizations of the column it inherits from. -/
theorem customizations_of_mem_buildColumns {number : Nat} {found : List Column}
    {items : List SelectItem} (h : buildColumns mode previous number found items = .ok columns)
    (hc : c ∈ columns) : c.Derived ∧ c.customizations
      = (inherited mode previous c).elim (Column.uncustomized c.name) Column.customizations := by
  refine ⟨buildColumns_derived h c hc, ?_⟩
  rw [buildColumns_rebuilt h] at hc
  obtain ⟨d, -, n, rfl⟩ := mem_rebuilt hc
  -- The search looks at name and structure, which inheriting does not change.
  have hinherited : ∀ p, inherited mode previous ((d.fresh n).inherit p)
      = inherited mode previous (d.fresh n) := by
    intro p
    cases p <;> rfl
  rw [hinherited, Column.inherit_name]
  exact Column.customizations_inherit d n _

theorem customizations_rebuilt (hdistinct : (columns.map Column.name).Nodup) {number : Nat}
    {some : List Column} (h : ∀ c ∈ some, c ∈ columns) :
    (rebuilt mode columns number some).map Column.customizations
      = some.map Column.customizations := by
  induction some generalizing number with
  | nil => rfl
  | cons c some ih =>
      rw [List.forall_mem_cons] at h
      have hself : inherited mode columns (c.fresh number) = .some c :=
        inherited_self hdistinct h.1 rfl rfl
      rw [rebuilt, List.map_cons, List.map_cons, hself, ih h.2]
      rfl

/-- A column that has no like among others has no fingerprint among theirs. -/
theorem alike_iff (hp : p.Derived) (hc : c.Derived) :
    p.Alike c ↔ ∃ fp, c.fingerprint = some fp ∧ p.fingerprint = some fp := by
  rw [hp.fingerprint_eq, hc.fingerprint_eq]
  constructor
  · rintro ⟨hsome, heq⟩
    obtain ⟨fp, hfp⟩ := Option.ne_none_iff_exists'.mp hsome
    exact ⟨fp, heq ▸ hfp, hfp⟩
  · rintro ⟨fp, hfp, hfp'⟩
    exact ⟨hfp' ▸ Option.some_ne_none fp, hfp'.trans hfp.symm⟩

/-- What the columns of a new query carry.  By name it is what the previous column of that name
carried.  By structure, if no two previous columns are alike, it is what the one like it carried,
wherever it stood and whatever it was called, and only without such a one what the column of that
name carried.  And as long as the query is there it may be adopted again without any change to what
a person has set. -/
theorem setSql_customizations {text : String} (hr : Reachable r) (h : r.setSql text = .ok next) :
    (r.columnMatch = .name → ∀ c ∈ next.columns, c.CarriesByName r.columns)
      ∧ (r.columnMatch = .fingerprint → r.columns.Pairwise (fun p p' => ¬ p.Alike p') →
          ∀ c ∈ next.columns,
            (∀ p ∈ r.columns, p.Alike c → c.customizations = p.customizations)
            ∧ ((∀ p ∈ r.columns, ¬ p.Alike c) → c.CarriesByName r.columns))
      ∧ ∀ edited : Report, Reachable edited → edited.baseline = next.baseline →
          ∃ again, edited.setSql text = .ok again
            ∧ again.columns.map Column.name = edited.columns.map Column.name
            ∧ again.columns.map Column.customizations
              = edited.columns.map Column.customizations := by
  obtain ⟨q, columns, limit, offset, hq, hcolumns, _, _, rfl⟩ := setSql_eq_ok.mp h
  have hdistinct := hr.consistent.names_distinct
  have hderived := hr.replayable.derived
  refine ⟨fun hmode c hc => ?_, fun hmode hunlike c hc => ?_, fun edited hedited hbaseline => ?_⟩
  · obtain ⟨-, hcarries⟩ := customizations_of_mem_buildColumns hcolumns hc
    rw [hmode, inherited_name] at hcarries
    exact carriesByName_of_find? hdistinct hcarries
  · obtain ⟨hc, hcarries⟩ := customizations_of_mem_buildColumns hcolumns hc
    rw [hmode] at hcarries
    constructor
    · intro p hp halike
      obtain ⟨fp, hcfp, hpfp⟩ := (alike_iff (hderived p hp) hc).mp halike
      -- Two columns of this structure would be alike.
      have honly : ∀ p' ∈ r.columns, p'.fingerprint = some fp → p' = p := by
        intro p' hp' hfp'
        by_contra hne
        have halike := (alike_iff (hderived p' hp') (hderived p hp)).mpr ⟨fp, hpfp, hfp'⟩
        exact hunlike.forall hp' hp hne halike
      rw [hcarries, inherited_alike hcfp hp hpfp honly]
      rfl
    · intro hstrange
      have hnone : ∀ fp, c.fingerprint = some fp → ∀ p ∈ r.columns, p.fingerprint ≠ some fp :=
        fun fp hfp p hp hpfp => hstrange p hp ((alike_iff (hderived p hp) hc).mpr ⟨fp, hfp, hpfp⟩)
      rw [inherited_strange hnone] at hcarries
      exact carriesByName_of_find? hdistinct hcarries
  -- Each column of the same query inherits from itself.
  · obtain ⟨limit, offset, hagain⟩ := setSql_replay hedited hbaseline hq edited
    exact ⟨_, hagain, rebuilt_names _,
      customizations_rebuilt hedited.consistent.names_distinct fun _ hc => hc⟩

/-- Two columns change their places and their names, and each is still known by its structure. -/
theorem customizations_after_renaming :
    ∃ (r next : Report) (p c : Column), Reachable r
      ∧ r.setSql "SELECT id AS lname, lower(name) AS label FROM t" = .ok next
      ∧ p ∈ r.columns ∧ c ∈ next.columns ∧ p.name = "lname" ∧ c.name = "label"
      ∧ p.attributes.caption = "Lower name" ∧ c.customizations = p.customizations := by
  let first : Report := ({} : Report).adopting "SELECT lower(name) AS lname, id FROM t" rfl
  let r : Report := ({ first with columnMatch := .fingerprint }).mapColumn "lname"
    (·.withAttributes { caption := "Lower name" })
  let next : Report := r.adopting "SELECT id AS lname, lower(name) AS label FROM t" rfl
  have hr : Reachable r := ((Reachable.empty.adopting rfl).step
    (.columnMatch .fingerprint)).step (.column "lname" { caption := "Lower name" })
  have hnext : r.setSql "SELECT id AS lname, lower(name) AS label FROM t" = .ok next :=
    setSql_adopting rfl rfl (by decide +kernel)
  obtain ⟨p, hp⟩ := Option.isSome_iff_exists.mp
    (show (r.column? "lname").isSome by decide +kernel)
  obtain ⟨c, hc⟩ := Option.isSome_iff_exists.mp
    (show (next.column? "label").isSome by decide +kernel)
  have hcaption : (r.column? "lname").map (·.attributes.caption) = some "Lower name" := by
    decide +kernel
  -- The two have one structure, whatever they are called and wherever they stand.
  have halike : ∀ p ∈ r.column? "lname", ∀ c ∈ next.column? "label", p.Alike c := by
    decide +kernel
  rw [hp] at hcaption halike
  rw [hc] at halike
  have hpmem := List.mem_of_find?_eq_some hp
  have hcmem := List.mem_of_find?_eq_some hc
  have hcarries := ((setSql_customizations hr hnext).2.1 rfl (by decide +kernel) c hcmem).1 p hpmem
  refine ⟨r, next, p, c, hr, hnext, hpmem, hcmem, ?_, ?_, ?_, hcarries (halike p rfl c rfl)⟩
  · simpa using List.find?_some hp
  · simpa using List.find?_some hc
  · exact Option.some.inj hcaption

end Report

end QueryReport
