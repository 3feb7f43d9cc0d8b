import QueryReport.Proofs.Except
import QueryReport.Proofs.Sql.Reading.Basic
import QueryReport.Sql.Edit

/-!
# `QueryReport.Proofs.Sql.Reading.Selected`: every `SELECT` that is read has targets

A target list is read as one or more entries with commas between them, so no text is read as a
`SELECT` without targets.

* `Ensures P p`: whatever the reader comes to has the property.
* `ensures_selects_queryAt` and the lemmas before it follow the grammar from a target list up to a
  query.
* `selects_of_parse` is the result for the statements of a text.
-/

set_option autoImplicit false

namespace QueryReport.Sql

namespace Parser

variable {α β : Type} {P : α → Prop} {Q : β → Prop}

/-- Whatever the reader comes to has the property. -/
def Ensures (P : α → Prop) (p : Parser α) : Prop :=
  ∀ ts a rest, p ts = .ok (a, rest) → P a

theorem ensures_pure {a : α} (h : P a) : Ensures P (pure a) := by
  rintro ts _ _ ⟨⟩
  exact h

theorem ensures_throw (e : Fault) : Ensures P (throw e) := nofun

theorem ensures_fail : Ensures P (fail : Parser α) := by
  intro ts a rest h
  cases ts <;> cases h

theorem ensures_true (p : Parser α) : Ensures (fun _ => True) p := fun _ _ _ _ => trivial

theorem Ensures.bind {p : Parser α} {f : α → Parser β} (hp : Ensures P p)
    (hf : ∀ a, P a → Ensures Q (f a)) : Ensures Q (p >>= f) := by
  intro ts b rest h
  obtain ⟨a, us, ha, h⟩ := bind_eq_ok_iff.mp h
  exact hf a (hp ts a us ha) us b rest h

/-- Where what an earlier step comes to does not matter. -/
theorem ensures_bind {p : Parser α} {f : α → Parser β} (hf : ∀ a, Ensures Q (f a)) :
    Ensures Q (p >>= f) :=
  (ensures_true p).bind fun a _ => hf a

theorem Ensures.map {p : Parser α} {f : α → β} (hp : Ensures P p) (hf : ∀ a, P a → Q (f a)) :
    Ensures Q (f <$> p) := by
  intro ts b rest h
  obtain ⟨a, ha, rfl⟩ := map_eq_ok_iff.mp h
  exact hf a (hp ts a rest ha)

/-! ## Lists -/

theorem ensures_separatedUpTo (p : Parser α) (count : Nat) :
    Ensures (fun as => as ≠ []) (separatedUpTo p count) := by
  cases count with
  | zero => exact ensures_fail
  | succ count =>
      refine ensures_bind fun a => ensures_bind fun more => ?_
      cases more with
      | true => exact ensures_bind fun as => ensures_pure (List.cons_ne_nil a as)
      | false => exact ensures_pure (List.cons_ne_nil a [])

theorem ensures_separated (p : Parser α) : Ensures (fun as => as ≠ []) (separated p) :=
  ensures_bind fun ts => ensures_separatedUpTo p (ts.length + 1)

end Parser

/-! ## From targets to queries -/

/-- If the body is a `SELECT`, it has targets. -/
def Body.Selects : Body → Prop
  | .select s => s.targets.toList ≠ []
  | _ => True

namespace Parser.Grammar

variable (g : Grammar)

theorem ensures_targets_selectStart :
    Ensures (fun s => s.targets.toList ≠ []) g.selectStart := by
  unfold selectStart
  refine ensures_bind fun _ => ensures_bind fun _ => ensures_bind fun _ => ?_
  refine (ensures_separated g.selectItem).bind fun targets htargets => ?_
  refine ensures_bind fun _ => ensures_bind fun _ => ensures_bind fun _ => ensures_bind fun _ => ?_
  refine ensures_pure ?_
  rw [SelectItems.toList_ofList]
  exact htargets

theorem ensures_targets_selectEnd {s : Select} (h : s.targets.toList ≠ []) :
    Ensures (fun s => s.targets.toList ≠ []) (g.selectEnd s) := by
  unfold selectEnd
  refine ensures_bind fun _ => ensures_bind fun _ => ensures_bind fun _ => ensures_bind fun _ => ?_
  refine ensures_bind fun _ => ensures_bind fun _ => ?_
  exact ensures_pure h

theorem ensures_targets_select : Ensures (fun s => s.targets.toList ≠ []) g.select :=
  (ensures_targets_selectStart g).bind fun _ hs => ensures_bind fun _ =>
    ensures_targets_selectEnd g hs

theorem ensures_selects_simpleBody : Ensures Body.Selects g.simpleBody := by
  unfold simpleBody
  refine ensures_bind fun key => ?_
  split
  -- Only the first form is a `SELECT`: `VALUES`, `TABLE` and parentheses are other bodies.
  · exact (ensures_targets_select g).map fun _ hs => hs
  · refine ensures_bind fun _ => ensures_bind fun _ => ensures_pure trivial
  · refine ensures_bind fun _ => ?_
    unfold wholeTable
    refine ensures_bind fun _ => ensures_bind fun _ => ensures_bind fun _ => ?_
    split
    · exact ensures_pure trivial
    · exact ensures_fail
    · exact ensures_pure trivial
    · exact ensures_fail
  · exact (ensures_true _).map fun _ _ => trivial

theorem ensures_selects_intersections (count : Nat) {left : Body} (h : left.Selects) :
    Ensures Body.Selects (g.intersections left count) := by
  induction count generalizing left with
  | zero => exact ensures_fail
  | succ count ih =>
      unfold intersections
      refine ensures_bind fun more => ?_
      cases more with
      -- What is combined is no plain `SELECT` any more.
      | true => exact ensures_bind fun _ => ensures_bind fun _ => ih trivial
      | false => exact ensures_pure h

theorem ensures_selects_intersection : Ensures Body.Selects g.intersection :=
  (ensures_selects_simpleBody g).bind fun _ h => ensures_bind fun _ =>
    ensures_selects_intersections g _ h

theorem ensures_selects_unions (count : Nat) {left : Body} (h : left.Selects) :
    Ensures Body.Selects (g.unions left count) := by
  induction count generalizing left with
  | zero => exact ensures_fail
  | succ count ih =>
      unfold unions
      refine ensures_bind fun word => ?_
      cases word with
      | none => exact ensures_pure h
      | some word => exact ensures_bind fun _ => ensures_bind fun _ => ih trivial

theorem ensures_selects_body : Ensures Body.Selects g.body :=
  (ensures_selects_intersection g).bind fun _ h => ensures_bind fun _ =>
    ensures_selects_unions g _ h

theorem ensures_selects_insert : Ensures Body.Selects g.insert := by
  unfold insert
  refine ensures_bind fun _ => ensures_bind fun _ => ensures_bind fun _ => ensures_bind fun _ => ?_
  refine ensures_bind fun directory => ?_
  cases directory with
  | true =>
      refine ensures_bind fun _ => ensures_bind fun _ => ensures_bind fun _ => ?_
      exact ensures_pure trivial
  | false =>
      refine ensures_bind fun _ => ensures_bind fun _ => ensures_bind fun _ => ?_
      refine ensures_bind fun _ => ensures_bind fun _ => ensures_bind fun _ => ?_
      exact ensures_pure trivial

theorem ensures_selects_update : Ensures Body.Selects g.update := by
  unfold update
  refine ensures_bind fun _ => ensures_bind fun _ => ensures_bind fun _ => ensures_bind fun _ => ?_
  refine ensures_bind fun _ => ensures_bind fun _ => ensures_bind fun _ => ?_
  exact ensures_pure trivial

/-- A query has the body that is read, whatever stands around it. -/
theorem ensures_selects_queryAt : Ensures (fun q => q.body.Selects) g.queryAt := by
  unfold queryAt
  refine ensures_bind fun _ => ensures_bind fun insert => ?_
  cases insert with
  | true => exact (ensures_selects_insert g).map fun _ h => h
  | false =>
      refine ensures_bind fun update => ?_
      cases update with
      | true => exact (ensures_selects_update g).map fun _ h => h
      | false =>
          refine (ensures_selects_body g).bind fun _ h => ?_
          unfold queryEnd
          refine ensures_bind fun _ => ensures_bind fun _ => ensures_bind fun _ => ?_
          exact ensures_bind fun _ => ensures_bind fun _ => ensures_bind fun _ => ensures_pure h

theorem ensures_selects_query (depth : Nat) :
    Ensures (fun q => q.body.Selects) (grammar depth).query := by
  cases depth with
  | zero => exact ensures_throw _
  | succ depth => exact ensures_selects_queryAt (grammar depth)

end Parser.Grammar

/-! ## Statements -/

/-- If the statement is a query of a `SELECT`, that has targets. -/
def Statement.Selects : Statement → Prop
  | .query q => q.body.Selects
  | .other => True

namespace Parser

theorem ensures_selects_statementAt (depth : Nat) :
    Ensures Statement.Selects (statementAt depth) := by
  cases depth with
  | zero => exact ensures_throw _
  | succ depth =>
      unfold statementAt
      refine ensures_bind fun ts => ?_
      split
      · exact (Grammar.ensures_selects_query depth).map fun _ h => h
      · split
        · exact (Grammar.ensures_selects_query depth).map fun _ h => h
        · split
          · exact ensures_bind fun _ => ensures_pure trivial
          · exact ensures_bind fun _ => ensures_bind fun _ => ensures_pure trivial
      · exact ensures_fail

theorem ensures_statementsUpTo {S : Statement → Prop} {p : Parser Statement} (hp : Ensures S p)
    (between : Bool) (count : Nat) :
    Ensures (fun ss => ∀ s ∈ ss, S s) (statementsUpTo p between count) := by
  induction count generalizing between with
  | zero => exact ensures_fail
  | succ count ih =>
      unfold statementsUpTo
      refine ensures_bind fun semicolon => ?_
      cases semicolon with
      | true => exact ih false
      | false =>
          refine ensures_bind fun next => ?_
          cases next with
          | none => exact ensures_pure nofun
          | some t =>
              cases between with
              | true =>
                  show Ensures _ (if keyOf (some t) = "END" then pure [] else fail)
                  split
                  · exact ensures_pure nofun
                  · exact ensures_fail
              | false =>
                  refine hp.bind fun s hs => (ih true).bind fun more hmore => ensures_pure ?_
                  exact List.forall_mem_cons.mpr ⟨hs, hmore⟩

end Parser

/-- No statement of a text is a `SELECT` without targets. -/
theorem selects_of_parse {text : String} {ss : List Statement} (h : parse text = .ok ss) :
    ∀ s ∈ ss, s.Selects := by
  unfold parse at h
  obtain ⟨ts, -, h⟩ := bind_eq_ok.mp h
  obtain ⟨⟨read, rest⟩, hread, h⟩ := bind_eq_ok.mp h
  cases h
  exact Parser.ensures_bind (fun ts => Parser.ensures_statementsUpTo
    (Parser.ensures_selects_statementAt nestingLimit) false _) ts _ rest hread

end QueryReport.Sql
