import QueryReport.Proofs.Column.Signature.Legible

/-!
# `QueryReport.Proofs.Column.Identity`: what a fingerprint tells apart

Expressions that differ in the spelling of casts only have one fingerprint.  Expressions with one
fingerprint are the same but for that spelling, if each of them is legible: then both are what the
reader makes of the pieces of the fingerprint (`recast_of_fingerprint?`).

The condition is not there for convenience.  Where an expression is not legible, others may share
its fingerprint (`expressions_share_fingerprint`).
-/

set_option autoImplicit false

namespace QueryReport.Column

open Sql Text

variable {a b e : Expr}

theorem fingerprint?_recast (e : Expr) : fingerprint? e.recast = fingerprint? e := by
  unfold fingerprint?
  rw [exprAtoms_recast]

/-- An expression that is read back has atoms. -/
theorem fingerprint?_of_legible (h : Legible e) :
    exprAtoms e ≠ [] ∧ fingerprint? e = some (".".intercalate (exprAtoms e)) := by
  obtain ⟨n, hread⟩ := reads_expr e h.readable
  have hopens := (hread n (Nat.le_refl n)).opens []
  have hne : exprAtoms e ≠ [] := by
    intro hnil
    rw [hnil] at hopens
    cases hopens
  refine ⟨hne, ?_⟩
  unfold fingerprint?
  split
  · next hnil => exact absurd hnil hne
  · rfl

/-- A fingerprint is cut into the pieces of the atoms that it was made of. -/
theorem pieces_fingerprint (h : Legible e) :
    pieces (".".intercalate (exprAtoms e)) = cut (exprAtoms e) :=
  pieces_intercalate (fingerprint?_of_legible h).1 h.sealed

/-- Legible expressions with one fingerprint are read from the same pieces. -/
theorem recast_of_fingerprint? (ha : Legible a) (hb : Legible b)
    (h : fingerprint? a = fingerprint? b) : a.recast = b.recast := by
  rw [(fingerprint?_of_legible ha).2, (fingerprint?_of_legible hb).2, Option.some.injEq] at h
  have hcut : cut (exprAtoms a) = cut (exprAtoms b) := by
    rw [← pieces_fingerprint ha, ← pieces_fingerprint hb, h]
  obtain ⟨n, hread⟩ := (reads_expr a ha.readable).and (reads_expr b hb.readable)
  obtain ⟨hreada, hreadb⟩ := hread n (Nat.le_refl n)
  have hreada := hreada.reads [] ends_nil
  have hreadb := hreadb.reads [] ends_nil
  rw [hcut, hreadb, Option.some.injEq, Prod.mk.injEq] at hreada
  exact hreada.1.symm

/-- The spelling of casts is all that a fingerprint disregards in what is legible, and in no
expression does it regard that spelling. -/
theorem fingerprint_identifies (a b : Expr) :
    (a.recast = b.recast → fingerprint? a = fingerprint? b)
      ∧ (Legible a → Legible b → (fingerprint? a = fingerprint? b ↔ a.recast = b.recast)) := by
  have hrecast : a.recast = b.recast → fingerprint? a = fingerprint? b := by
    intro h
    rw [← fingerprint?_recast a, h, fingerprint?_recast]
  refine ⟨hrecast, fun ha hb => ⟨?_, hrecast⟩⟩
  exact recast_of_fingerprint? ha hb

/-- The two spellings of a cast inside of a `CASE` are not told apart, another type is. -/
theorem fingerprint_of_cast_in_case : ∃ spelled short other : Expr,
    liftTarget "CASE WHEN t.a IN (1, 2) THEN CAST(b AS INT) ELSE lower('x.y') END"
        = .ok ⟨spelled, none⟩
      ∧ liftTarget "CASE WHEN t.a IN (1, 2) THEN b::INT ELSE lower('x.y') END" = .ok ⟨short, none⟩
      ∧ liftTarget "CASE WHEN t.a IN (1, 2) THEN b::TEXT ELSE lower('x.y') END" = .ok ⟨other, none⟩
      ∧ spelled ≠ short ∧ fingerprint? spelled = fingerprint? short
      ∧ fingerprint? spelled ≠ fingerprint? other := by
  let cast (form : CastForm) (type : String) : Expr :=
    .case .none
      (.cons (.inList (.path [⟨"t", none⟩, ⟨"a", none⟩]) false
          (.ofList [.literal (.number "1" false), .literal (.number "2" false)]))
        (.cast form (.column ⟨"b", none⟩) (.builtin type .unstated false) none) .nil)
      (.some (.call ⟨[⟨"lower", none⟩], false,
        .list none none (.cons (.literal (.string "x.y")) .nil) .nil .none .unstated none, .nil,
        .none, none, .none⟩))
  have hspelled : Legible (cast .cast "INT") := by decide +kernel
  have hother : Legible (cast .colons "TEXT") := by decide +kernel
  have hne : fingerprint? (cast .cast "INT") ≠ fingerprint? (cast .colons "TEXT") := by
    rw [Ne, (fingerprint_identifies _ _).2 hspelled hother]
    decide +kernel
  exact ⟨cast .cast "INT", cast .colons "INT", cast .colons "TEXT", by decide +kernel,
    by decide +kernel, by decide +kernel, by decide, (fingerprint_identifies _ _).1 rfl, hne⟩

/-- Sort keys behind a call are joined without a mark between them, and nothing is left of the other
forms of a cast.  In the other direction, the spelling of a cast counts where an expression is kept
as text. -/
theorem expressions_share_fingerprint :
    (∃ two one : Expr, liftTarget "f(x) WITHIN GROUP (ORDER BY a, b)" = .ok ⟨two, none⟩
        ∧ liftTarget "f(x) WITHIN GROUP (ORDER BY a.b)" = .ok ⟨one, none⟩
        ∧ two.recast ≠ one.recast ∧ fingerprint? two = fingerprint? one)
      ∧ (∃ strict lenient : Expr, liftTarget "CAST(a AS INT)" = .ok ⟨strict, none⟩
        ∧ liftTarget "TRY_CAST(a AS INT)" = .ok ⟨lenient, none⟩
        ∧ strict.recast ≠ lenient.recast ∧ fingerprint? strict = fingerprint? lenient)
      ∧ ∃ test : CastForm → Expr,
        liftTarget "CAST(a AS TEXT) LIKE 'x'" = .ok ⟨test .cast, none⟩
          ∧ liftTarget "a::TEXT LIKE 'x'" = .ok ⟨test .colons, none⟩
          ∧ fingerprint? (test .cast) ≠ fingerprint? (test .colons) := by
  let column (name : String) : Expr := .column ⟨name, none⟩
  let call (keys : List OrderKey) : Expr :=
    .call ⟨[⟨"f", none⟩], false,
      .list none none (.cons (column "x") .nil) .nil .none .unstated none, .ofList keys, .none,
      none, .none⟩
  let two := call [⟨column "a", none, none⟩, ⟨column "b", none, none⟩]
  let one := call [⟨.path [⟨"a", none⟩, ⟨"b", none⟩], none, none⟩]
  let cast (form : CastForm) : Expr := .cast form (column "a") (.builtin "INT" .unstated false) none
  let test (form : CastForm) : Expr :=
    .pattern (.cast form (column "a") (.builtin "TEXT" .unstated false) none) false .like false
      (.literal (.string "x")) none
  refine ⟨⟨two, one, by decide +kernel, by decide +kernel, by decide +kernel, by decide +kernel⟩,
    ⟨cast .cast, cast .tryCast, by decide +kernel, by decide +kernel, by decide +kernel,
      by decide +kernel⟩,
    test, by decide +kernel, by decide +kernel, by decide +kernel⟩

end QueryReport.Column
