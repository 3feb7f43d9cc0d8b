import QueryReport.Proofs.Column.Signature.Calls

/-!
# `QueryReport.Proofs.Column.Signature.Legible`: expressions that are read back

`exprReadable` says of an expression that the runs in its fingerprint are read back: each name,
constant, type and text that is kept is parsed as itself, and none of it looks like a mark.  It also
leaves out what the fingerprint does not show: the other forms of a cast and its format, braces
around a call, a call without parentheses, an array without its keyword.

The induction follows the reader.  `reads_expr` and its companions say, for an expression and for
each kind of sequence in it, that it is read back by a reader that may go deep enough.
-/

set_option autoImplicit false

namespace QueryReport.Column

open Sql Text

/-! ## Readable expressions -/

/-- An argument is readable that would be readable as an expression or not. -/
def argumentReadable (e : Expr) (readable : Bool) : Bool :=
  match e with
  | .star => true
  | .everyColumn relation =>
    decide (Spells readLeaf (relation.map Ident.text) (referenceOf relation))
  | .named _ _ _ => decide (Spells readLeaf [e.text] e)
  | _ => readable

mutual

/-- The expression can be read back from its fingerprint but for the spelling of its casts. -/
def exprReadable : Expr → Bool
  | .call c => callReadable c
  | .case operand branches otherwise =>
    maybeReadable operand && branchesReadable branches && maybeReadable otherwise
  | .cast form operand type format =>
    decide (form.recast = .colons) && format.isNone && exprReadable operand
      && decide (Spells readType [type.text] type)
  | .binary left op right =>
    exprReadable left && decide (readBinary op.text = some op) && exprReadable right
  | .unary _ operand => exprReadable operand
  | .nullTest operand _ => exprReadable operand
  | .inList operand _ items => exprReadable operand && itemsReadable items
  | .between operand _ low high => exprReadable operand && exprReadable low && exprReadable high
  | .nested inner => exprReadable inner
  | .subquery query => decide (Spells readQuery [query.text] query)
  | .array keyword items => keyword && itemsReadable items
  | e => decide (Spells readLeaf (exprAtoms e) e)

def itemsReadable : Exprs → Bool
  | .nil => true
  | .cons e es => exprReadable e && itemsReadable es

def argumentsReadable : Exprs → Bool
  | .nil => true
  | .cons e es => argumentReadable e (exprReadable e) && argumentsReadable es

def maybeReadable : MaybeExpr → Bool
  | .none => true
  | .some e => exprReadable e

def branchesReadable : Branches → Bool
  | .nil => true
  | .cons condition result rest =>
    exprReadable condition && exprReadable result && branchesReadable rest

def callReadable : Call → Bool
  | ⟨name, braces, args, withinGroup, filter, _, window⟩ =>
    !braces && decide (Spells readName (name.map Ident.text) name) && callArgsReadable args
      && maybeReadable filter && decide (SpellsKeys withinGroup) && decide (SpellsWindow window)

def callArgsReadable : CallArgs → Bool
  | .list _ leading args order limit overflow nulls =>
    argumentsReadable args && decide (SpellsClauses
      (argumentClauses leading order.texts limit.text? overflow.texts nulls)
      (.list none leading .nil order limit overflow nulls))
  | _ => false

end

/-- The text of the fingerprint shows where its atoms begin and end, and each of them is
readable. -/
structure Legible (e : Expr) : Prop where
  sealed : ∀ atom ∈ exprAtoms e, Sealed atom
  readable : exprReadable e = true

instance (e : Expr) : Decidable (Legible e) :=
  decidable_of_iff ((∀ atom ∈ exprAtoms e, Sealed atom) ∧ exprReadable e = true)
    ⟨fun h => ⟨h.1, h.2⟩, fun h => ⟨h.sealed, h.readable⟩⟩

/-! ## Deep enough -/

/-- The property holds for all numbers that are large enough. -/
def FromSome (P : Nat → Prop) : Prop := ∃ n, ∀ fuel, n ≤ fuel → P fuel

variable {P Q : Nat → Prop}

theorem FromSome.of_forall (h : ∀ fuel, P fuel) : FromSome P := ⟨0, fun fuel _ => h fuel⟩

theorem FromSome.and (hP : FromSome P) (hQ : FromSome Q) :
    FromSome fun fuel => P fuel ∧ Q fuel := by
  obtain ⟨n, hP⟩ := hP
  obtain ⟨m, hQ⟩ := hQ
  exact ⟨n + m, fun fuel hfuel => ⟨hP fuel (by omega), hQ fuel (by omega)⟩⟩

theorem FromSome.imp (hP : FromSome P) (h : ∀ fuel, P fuel → Q fuel) : FromSome Q := by
  obtain ⟨n, hP⟩ := hP
  exact ⟨n, fun fuel hfuel => h fuel (hP fuel hfuel)⟩

/-- One step of a reader takes one level of depth. -/
theorem FromSome.step (hP : FromSome P) (h : ∀ fuel, P fuel → Q (fuel + 1)) : FromSome Q := by
  obtain ⟨n, hP⟩ := hP
  refine ⟨n + 1, fun fuel hfuel => ?_⟩
  obtain ⟨fuel, rfl⟩ : ∃ k, fuel = k + 1 := ⟨fuel - 1, by omega⟩
  exact h fuel (hP fuel (by omega))

theorem FromSome.of_succ (h : ∀ fuel, Q (fuel + 1)) : FromSome Q :=
  (FromSome.of_forall fun _ => trivial).step fun fuel _ => h fuel

/-! ## The induction -/

/-- Only a star and what is named are read in another way as arguments than as expressions. -/
theorem readsItem_argument {e : Expr} (h : argumentReadable e (exprReadable e) = true)
    (he : exprReadable e = true → FromSome fun fuel => ReadsExpr (readExpr fuel) e) :
    FromSome fun fuel => ReadsItem (readExpr fuel) (argAtoms e (exprAtoms e)) e.recast := by
  have hleaf : ∀ {atoms : List String} {e : Expr}, Spells readLeaf atoms e →
      FromSome fun fuel => ReadsAs (readExpr fuel) atoms e :=
    fun hspells => .of_succ fun _ => reads_leaf hspells
  cases e with
  | star => exact .of_forall fun _ => readsItem_star
  | everyColumn relation =>
      exact (hleaf (of_decide_eq_true h)).imp fun fuel h => readsItem_everyColumn h
  | named name mark value => exact (hleaf (of_decide_eq_true h)).imp fun fuel h => readsItem_expr h
  | _ => exact (he h).imp fun fuel h => readsItem_expr h

mutual

theorem reads_expr (e : Expr) (h : exprReadable e = true) :
    FromSome fun fuel => ReadsExpr (readExpr fuel) e := by
  cases e with
  | call c => exact reads_callOf c h
  | case operand branches otherwise =>
      simp only [exprReadable, Bool.and_eq_true] at h
      have hoperand := reads_maybe operand h.1.1
      have hbranches := reads_branches branches h.1.2
      have hotherwise := reads_maybe otherwise h.2
      exact ((hoperand.and hbranches).and hotherwise).step fun fuel h =>
        reads_case h.1.1 h.1.2 h.2
  | cast form operand type format =>
      simp only [exprReadable, Bool.and_eq_true, decide_eq_true_eq, Option.isNone_iff_eq_none] at h
      obtain ⟨⟨⟨hform, rfl⟩, hoperand⟩, htype⟩ := h
      exact (reads_expr operand hoperand).step fun fuel h => reads_cast h hform htype
  | binary left op right =>
      simp only [exprReadable, Bool.and_eq_true, decide_eq_true_eq] at h
      have hleft := reads_expr left h.1.1
      have hright := reads_expr right h.2
      exact (hleft.and hright).step fun fuel hsides => reads_binary hsides.1 hsides.2 h.1.2
  | unary op operand => exact (reads_expr operand h).step fun fuel h => reads_unary h
  | nullTest operand negated => exact (reads_expr operand h).step fun fuel h => reads_nullTest h
  | inList operand negated items =>
      simp only [exprReadable, Bool.and_eq_true] at h
      have hoperand := reads_expr operand h.1
      have hitems := reads_items items h.2
      exact (hoperand.and hitems).step fun fuel h => reads_inList h.1 h.2
  | between operand negated low high =>
      simp only [exprReadable, Bool.and_eq_true] at h
      have hoperand := reads_expr operand h.1.1
      have hlow := reads_expr low h.1.2
      have hhigh := reads_expr high h.2
      exact ((hoperand.and hlow).and hhigh).step fun fuel h => reads_between h.1.1 h.1.2 h.2
  | nested inner => exact (reads_expr inner h).step fun fuel h => reads_nested h
  | subquery query =>
      exact .of_succ fun _ => reads_subquery (of_decide_eq_true h)
  | array keyword items =>
      simp only [exprReadable, Bool.and_eq_true] at h
      obtain ⟨rfl, hitems⟩ := h
      exact (reads_items items hitems).step fun fuel h => reads_array h
  -- What is kept as text is a leaf, and is read in one step.
  | _ => exact .of_succ fun _ => reads_leaf (of_decide_eq_true h)

theorem reads_maybe (m : MaybeExpr) (h : maybeReadable m = true) :
    FromSome fun fuel => ∀ e ∈ m.toOption, ReadsExpr (readExpr fuel) e := by
  cases m with
  | none => exact .of_forall fun _ => nofun
  | some e =>
      refine (reads_expr e h).imp fun fuel he => ?_
      rintro _ ⟨⟩
      exact he

theorem reads_items (es : Exprs) (h : itemsReadable es = true) :
    FromSome fun fuel => Reads (readItems fuel) (itemAtoms es) es.recast Closes := by
  cases es with
  | nil => exact .of_succ fun _ => reads_list_nil
  | cons e es =>
      simp only [itemsReadable, Bool.and_eq_true] at h
      have he := reads_expr e h.1
      have hes := reads_items es h.2
      cases es with
      | nil =>
          exact he.step fun fuel h => reads_list_single (readsItem_expr h)
      | cons second es =>
          exact (he.and hes).step fun fuel h => reads_list_cons (readsItem_expr h.1) h.2

theorem reads_argumentList (es : Exprs) (h : argumentsReadable es = true) :
    FromSome fun fuel => ReadsArguments (readItems fuel) es := by
  cases es with
  | nil =>
      exact .of_succ fun _ => ⟨reads_list_nil, fun ts hts => hts.plain⟩
  | cons e es =>
      simp only [argumentsReadable, Bool.and_eq_true] at h
      have he := readsItem_argument h.1 fun h => reads_expr e h
      have hes := reads_argumentList es h.2
      cases es with
      | nil =>
          exact he.step fun fuel h =>
            ⟨reads_list_single h, fun ts _ => plain_of_begins (h.begins ts)⟩
      | cons second es =>
          refine (he.and hes).step fun fuel h => ⟨reads_list_cons h.1 h.2.reads, fun ts _ => ?_⟩
          have hplain := h.1.begins (cut ("," :: argListAtoms (.cons second es)) ++ ts)
          rw [← List.append_assoc, ← cut_append] at hplain
          exact plain_of_begins hplain

theorem reads_branches (bs : Branches) (h : branchesReadable bs = true) :
    FromSome fun fuel => Reads (readBranches fuel) (branchAtoms bs) bs.recast EndsBranches := by
  cases bs with
  | nil => exact .of_succ fun _ => reads_branches_nil
  | cons condition result bs =>
      simp only [branchesReadable, Bool.and_eq_true] at h
      have hcondition := reads_expr condition h.1.1
      have hresult := reads_expr result h.1.2
      have hbranches := reads_branches bs h.2
      exact ((hcondition.and hresult).and hbranches).step fun fuel h =>
        reads_branches_cons h.1.1 h.1.2 h.2

theorem reads_callOf (c : Call) (h : callReadable c = true) :
    FromSome fun fuel => ReadsExpr (readExpr fuel) (.call c) := by
  obtain ⟨name, braces, args, withinGroup, filter, nulls, window⟩ := c
  simp only [callReadable, Bool.and_eq_true, Bool.not_eq_true', decide_eq_true_eq] at h
  obtain ⟨⟨⟨⟨⟨rfl, hname⟩, hargs⟩, hfilter⟩, hkeys⟩, hwindow⟩ := h
  have hargs := reads_callArgs args hargs
  have hfilter := reads_maybe filter hfilter
  exact (hargs.and hfilter).step fun fuel h => reads_call hname h.1 h.2 hkeys hwindow

theorem reads_callArgs (args : CallArgs) (h : callArgsReadable args = true) :
    FromSome fun fuel => Reads (readArguments (readItems fuel)) (argsAtoms args) args.recast
      fun ts => ∃ more, ts = ")" :: more := by
  cases args with
  | absent => cases h
  | subquery query => cases h
  | list duplicates leading args order limit overflow nulls =>
      simp only [callArgsReadable, Bool.and_eq_true, decide_eq_true_eq] at h
      exact (reads_argumentList args h.1).imp fun fuel hargs => reads_arguments hargs h.2

end

end QueryReport.Column
