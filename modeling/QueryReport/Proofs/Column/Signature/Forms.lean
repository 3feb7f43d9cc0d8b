import QueryReport.Proofs.Column.Signature.Reader

/-!
# `QueryReport.Proofs.Column.Signature.Forms`: each form is read back

`Reads read atoms a follows` says that a reader takes the pieces of some atoms off the front and
makes `a` of them, whatever follows as long as it is as `follows` says.  For each form of an
expression there is a lemma that it is read back by a step of the reader, if its parts are.
-/

set_option autoImplicit false

namespace QueryReport.Column

open Sql Text

/-- The reader gets `a` back from the atoms in front of anything that may follow. -/
def Reads {α : Type} (read : Reader α) (atoms : List String) (a : α)
    (follows : List String → Prop) : Prop :=
  ∀ rest, follows rest → read (cut atoms ++ rest) = some (a, rest)

/-- The atoms are those of an expression: it is read back from them, and begins as one. -/
structure ReadsAs (expr : Reader Expr) (atoms : List String) (e : Expr) : Prop where
  reads : Reads expr atoms e Ends
  opens : ∀ rest, opens (cut atoms ++ rest) = true

/-- The reader gets an expression back from its atoms but for the spelling of casts. -/
def ReadsExpr (expr : Reader Expr) (e : Expr) : Prop := ReadsAs expr (exprAtoms e) e.recast

/-- A list is closed, by a parenthesis or by the clauses behind it. -/
def Closes (ts : List String) : Prop :=
  ∃ p more, ts = p :: more ∧ (p = ")" ∨ isClauseHead p = true)

/-- The branches of a `CASE` are over. -/
def EndsBranches (ts : List String) : Prop := Ends ts ∧ ts.head? ≠ some "WHEN"

/-- Everything may follow. -/
abbrev Anything : List String → Prop := fun _ => True

section
variable {expr : Reader Expr} {items : Reader Exprs} {branches : Reader Branches}
variable {α : Type} {read : Reader α} {a : α} {atoms rest : List String} {e left right : Expr}
  {list : Exprs}

/-! ## What follows -/

theorem ends_parenthesis (ts : List String) : Ends (")" :: ts) :=
  ends_cons ts (by decide) (by decide)

theorem Closes.ends {ts : List String} (h : Closes ts) : Ends ts := by
  obtain ⟨p, more, rfl, rfl | hhead⟩ := h
  · exact ends_parenthesis more
  · refine ends_cons more ?_ fun hp => (not_clauseHead hhead).1 (continuing_subset hp)
    simp [isMark, hhead]

theorem closes_parenthesis (ts : List String) : Closes (")" :: ts) := ⟨")", ts, rfl, .inl rfl⟩

/-! ## Brackets -/

@[simp] theorem skip_mark (mark : String) (ts : List String) :
    skip mark (mark :: ts) = some ts := by
  simp [skip]

theorem reads_bracketed {follows : List String → Prop} (h : Reads read atoms a follows)
    (hfollows : ∀ ts, follows (")" :: ts)) :
    Reads (readBracketed read) (bracketed atoms) a Anything := by
  intro rest _
  rw [cut_bracketed]
  simp [readBracketed, h _ (hfollows rest)]

/-- An expression in parentheses, with what is made of it. -/
theorem readForm_bracketed (h : ReadsExpr expr e) (rest : List String) :
    readForm expr items branches (cut (bracketed (exprAtoms e)) ++ rest)
      = readTest expr items e.recast rest := by
  rw [cut_bracketed]
  simp [readForm, h.reads _ (ends_parenthesis rest), readGroup]

theorem opens_bracketed (atoms rest : List String) :
    opens (cut (bracketed atoms) ++ rest) = true := by
  rw [cut_bracketed]
  rfl

theorem readTest_ends (h : Ends rest) : readTest expr items e rest = some (.nested e, rest) := by
  unfold readTest
  split
  · exact absurd rfl (h.ne (by decide))
  · exact absurd rfl (h.ne (by decide))
  · exact absurd rfl (h.ne (by decide))
  · exact absurd rfl (h.ne (by decide))
  · exact absurd rfl (h.ne (by decide))
  · exact absurd rfl (h.ne (by decide))
  · exact absurd rfl (h.ne (by decide))
  · rfl

theorem reads_nested (h : ReadsExpr expr e) :
    ReadsExpr (readForm expr items branches) (.nested e) where
  reads rest hrest := by
    rw [exprAtoms, readForm_bracketed h, readTest_ends hrest, Expr.recast]
  opens rest := by
    rw [exprAtoms]
    exact opens_bracketed _ rest

/-- A test of an expression in parentheses. -/
theorem reads_test {test : Expr} {tail : List String} (h : ReadsExpr expr e)
    (hatoms : exprAtoms test = bracketed (exprAtoms e) ++ tail)
    (htest : Reads (readTest expr items e.recast) tail test.recast Ends) :
    ReadsExpr (readForm expr items branches) test where
  reads rest hrest := by
    rw [hatoms, cut_append, List.append_assoc, readForm_bracketed h, htest rest hrest]
  opens rest := by
    rw [hatoms, cut_append, List.append_assoc]
    exact opens_bracketed _ _

/-! ## Runs -/

theorem reads_run {read : String → Option α} (h : Spells read atoms a) :
    Reads (readRun read) atoms a Ends :=
  fun _ hrest => readRun_eq h hrest.mark

/-- What begins with no mark is a run. -/
theorem readForm_of_not_mark {p : String} (hp : isMark p = false) (ts : List String) :
    readForm expr items branches (p :: ts) = readSimple expr items (p :: ts) := by
  have hne : ∀ q ∈ frameWords, p ≠ q := fun q hq => ne_of_not_mark hp hq
  unfold readForm
  split
  · next h => exact absurd (List.cons.inj h).1 (hne _ (by decide))
  · next h => exact absurd (List.cons.inj h).1 (hne _ (by decide))
  · next h => exact absurd (List.cons.inj h).1 (hne _ (by decide))
  · next h => exact absurd (List.cons.inj h).1 (hne _ (by decide))
  · next h =>
      cases h
      rw [readUnary_of_not_mark hp]
  · next h => cases h

/-- A run is read as a leaf or as a call, as what follows it says. -/
theorem readForm_of_spells {read : String → Option α} (h : Spells read atoms a)
    (rest : List String) :
    readForm expr items branches (cut atoms ++ rest)
      = readSimple expr items (cut atoms ++ rest) := by
  obtain ⟨p, more, hcut, hp⟩ := h.cons
  rw [hcut]
  exact readForm_of_not_mark hp (more ++ rest)

theorem opens_of_spells {read : String → Option α} (h : Spells read atoms a)
    (rest : List String) : opens (cut atoms ++ rest) = true := by
  obtain ⟨p, more, hcut, hp⟩ := h.cons
  rw [hcut]
  simp [opens, isOpening, hp]

/-- A run in front of anything but a parenthesis is all of an expression. -/
theorem reads_leaf (h : Spells readLeaf atoms e) :
    ReadsAs (readForm expr items branches) atoms e where
  reads rest hrest := by
    have hdrop := (span_run (run_pieces h.1).2 hrest.mark).2
    rw [readForm_of_spells h, readSimple, hdrop]
    split
    -- No expression is continued with a parenthesis here.
    · exact absurd rfl (hrest.ne (by decide))
    · exact reads_run h rest hrest
  opens := opens_of_spells h

/-! ## Tests, operators and lists -/

theorem reads_cast {form : CastForm} {type : SqlType} (h : ReadsExpr expr e)
    (hform : form.recast = .colons) (htype : Spells readType [type.text] type) :
    ReadsExpr (readForm expr items branches) (.cast form e type none) := by
  have hatoms : exprAtoms (.cast form e type none)
      = bracketed (exprAtoms e) ++ ["::", type.text] := by
    rw [exprAtoms]
  refine reads_test h hatoms fun rest hrest => ?_
  rw [cut_word (by decide), List.cons_append, Expr.recast, hform]
  simp [readTest, reads_run htype rest hrest]

theorem reads_nullTest {negated : Bool} (h : ReadsExpr expr e) :
    ReadsExpr (readForm expr items branches) (.nullTest e negated) := by
  refine reads_test h (by rw [exprAtoms]) fun rest _ => ?_
  cases negated <;> simp (disch := decide) [cut_word, cut_nil, readTest, Expr.recast]

theorem reads_inList {negated : Bool} (h : ReadsExpr expr e)
    (hlist : Reads items (itemAtoms list) list.recast Closes) :
    ReadsExpr (readForm expr items branches) (.inList e negated list) := by
  refine reads_test h (by rw [exprAtoms]) fun rest _ => ?_
  have hbracketed := reads_bracketed hlist closes_parenthesis rest trivial
  cases negated <;> simp (disch := decide) [cut_word, readTest, Expr.recast, hbracketed]

theorem reads_between {negated : Bool} {low high : Expr} (h : ReadsExpr expr e)
    (hlow : ReadsExpr expr low) (hhigh : ReadsExpr expr high) :
    ReadsExpr (readForm expr items branches) (.between e negated low high) := by
  refine reads_test h (by rw [exprAtoms]) fun rest _ => ?_
  have hlow := reads_bracketed hlow.reads ends_parenthesis
  have hhigh := reads_bracketed hhigh.reads ends_parenthesis rest trivial
  have hbounds : ∀ negated, readBounds expr e.recast negated
      (cut (bracketed (exprAtoms low)) ++ "AND" :: (cut (bracketed (exprAtoms high)) ++ rest))
        = some (.between e.recast negated low.recast high.recast, rest) := by
    intro negated
    simp [readBounds, hlow _ trivial, hhigh]
  cases negated <;>
    simp (disch := decide) [cut_word, cut_append, readTest, Expr.recast, hbounds]

theorem reads_binary {op : BinaryOp} (hleft : ReadsExpr expr left) (hright : ReadsExpr expr right)
    (hop : readBinary op.text = some op) :
    ReadsExpr (readForm expr items branches) (.binary left op right) where
  reads rest _ := by
    obtain ⟨hmark, hcontinuing, hclosed, -⟩ := text_readBinary hop
    have hleft := hleft.reads (op.text :: (cut (exprAtoms right) ++ ")" :: rest))
      (ends_cons _ hmark hcontinuing)
    have hright := hright.reads (")" :: rest) (ends_parenthesis rest)
    rw [exprAtoms, cut_bracketed, cut_append, cut_binary hop, List.append_assoc, List.cons_append]
    simp [readForm, hleft, readGroup, hop, hright, Expr.recast]
  opens rest := by
    rw [exprAtoms]
    exact opens_bracketed _ rest

theorem readForm_unary (op : UnaryOp) (ts : List String) :
    readForm expr items branches (op.text :: ts)
      = (readBracketed expr ts).map fun (e, ts) => (.unary op e, ts) := by
  cases op <;> rfl

theorem reads_unary {op : UnaryOp} (h : ReadsExpr expr e) :
    ReadsExpr (readForm expr items branches) (.unary op e) where
  reads rest _ := by
    have hbracketed := reads_bracketed h.reads ends_parenthesis rest trivial
    rw [exprAtoms, cut_unary, List.cons_append, readForm_unary, hbracketed, Expr.recast]
    rfl
  opens rest := by
    rw [exprAtoms, cut_unary]
    simp [opens, isOpening, readUnary_text]

theorem reads_array (hlist : Reads items (itemAtoms list) list.recast Closes) :
    ReadsExpr (readForm expr items branches) (.array true list) where
  reads rest _ := by
    have hbracketed := reads_bracketed hlist closes_parenthesis rest trivial
    rw [exprAtoms, cut_word (by decide), List.cons_append, Expr.recast]
    simp [readForm, hbracketed]
  opens rest := by
    rw [exprAtoms, cut_word (by decide)]
    rfl

theorem reads_subquery {query : Query} (h : Spells readQuery [query.text] query) :
    ReadsExpr (readForm expr items branches) (.subquery query) where
  reads rest hrest := by
    have hrecast : (Expr.subquery query).recast = .subquery query := rfl
    rw [exprAtoms, cut_word (by decide), List.cons_append, hrecast]
    simp [readForm, reads_run h rest hrest]
  opens rest := by
    rw [exprAtoms, cut_word (by decide)]
    rfl

/-! ## Items and arguments -/

/-- An item is read back, and a list can begin with it. -/
structure ReadsItem (expr : Reader Expr) (atoms : List String) (e : Expr) : Prop where
  reads : ∀ rest, Ends rest → rest.head? ≠ some "*" →
    readItem expr (cut atoms ++ rest) = some (e, rest)
  begins : ∀ rest, opens (cut atoms ++ rest) = true ∨ (cut atoms ++ rest).head? = some "*"

/-- Where an expression can begin, no mark stands that it cannot begin with. -/
theorem ne_of_opens {p : String} {ts : List String} (h : opens ts = true)
    (hp : isOpening p = false) : ts.head? ≠ some p := by
  intro hhead
  rw [opens, hhead] at h
  exact absurd (hp.symm.trans h) (by decide)

theorem readsItem_expr (h : ReadsAs expr atoms e) : ReadsItem expr atoms e where
  reads rest hrest hstar := by
    unfold readItem
    split
    · next hts => exact absurd (hts ▸ rfl) (ne_of_opens (p := "*") (h.opens rest) (by decide))
    · rw [h.reads rest hrest]
      simp only [Option.bind_eq_bind, Option.bind_some]
      split
      · exact absurd rfl hstar
      · rfl
  begins rest := .inl (h.opens rest)

theorem cut_star : cut ["*"] = ["*"] := by decide +kernel

theorem readsItem_star : ReadsItem expr ["*"] .star where
  reads rest _ _ := by
    rw [cut_star]
    rfl
  begins rest := by
    rw [cut_star]
    exact .inr rfl

/-- The reference that a dotted name is. -/
def referenceOf : Path → Expr
  | [name] => .column name
  | parts => .path parts

theorem reference?_referenceOf (parts : Path) : (referenceOf parts).reference? = some parts := by
  unfold referenceOf
  split <;> rfl

/-- The columns of a table, behind its name. -/
theorem readsItem_everyColumn {relation : Path}
    (h : ReadsAs expr (relation.map Ident.text) (referenceOf relation)) :
    ReadsItem expr (relation.map Ident.text ++ ["*"]) (.everyColumn relation) where
  reads rest _ _ := by
    rw [cut_append, cut_star, List.append_assoc]
    have hopens := h.opens (["*"] ++ rest)
    have hread := h.reads ("*" :: rest) (ends_cons rest (by decide) (by decide))
    unfold readItem
    split
    · next hts => exact absurd (hts ▸ rfl) (ne_of_opens (p := "*") hopens (by decide))
    · simp only [List.singleton_append, hread, Option.bind_eq_bind, Option.bind_some,
        reference?_referenceOf]
  begins rest := by
    rw [cut_append, List.append_assoc]
    exact .inl (h.opens _)

/-- What closes a list does not go on with it. -/
theorem Closes.head {ts : List String} (h : Closes ts) :
    opens ts = false ∧ ts.head? ≠ some "*" ∧ ts.head? ≠ some "," := by
  obtain ⟨p, more, rfl, rfl | hhead⟩ := h
  · exact ⟨rfl, by simp, by simp⟩
  · obtain ⟨hframe, hsymbolic⟩ := not_clauseHead hhead
    have hmark : isMark p = true := by simp [isMark, hhead]
    -- A word that heads a clause is neither a word of a frame nor a symbol.
    have hne : ∀ q, q ∈ frameWords ∨ isSymbolic q = true → p ≠ q := by
      rintro _ (hq | hq) rfl
      · exact hframe hq
      · exact absurd (hsymbolic.symm.trans hq) (by decide)
    have hunary : readUnary p = none := by
      cases hop : readUnary p with
      | none => rfl
      | some op =>
          have hwords : op.text ∈ frameWords ∨ isSymbolic op.text = true := by
            cases op <;> decide
          exact absurd (text_readUnary hop).symm (hne op.text hwords)
    have hopening : isOpening p = false := by
      simp [isOpening, hmark, hunary, hne "(" (by decide), hne "CASE" (by decide),
        hne "SUBQUERY" (by decide), hne "ARRAY" (by decide)]
    refine ⟨by simp [opens, hopening], ?_, ?_⟩
    · simpa using hne "*" (by decide)
    · simpa using hne "," (by decide)

theorem reads_list_nil : Reads (readList expr items) [] .nil Closes := by
  intro rest hrest
  obtain ⟨hopens, hstar, -⟩ := hrest.head
  simp [readList, cut_nil, hopens, hstar]

theorem readList_item {ts : List String} (h : ReadsItem expr atoms e) (hts : Ends ts)
    (hstar : ts.head? ≠ some "*") :
    readList expr items (cut atoms ++ ts) = readMore items e ts := by
  have hbegins : (opens (cut atoms ++ ts) || (cut atoms ++ ts).head? == some "*") = true := by
    simpa using h.begins ts
  unfold readList
  rw [if_pos hbegins, h.reads ts hts hstar]
  rfl

theorem reads_list_single (h : ReadsItem expr atoms e) :
    Reads (readList expr items) atoms (.cons e .nil) Closes := by
  intro rest hrest
  obtain ⟨-, hstar, hcomma⟩ := hrest.head
  rw [readList_item h hrest.ends hstar]
  unfold readMore
  split
  · exact absurd rfl hcomma
  · rfl

theorem reads_list_cons {tail : List String} (h : ReadsItem expr atoms e)
    (htail : Reads items tail list Closes) :
    Reads (readList expr items) (atoms ++ "," :: tail) (.cons e list) Closes := by
  intro rest hrest
  rw [cut_append, cut_word (by decide), List.append_assoc, List.cons_append,
    readList_item h (ends_cons _ (by decide) (by decide)) (by simp)]
  simp [readMore, htail rest hrest]

/-! ## `CASE` -/

theorem reads_branches_nil : Reads (readBranch expr branches) [] .nil EndsBranches := by
  intro rest hrest
  rw [cut_nil, List.nil_append]
  unfold readBranch
  split
  · exact absurd rfl hrest.2
  · rfl

theorem ends_branches (bs : Branches) (h : EndsBranches rest) :
    Ends (cut (branchAtoms bs) ++ rest) := by
  cases bs with
  | nil => exact h.1
  | cons condition result bs =>
      rw [branchAtoms, cut_word (by decide), List.cons_append]
      exact ends_cons _ (by decide) (by decide)

theorem reads_branches_cons {condition result : Expr} {bs : Branches}
    (hcondition : ReadsExpr expr condition) (hresult : ReadsExpr expr result)
    (hbranches : Reads branches (branchAtoms bs) bs.recast EndsBranches) :
    Reads (readBranch expr branches) (branchAtoms (.cons condition result bs))
      (Branches.cons condition result bs).recast EndsBranches := by
  intro rest hrest
  have hcondition := hcondition.reads
    ("THEN" :: (cut (exprAtoms result) ++ (cut (branchAtoms bs) ++ rest)))
    (ends_cons _ (by decide) (by decide))
  have hresult := hresult.reads (cut (branchAtoms bs) ++ rest) (ends_branches _ hrest)
  have hbranches := hbranches rest hrest
  rw [branchAtoms]
  simp (disch := decide) [cut_word, cut_append, readBranch, hcondition, hresult, hbranches,
    Branches.recast]

/-- The part behind a mark is read, or the mark is not there. -/
theorem readBehind_none {mark : String} {read : Reader Expr} (h : rest.head? ≠ some mark) :
    readBehind mark read rest = some (.none, rest) := by
  unfold readBehind
  cases rest with
  | nil => rfl
  | cons p ts =>
      have hp : p ≠ mark := by simpa using h
      simp [hp]

theorem readBehind_some {mark : String} {read : Reader Expr} (ts : List String) :
    readBehind mark read (mark :: ts) = (read ts).map fun (e, ts) => (.some e, ts) := by
  simp [readBehind]

theorem reads_else {otherwise : MaybeExpr} (h : ∀ e ∈ otherwise.toOption, ReadsExpr expr e)
    (rest : List String) : readBehind "ELSE" expr (cut (elseAtoms otherwise) ++ "END" :: rest)
      = some (otherwise.recast, "END" :: rest) := by
  cases otherwise with
  | none => exact readBehind_none (by simp [elseAtoms, cut_nil])
  | some e =>
      have he := (h e rfl).reads ("END" :: rest) (ends_cons _ (by decide) (by decide))
      rw [elseAtoms, cut_word (by decide), List.cons_append, readBehind_some, he]
      rfl

/-- Behind the branches of a `CASE`. -/
theorem endsBranches_else (otherwise : MaybeExpr) (rest : List String) :
    EndsBranches (cut (elseAtoms otherwise) ++ "END" :: rest)
      ∧ opens (cut (elseAtoms otherwise) ++ "END" :: rest) = false := by
  cases otherwise with
  | none => exact ⟨⟨ends_cons rest (by decide) (by decide), by simp [elseAtoms, cut_nil]⟩, rfl⟩
  | some e =>
      rw [elseAtoms, cut_word (by decide), List.cons_append]
      exact ⟨⟨ends_cons _ (by decide) (by decide), by simp⟩, rfl⟩

theorem opens_branches (bs : Branches) (h : opens rest = false) :
    opens (cut (branchAtoms bs) ++ rest) = false := by
  cases bs with
  | nil => exact h
  | cons condition result bs =>
      rw [branchAtoms, cut_word (by decide)]
      rfl

theorem reads_operand {operand : MaybeExpr} (h : ∀ e ∈ operand.toOption, ReadsExpr expr e)
    (hends : Ends rest) (hopens : opens rest = false) :
    readOperand expr (cut (maybeAtoms operand) ++ rest) = some (operand.recast, rest) := by
  cases operand with
  | none => simp [maybeAtoms, cut_nil, readOperand, hopens, MaybeExpr.recast]
  | some e =>
      have he := h e rfl
      simp [maybeAtoms, readOperand, he.opens, he.reads rest hends, MaybeExpr.recast]

theorem reads_case {operand otherwise : MaybeExpr} {bs : Branches}
    (hoperand : ∀ e ∈ operand.toOption, ReadsExpr expr e)
    (hbranches : Reads branches (branchAtoms bs) bs.recast EndsBranches)
    (hotherwise : ∀ e ∈ otherwise.toOption, ReadsExpr expr e) :
    ReadsExpr (readForm expr items branches) (.case operand bs otherwise) where
  reads rest _ := by
    obtain ⟨hends, hopens⟩ := endsBranches_else otherwise rest
    have hoperand := reads_operand hoperand (ends_branches bs hends) (opens_branches bs hopens)
    have hbranches := hbranches _ hends
    have hotherwise := reads_else hotherwise rest
    rw [exprAtoms]
    simp (disch := decide) [cut_word, cut_append, cut_nil, readForm, readCase, hoperand,
      hbranches, hotherwise, Expr.recast]
  opens rest := by
    rw [exprAtoms, cut_word (by decide)]
    rfl

end

end QueryReport.Column
