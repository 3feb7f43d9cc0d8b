import QueryReport.Proofs.Column.Signature.Forms

/-!
# `QueryReport.Proofs.Column.Signature.Calls`: calls are read back

Behind the name of a call come its arguments in parentheses and then up to four parts, each with a
mark of its own.  A part that is left out is told from the mark of the next one, so each lemma here
says which marks must not follow.  `reads_call` puts the parts together.
-/

set_option autoImplicit false

namespace QueryReport.Column

open Sql Text

/-- The atoms of the sort keys of a call. -/
def keysAtoms (keys : OrderKeys) : List String :=
  match keys.texts with
  | [] => []
  | texts => "WITHIN GROUP" :: texts

/-- The atoms of the window of a call. -/
def overAtoms : Over → List String
  | .none => []
  | window => ["OVER", window.text]

theorem callAtoms_eq (name : Path) (braces : Bool) (args : CallArgs) (withinGroup : OrderKeys)
    (filter : MaybeExpr) (nulls : Option NullTreatment) (window : Over) :
    callAtoms ⟨name, braces, args, withinGroup, filter, nulls, window⟩
      = name.map Ident.text ++ (bracketed (argsAtoms args) ++ (filterAtoms filter
        ++ (atomIf NullTreatment.text nulls ++ (keysAtoms withinGroup ++ overAtoms window)))) := by
  simp only [callAtoms, List.append_assoc]
  rfl

/-- The window is none, or it is read back. -/
def SpellsWindow (window : Over) : Prop :=
  window = .none ∨ Spells readWindow [window.text] window

/-- There are no sort keys, or they are read back. -/
def SpellsKeys (keys : OrderKeys) : Prop := keys = .nil ∨ Spells readKeys keys.texts keys

/-- A clause behind arguments, up to where a mark follows it. -/
def isClauseRun (atoms : List String) : Bool :=
  match cut atoms with
  | p :: more => isClauseHead p && more.all fun p => !isMark p
  | [] => false

/-- There are no clauses behind the arguments, or they are read back. -/
def SpellsClauses (atoms : List String) (clauses : CallArgs) : Prop :=
  atoms = [] ∧ clauses = noClauses
    ∨ isClauseRun atoms = true ∧ readClauses (".".intercalate atoms) = some clauses

instance (window : Over) : Decidable (SpellsWindow window) :=
  inferInstanceAs (Decidable (_ ∨ _))

instance (keys : OrderKeys) : Decidable (SpellsKeys keys) :=
  inferInstanceAs (Decidable (_ ∨ _))

instance (atoms : List String) (clauses : CallArgs) : Decidable (SpellsClauses atoms clauses) :=
  inferInstanceAs (Decidable (_ ∧ _ ∨ _ ∧ _))

/-- Pieces with which no mark of a duplicate treatment is mixed up. -/
def Plain (ts : List String) : Prop := ts.head? ≠ some "DISTINCT" ∧ ts.head? ≠ some "ALL"

/-- The arguments are read back. -/
structure ReadsArguments (items : Reader Exprs) (args : Exprs) : Prop where
  reads : Reads items (argListAtoms args) args.recast Closes
  plain : ∀ ts, Closes ts → Plain (cut (argListAtoms args) ++ ts)

section
variable {expr : Reader Expr} {items : Reader Exprs} {branches : Reader Branches}
variable {ts rest : List String}

/-! ## Behind the arguments -/

theorem readOver_eq {window : Over} (h : SpellsWindow window) (hrest : Ends rest) :
    readOver (cut (overAtoms window) ++ rest) = some (window, rest)
      ∧ Follows ["WITHIN GROUP", "RESPECT NULLS", "IGNORE NULLS", "FILTER"]
        (cut (overAtoms window) ++ rest) := by
  have hnone : readOver rest = some (.none, rest) := by
    unfold readOver
    split
    · exact absurd rfl (hrest.ne (by decide))
    · rfl
  have hsome : Spells readWindow [window.text] window →
      readOver (cut ["OVER", window.text] ++ rest) = some (window, rest) := by
    intro hspells
    rw [cut_word (by decide)]
    exact reads_run hspells rest hrest
  have hmark : Follows ["WITHIN GROUP", "RESPECT NULLS", "IGNORE NULLS", "FILTER"]
      (cut ["OVER", window.text] ++ rest) := by
    rw [cut_word (by decide)]
    exact follows_cons _ (by decide) (by decide)
  -- A window that is there is the word `OVER` with its own text behind it.
  cases window with
  | none => exact ⟨hnone, hrest.mono (by decide)⟩
  | named name =>
      obtain h | h := h
      · cases h
      · exact ⟨hsome h, hmark⟩
  | window base partition order frame distances =>
      obtain h | h := h
      · cases h
      · exact ⟨hsome h, hmark⟩

theorem readWithinGroup_eq {keys : OrderKeys} (h : SpellsKeys keys)
    (hrest : Follows ["WITHIN GROUP", "RESPECT NULLS", "IGNORE NULLS", "FILTER"] rest) :
    readWithinGroup (cut (keysAtoms keys) ++ rest) = some (keys, rest)
      ∧ Follows ["RESPECT NULLS", "IGNORE NULLS", "FILTER"] (cut (keysAtoms keys) ++ rest) := by
  obtain rfl | h := h
  · have hnil : cut (keysAtoms .nil) ++ rest = rest := rfl
    rw [hnil]
    refine ⟨?_, hrest.mono (by decide)⟩
    unfold readWithinGroup
    split
    · exact absurd rfl (hrest.ne (by decide))
    · rfl
  · -- There is a text to be read, so the keys are not the empty list.
    have hkeys : keysAtoms keys = "WITHIN GROUP" :: keys.texts := by
      unfold keysAtoms
      split
      · next hnil =>
          rw [hnil] at h
          obtain ⟨p, more, hcut, -⟩ := h.cons
          cases hcut
      · rfl
    rw [hkeys, cut_word (by decide)]
    exact ⟨readRun_eq h hrest.mark, follows_cons _ (by decide) (by decide)⟩

theorem readNulls_eq (nulls : Option NullTreatment)
    (hrest : Follows ["RESPECT NULLS", "IGNORE NULLS", "FILTER"] rest) :
    readNulls (cut (atomIf NullTreatment.text nulls) ++ rest) = (nulls, rest)
      ∧ Follows ["FILTER"] (cut (atomIf NullTreatment.text nulls) ++ rest) := by
  match nulls with
  | none =>
      refine ⟨?_, hrest.mono (by decide)⟩
      show readNulls rest = _
      unfold readNulls
      split
      · exact absurd rfl (hrest.ne (by decide))
      · exact absurd rfl (hrest.ne (by decide))
      · rfl
  | some .respect =>
      rw [atomIf, NullTreatment.text, cut_word (by decide)]
      exact ⟨rfl, follows_cons _ (by decide) (by decide)⟩
  | some .ignore =>
      rw [atomIf, NullTreatment.text, cut_word (by decide)]
      exact ⟨rfl, follows_cons _ (by decide) (by decide)⟩

theorem readFilter_eq {filter : MaybeExpr} (h : ∀ e ∈ filter.toOption, ReadsExpr expr e)
    (hrest : Follows ["FILTER"] rest) :
    readBehind "FILTER" (readBracketed expr) (cut (filterAtoms filter) ++ rest)
      = some (filter.recast, rest) := by
  cases filter with
  | none => exact readBehind_none (hrest.head (by decide))
  | some e =>
      have he := reads_bracketed (h e rfl).reads ends_parenthesis rest trivial
      rw [filterAtoms, cut_word (by decide), List.cons_append, readBehind_some, he]
      rfl

/-! ## Arguments -/

theorem plain_of_begins (h : opens ts = true ∨ ts.head? = some "*") : Plain ts := by
  obtain h | h := h
  · exact ⟨ne_of_opens h (by decide), ne_of_opens h (by decide)⟩
  · rw [Plain, h]
    decide

theorem Closes.plain (h : Closes ts) : Plain ts := by
  obtain ⟨p, more, rfl, rfl | hhead⟩ := h
  · simp [Plain]
  · have hframe := (not_clauseHead hhead).1
    have hne : ∀ q ∈ frameWords, p ≠ q := by
      rintro q hq rfl
      exact hframe hq
    simpa [Plain] using And.intro (hne "DISTINCT" (by decide)) (hne "ALL" (by decide))

theorem readDuplicates_eq (duplicates : Option Duplicates) (h : Plain ts) :
    readDuplicates (cut (atomIf Duplicates.text duplicates) ++ ts) = (duplicates, ts) := by
  match duplicates with
  | none =>
      show readDuplicates ts = _
      unfold readDuplicates
      split
      · exact absurd rfl h.1
      · exact absurd rfl h.2
      · rfl
  | some .distinct =>
      rw [atomIf, Duplicates.text, cut_word (by decide)]
      rfl
  | some .all =>
      rw [atomIf, Duplicates.text, cut_word (by decide)]
      rfl

theorem readTail_eq {atoms : List String} {clauses : CallArgs} (h : SpellsClauses atoms clauses)
    (rest : List String) :
    readTail (cut atoms ++ ")" :: rest) = some (clauses, ")" :: rest)
      ∧ Closes (cut atoms ++ ")" :: rest) := by
  obtain ⟨rfl, rfl⟩ | ⟨hrun, hread⟩ := h
  · exact ⟨rfl, closes_parenthesis rest⟩
  · -- The clauses are one atom, which is cut at its points and put together again.
    have htext : ".".intercalate (cut atoms) = ".".intercalate atoms :=
      intercalate_flatMap_pieces atoms
    unfold isClauseRun at hrun
    split at hrun
    · next p more hcut =>
        rw [Bool.and_eq_true, List.all_eq_true] at hrun
        obtain ⟨hhead, hmore⟩ := hrun
        have hmarks : ∀ p ∈ more, isMark p = false := by
          intro p hp
          simpa using hmore p hp
        obtain ⟨htake, hdrop⟩ := span_run hmarks (ends_parenthesis rest).mark
        rw [hcut] at htext ⊢
        refine ⟨?_, p, _, rfl, .inr hhead⟩
        rw [List.cons_append, readTail, if_pos hhead, htake, hdrop, htext, hread]
        rfl
    · cases hrun

theorem reads_arguments {duplicates : Option Duplicates} {leading nulls : Option JsonNulls}
    {args : Exprs} {order : OrderKeys} {limit : MaybeExpr} {overflow : Overflow}
    (hargs : ReadsArguments items args)
    (hclauses : SpellsClauses
      (argumentClauses leading order.texts limit.text? overflow.texts nulls)
      (.list none leading .nil order limit overflow nulls)) :
    Reads (readArguments items)
      (argsAtoms (.list duplicates leading args order limit overflow nulls))
      (CallArgs.list duplicates leading args order limit overflow nulls).recast
      fun ts => ∃ more, ts = ")" :: more := by
  rintro _ ⟨rest, rfl⟩
  obtain ⟨htail, hcloses⟩ := readTail_eq hclauses rest
  have hlist := hargs.reads _ hcloses
  have hduplicates := readDuplicates_eq duplicates (hargs.plain _ hcloses)
  rw [argsAtoms, cut_append, cut_append, List.append_assoc, List.append_assoc, readArguments,
    hduplicates]
  simp [hlist, htail, fillIn, CallArgs.recast]

/-! ## Calls -/

/-- A run in front of a parenthesis is the name of a call. -/
theorem readForm_call {name : Path} (hname : Spells readName (name.map Ident.text) name)
    (atoms ts : List String) :
    readForm expr items branches
        (cut (name.map Ident.text) ++ (cut (bracketed atoms) ++ ts))
      = (readCall expr items name (cut (bracketed atoms) ++ ts)).map
        fun (c, ts) => (.call c, ts) := by
  have hmark : ∀ p ∈ (cut (bracketed atoms) ++ ts).head?, isMark p = true := by
    rw [cut_bracketed]
    rintro _ ⟨⟩
    decide
  have hdrop := (span_run (run_pieces hname.1).2 hmark).2
  have hread := readRun_eq hname hmark
  rw [readForm_of_spells hname, readSimple, hdrop]
  rw [cut_bracketed] at hread ⊢
  simp only [hread, Option.bind_eq_bind, Option.bind_some, Option.map_eq_bind]
  rfl

theorem reads_call {name : Path} {args : CallArgs} {withinGroup : OrderKeys} {filter : MaybeExpr}
    {nulls : Option NullTreatment} {window : Over}
    (hname : Spells readName (name.map Ident.text) name)
    (hargs : Reads (readArguments items) (argsAtoms args) args.recast
      fun ts => ∃ more, ts = ")" :: more)
    (hfilter : ∀ e ∈ filter.toOption, ReadsExpr expr e)
    (hkeys : SpellsKeys withinGroup) (hwindow : SpellsWindow window) :
    ReadsExpr (readForm expr items branches)
      (.call ⟨name, false, args, withinGroup, filter, nulls, window⟩) where
  reads rest hrest := by
    -- From the last part to the first: each says what the one before it is followed by.
    obtain ⟨hover, hrest⟩ := readOver_eq hwindow hrest
    obtain ⟨hgroup, hrest⟩ := readWithinGroup_eq hkeys hrest
    obtain ⟨hnulls, hrest⟩ := readNulls_eq nulls hrest
    have hfilter := readFilter_eq hfilter hrest
    have hargs := reads_bracketed hargs fun ts => ⟨ts, rfl⟩
    rw [exprAtoms, callAtoms_eq]
    simp only [cut_append, List.append_assoc]
    rw [readForm_call hname, readCall, hargs _ trivial]
    simp [hfilter, hnulls, hgroup, hover, Expr.recast, Call.recast]
  opens rest := by
    rw [exprAtoms, callAtoms_eq, cut_append, List.append_assoc]
    exact opens_of_spells hname _

end

end QueryReport.Column
