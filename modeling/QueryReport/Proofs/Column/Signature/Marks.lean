import QueryReport.Proofs.Column.Recast
import QueryReport.Proofs.Text.Dotted
import QueryReport.Proofs.Text.Split

/-!
# `QueryReport.Proofs.Column.Signature.Marks`: the marks of a fingerprint

A fingerprint consists of marks, such as parentheses, operators and the words of a `CASE`, and of
runs between them: names, constants, types and whatever is kept as text.  A run may have been cut
into several pieces, since names and numbers have dots too.  No piece of it may look like a mark.

* `isMark`, `isContinuing`, `isOpening` tell what a mark can be.
* `Follows` says with what mark pieces begin, and `Ends` that an expression in front of them is
  complete: no expression is continued with that mark.
* `Spells` says that a part of an expression is a run and is read back from its text; `readRun_eq`
  reads it in front of a mark.
-/

set_option autoImplicit false

namespace QueryReport.Column

open Sql Text

/-! ## Marks -/

/-- The words and signs that hold a fingerprint together. -/
def frameWords : List String :=
  ["(", ")", ",", "CASE", "WHEN", "THEN", "ELSE", "END", "::", "IS NULL", "IS NOT NULL", "IN",
    "NOT IN", "BETWEEN", "NOT BETWEEN", "AND", "OR", "XOR", "NOT", "SUBQUERY", "ARRAY", "DISTINCT",
    "ALL", "FILTER", "RESPECT NULLS", "IGNORE NULLS", "WITHIN GROUP", "OVER"]

/-- The characters of which operators are made. -/
def operatorChars : List Char :=
  ['+', '-', '*', '/', '<', '>', '=', '~', '!', '@', '#', '%', '^', '&', '|', '?']

/-- The piece is an operator written in signs. -/
def isSymbolic (p : String) : Bool :=
  !p.toList.isEmpty && p.toList.all operatorChars.contains

/-- How the clauses behind the arguments of a call begin. -/
def clauseHeads : List String :=
  ["ORDER BY ", "LIMIT ", "ON OVERFLOW ", "NULL ON NULL", "ABSENT ON NULL"]

def isClauseHead (p : String) : Bool :=
  clauseHeads.any fun head => head.toList.isPrefixOf p.toList

def isMark (p : String) : Bool := frameWords.contains p || isSymbolic p || isClauseHead p

/-- The marks with which an expression goes on. -/
def continuing : List String :=
  ["(", "::", "IS NULL", "IS NOT NULL", "IN", "NOT IN", "BETWEEN", "NOT BETWEEN", "FILTER",
    "RESPECT NULLS", "IGNORE NULLS", "WITHIN GROUP", "OVER"]

/-- The operator with one operand that is written in this way. -/
def readUnary (p : String) : Option UnaryOp :=
  [.plus, .minus, .not, .bitNot, .squareRoot, .cubeRoot, .abs, .leadingFactorial,
    .factorial].find? fun op => op.text = p

/-- The operator with two operands that is written in this way. -/
def readBinary (p : String) : Option BinaryOp :=
  if p = "OR" then some .or
  else if p = "AND" then some .and
  else if p = "XOR" then some .xor
  else if isSymbolic p then some (.symbol p)
  else none

/-- An expression can begin with the piece. -/
def isOpening (p : String) : Bool :=
  !isMark p || ["(", "CASE", "SUBQUERY", "ARRAY"].contains p || (readUnary p).isSome

/-- The pieces begin with a mark that is none of the given ones, if there are any. -/
def Follows (marks : List String) (ts : List String) : Prop :=
  ∀ p ∈ ts.head?, isMark p = true ∧ p ∉ marks

/-- An expression in front of the pieces is complete. -/
def Ends (ts : List String) : Prop := Follows continuing ts

theorem follows_cons {marks : List String} {p : String} (ts : List String)
    (hmark : isMark p = true) (hp : p ∉ marks) : Follows marks (p :: ts) := by
  rintro _ ⟨⟩
  exact ⟨hmark, hp⟩

theorem Follows.mono {marks fewer ts : List String} (h : Follows marks ts)
    (hfewer : ∀ p ∈ fewer, p ∈ marks) : Follows fewer ts := by
  intro p hp
  exact ⟨(h p hp).1, fun hmem => (h p hp).2 (hfewer p hmem)⟩

theorem Follows.mark {marks ts : List String} (h : Follows marks ts) :
    ∀ p ∈ ts.head?, isMark p = true :=
  fun p hp => (h p hp).1

theorem Follows.ne {marks ts more : List String} {p : String} (h : Follows marks ts)
    (hp : p ∈ marks) : ts ≠ p :: more := by
  rintro rfl
  exact (h p rfl).2 hp

theorem Follows.head {marks ts : List String} {p : String} (h : Follows marks ts)
    (hp : p ∈ marks) : ts.head? ≠ some p :=
  fun hhead => (h p hhead).2 hp

theorem ends_nil : Ends [] := nofun

theorem ends_cons {p : String} (ts : List String) (hmark : isMark p = true)
    (hcontinuing : p ∉ continuing) : Ends (p :: ts) :=
  follows_cons ts hmark hcontinuing

theorem readUnary_text (op : UnaryOp) : readUnary op.text = some op := by
  cases op <;> decide

theorem isMark_unary (op : UnaryOp) : isMark op.text = true := by
  cases op <;> decide

theorem text_readUnary {p : String} {op : UnaryOp} (h : readUnary p = some op) : op.text = p := by
  simpa using List.find?_some h

/-- What is no mark is no operator. -/
theorem readUnary_of_not_mark {p : String} (h : isMark p = false) : readUnary p = none := by
  cases hop : readUnary p with
  | none => rfl
  | some op =>
      rw [← text_readUnary hop, isMark_unary] at h
      cases h

theorem ne_of_not_mark {p q : String} (hp : isMark p = false) (hq : q ∈ frameWords) : p ≠ q := by
  rintro rfl
  simp [isMark, hq] at hp

/-- No clause begins with a mark that stands for something else. -/
theorem not_clauseHead {p : String} (h : isClauseHead p = true) :
    p ∉ frameWords ∧ isSymbolic p = false := by
  constructor
  · have hwords : ∀ q ∈ frameWords, isClauseHead q = false := by decide
    intro hp
    rw [hwords p hp] at h
    cases h
  · -- A clause begins with a letter.
    cases hsymbolic : isSymbolic p with
    | false => rfl
    | true =>
        simp only [isSymbolic, Bool.and_eq_true] at hsymbolic
        obtain ⟨head, hhead, hprefix⟩ := List.any_eq_true.mp h
        obtain ⟨rest, hrest⟩ := List.isPrefixOf_iff_prefix.mp hprefix
        have hheads : ∀ head ∈ clauseHeads,
            (head.toList.all operatorChars.contains) = false := by decide
        have hall := hsymbolic.2
        rw [← hrest, List.all_append, hheads head hhead] at hall
        cases hall

theorem isMark_of_symbolic {p : String} (h : isSymbolic p = true) :
    isMark p = true ∧ p ∉ frameWords := by
  have hwords : ∀ q ∈ frameWords, isSymbolic q = false := by decide
  refine ⟨by simp [isMark, h], ?_⟩
  intro hp
  rw [hwords p hp] at h
  cases h

theorem continuing_subset {p : String} (h : p ∈ continuing) : p ∈ frameWords := by
  have hwords : ∀ q ∈ continuing, q ∈ frameWords := by decide
  exact hwords p h

/-- What stands between two operands is a mark and continues neither of them. -/
theorem text_readBinary {p : String} {op : BinaryOp} (h : readBinary p = some op) :
    isMark p = true ∧ p ∉ continuing ∧ p ≠ ")" ∧ (p ∈ frameWords ∨ isSymbolic p = true) := by
  unfold readBinary at h
  split at h
  · next hp => exact hp ▸ ⟨by decide, by decide, by decide, .inl (by decide)⟩
  · split at h
    · next hp => exact hp ▸ ⟨by decide, by decide, by decide, .inl (by decide)⟩
    · split at h
      · next hp => exact hp ▸ ⟨by decide, by decide, by decide, .inl (by decide)⟩
      · split at h
        · next hp =>
            obtain ⟨hmark, hframe⟩ := isMark_of_symbolic hp
            refine ⟨hmark, fun h => hframe (continuing_subset h), ?_, .inr hp⟩
            rintro rfl
            exact hframe (by decide)
        · cases h

/-! ## Pieces -/

/-- The pieces of a list of atoms. -/
def cut (atoms : List String) : List String := atoms.flatMap pieces

theorem cut_nil : cut [] = [] := rfl

theorem cut_append (first rest : List String) : cut (first ++ rest) = cut first ++ cut rest := by
  simp [cut]

theorem cut_cons (atom : String) (atoms : List String) :
    cut (atom :: atoms) = pieces atom ++ cut atoms := rfl

/-- Frame words have no dots. -/
theorem cut_word {p : String} (h : p ∈ frameWords) (atoms : List String) :
    cut (p :: atoms) = p :: cut atoms := by
  have hwords : ∀ q ∈ frameWords, pieces q = [q] := by decide +kernel
  rw [cut_cons, hwords p h]
  rfl

theorem pieces_symbolic {p : String} (h : isSymbolic p = true) : pieces p = [p] := by
  have hchars : ∀ c ∈ operatorChars, c ≠ '.' ∧ c ≠ '\'' ∧ c ≠ '"' := by
    simp [operatorChars]
  refine pieces_plain fun c hc => hchars c ?_
  simp only [isSymbolic, Bool.and_eq_true, List.all_eq_true, List.contains_iff_mem] at h
  exact h.2 c hc

theorem cut_bracketed (atoms rest : List String) :
    cut (bracketed atoms) ++ rest = "(" :: (cut atoms ++ ")" :: rest) := by
  unfold bracketed
  simp (disch := decide) only [cut_word, cut_append, cut_nil, List.cons_append, List.append_assoc,
    List.nil_append]

theorem cut_unary (op : UnaryOp) (atoms : List String) :
    cut (op.text :: atoms) = op.text :: cut atoms := by
  have hpieces : pieces op.text = [op.text] := by cases op <;> decide +kernel
  rw [cut_cons, hpieces]
  rfl

theorem cut_binary {op : BinaryOp} (h : readBinary op.text = some op) (atoms : List String) :
    cut (op.text :: atoms) = op.text :: cut atoms := by
  obtain ⟨-, -, -, hword | hsymbolic⟩ := text_readBinary h
  · exact cut_word hword atoms
  · rw [cut_cons, pieces_symbolic hsymbolic]
    rfl

/-! ## Runs -/

/-- The atoms make a run: there is something to read, and none of it is a mark. -/
def isRun (atoms : List String) : Bool :=
  !(cut atoms).isEmpty && (cut atoms).all fun p => !isMark p

/-- The atoms make a run whose text is read as the given part of an expression. -/
def Spells {α : Type} (read : String → Option α) (atoms : List String) (a : α) : Prop :=
  isRun atoms = true ∧ read (".".intercalate atoms) = some a

instance {α : Type} [DecidableEq α] (read : String → Option α) (atoms : List String) (a : α) :
    Decidable (Spells read atoms a) :=
  inferInstanceAs (Decidable (_ ∧ _))

/-- The run that the pieces begin with, and what follows it. -/
def readRun {α : Type} (read : String → Option α) (ts : List String) : Option (α × List String) :=
  (read (".".intercalate (ts.takeWhile fun p => !isMark p))).map fun a =>
    (a, ts.dropWhile fun p => !isMark p)

theorem run_pieces {atoms : List String} (h : isRun atoms = true) :
    cut atoms ≠ [] ∧ ∀ p ∈ cut atoms, isMark p = false := by
  rw [isRun, Bool.and_eq_true, List.all_eq_true] at h
  refine ⟨by simpa using h.1, ?_⟩
  intro p hp
  simpa using h.2 p hp

theorem Spells.cons {α : Type} {read : String → Option α} {atoms : List String} {a : α}
    (h : Spells read atoms a) : ∃ p more, cut atoms = p :: more ∧ isMark p = false := by
  obtain ⟨hne, hmarks⟩ := run_pieces h.1
  obtain ⟨p, more, hcut⟩ := List.exists_cons_of_ne_nil hne
  exact ⟨p, more, hcut, hmarks p (hcut ▸ List.mem_cons_self)⟩

/-- A run ends at the mark behind it. -/
theorem span_run {run rest : List String} (hrun : ∀ p ∈ run, isMark p = false)
    (hrest : ∀ p ∈ rest.head?, isMark p = true) :
    (run ++ rest).takeWhile (fun p => !isMark p) = run
      ∧ (run ++ rest).dropWhile (fun p => !isMark p) = rest := by
  have hrun : ∀ p ∈ run, (!isMark p) = true := fun p hp => by rw [hrun p hp]; rfl
  have hrest : ∀ p ∈ rest.head?, (!isMark p) = false := fun p hp => by rw [hrest p hp]; rfl
  exact ⟨Text.takeWhile_run hrun hrest, Text.dropWhile_run hrun hrest⟩

/-- A run is read up to the mark behind it. -/
theorem readRun_eq {α : Type} {read : String → Option α} {atoms rest : List String} {a : α}
    (h : Spells read atoms a) (hrest : ∀ p ∈ rest.head?, isMark p = true) :
    readRun read (cut atoms ++ rest) = some (a, rest) := by
  obtain ⟨hrun, hread⟩ := h
  obtain ⟨htake, hdrop⟩ := span_run (run_pieces hrun).2 hrest
  rw [readRun, htake, hdrop, cut, intercalate_flatMap_pieces, hread]
  rfl

end QueryReport.Column
