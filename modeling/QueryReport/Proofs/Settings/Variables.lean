import Mathlib.Data.List.Basic
import QueryReport.Proofs.Text.Split
import QueryReport.Settings.Basic

/-!
# `QueryReport.Proofs.Settings.Variables`: variables are replaced where they are written

`Segment` is a part of a text as a person means it: a literal text, a variable in braces or without,
or a dollar sign that stands for itself.  `Writes segments cs` says that the segments, one after the
other, are the characters `cs`, and that each of them can be told from what follows it: a name
without braces ends where its characters end, and a dollar sign that stands for itself begins no
variable.

* `pieces_of_writes`: a text is cut at the borders of its segments, whatever stands beside what.
  It is the step of every segment (`pieces_literal`, `pieces_braced`, `pieces_bare`,
  `pieces_dollar`), one after the other.
* `exists_writes`: every text is written in segments, up to a brace that is never closed.
* `expand_eq`: a text is expanded piece by piece, unless one of its variables is not set.
* `expand_of_writes` is the result: each variable gives its value, once, or the first one without a
  value is reported.
-/

set_option autoImplicit false

namespace QueryReport.Variables

/-! ## Segments -/

/-- A part of a text as it is meant. -/
inductive Segment where
  | literal (text : List Char)
  | braced (name : List Char)
  | bare (name : List Char)
  | dollar

/-- The segments are written one after the other.  What follows a segment matters only where it
could be taken for a part of it. -/
inductive Writes : List Segment → List Char → Prop where
  | nil : Writes [] []
  | literal {text : List Char} {segments : List Segment} {rest : List Char} (hfree : '$' ∉ text)
      (hrest : Writes segments rest) : Writes (.literal text :: segments) (text ++ rest)
  | braced {name : List Char} {segments : List Segment} {rest : List Char} (hfree : '\x7d' ∉ name)
      (hrest : Writes segments rest) :
      Writes (.braced name :: segments) ('$' :: '\x7b' :: (name ++ '\x7d' :: rest))
  | bare {name : List Char} {segments : List Segment} {rest : List Char} (hne : name ≠ [])
      (hname : ∀ c ∈ name, isNameChar c) (hnext : ∀ c ∈ rest.head?, isNameChar c = false)
      (hrest : Writes segments rest) : Writes (.bare name :: segments) ('$' :: (name ++ rest))
  | dollar {segments : List Segment} {rest : List Char}
      (hnext : ∀ c ∈ rest.head?, c ≠ '\x7b' ∧ isNameChar c = false)
      (hrest : Writes segments rest) : Writes (.dollar :: segments) ('$' :: rest)

namespace Segment

/-- What a segment is cut into. -/
def cut : Segment → List Piece
  | literal text => text.map .char
  | braced name | bare name => [.reference name]
  | dollar => [.char '$']

/-- The name of the variable that a segment stands for. -/
def name? : Segment → Option String
  | braced name | bare name => some (String.ofList name)
  | literal _ | dollar => none

/-- The text that a segment stands for.  A variable stands for its value. -/
def value (env : String → Option String) : Segment → String
  | literal text => String.ofList text
  | braced name | bare name => (env (String.ofList name)).getD ""
  | dollar => "$"

end Segment

/-! ## Cutting -/

section Cutting

variable {cs text name rest : List Char} {segments : List Segment}

theorem isNameChar_brace : isNameChar '\x7b' = false := by decide +kernel

theorem pieces_other {c : Char} (h : c ≠ '$') (rest : List Char) :
    pieces (c :: rest) = .char c :: pieces rest := by
  rw [pieces]
  all_goals
    intros
    exact h ‹_›

theorem pieces_literal (hfree : '$' ∉ text) (rest : List Char) :
    pieces (text ++ rest) = text.map .char ++ pieces rest := by
  induction text with
  | nil => rfl
  | cons c text ih =>
      rw [List.mem_cons, not_or] at hfree
      rw [List.cons_append, pieces_other (Ne.symm hfree.1), ih hfree.2]
      rfl

theorem pieces_braced (hfree : '\x7d' ∉ name) (rest : List Char) :
    pieces ('$' :: '\x7b' :: (name ++ '\x7d' :: rest)) = .reference name :: pieces rest := by
  have hname : ∀ c ∈ name, decide (c ≠ '\x7d') = true := by
    intro c hc
    simpa using ne_of_mem_of_not_mem hc hfree
  have hnext : ∀ c ∈ ('\x7d' :: rest).head?, decide (c ≠ '\x7d') = false := by
    rintro _ ⟨⟩
    decide
  rw [pieces, Text.takeWhile_run hname hnext, Text.dropWhile_run hname hnext]
  rfl

theorem pieces_bare (hne : name ≠ []) (hname : ∀ c ∈ name, isNameChar c)
    (hnext : ∀ c ∈ rest.head?, isNameChar c = false) :
    pieces ('$' :: (name ++ rest)) = .reference name :: pieces rest := by
  -- A brace is no character of a name, so the name is not taken for one in braces.
  have hbrace : ∀ more, name ++ rest ≠ '\x7b' :: more := by
    intro more heq
    cases name with
    | nil => exact hne rfl
    | cons c name =>
        obtain ⟨rfl, -⟩ := List.cons.inj heq
        have hbrace := hname _ List.mem_cons_self
        rw [isNameChar_brace] at hbrace
        cases hbrace
  rw [pieces, Text.takeWhile_run hname hnext, Text.dropWhile_run hname hnext,
    if_neg (by simpa using hne)]
  exact hbrace

theorem pieces_dollar (hnext : ∀ c ∈ rest.head?, c ≠ '\x7b' ∧ isNameChar c = false) :
    pieces ('$' :: rest) = .char '$' :: pieces rest := by
  have hempty : rest.takeWhile isNameChar = [] :=
    @Text.takeWhile_run _ _ [] rest nofun fun c hc => (hnext c hc).2
  rw [pieces, hempty]
  · rfl
  · rintro more rfl
    exact (hnext _ rfl).1 rfl

/-- A text is cut at the borders of its segments. -/
theorem pieces_of_writes (h : Writes segments cs) : pieces cs = segments.flatMap Segment.cut := by
  induction h with
  | nil =>
      rw [pieces]
      rfl
  | literal hfree _ ih =>
      rw [pieces_literal hfree, ih]
      rfl
  | braced hfree _ ih =>
      rw [pieces_braced hfree, ih]
      rfl
  | bare hne hname hnext _ ih =>
      rw [pieces_bare hne hname hnext, ih]
      rfl
  | dollar hnext _ ih =>
      rw [pieces_dollar hnext, ih]
      rfl

/-- What is written in front of something else begins like the whole. -/
theorem head?_of_append {before behind : List Char} {p : Char → Prop}
    (h : ∀ c ∈ (before ++ behind).head?, p c) : ∀ c ∈ before.head?, p c := by
  cases before with
  | nil => exact nofun
  | cons c before => exact h

/-- Every text is written in segments, except that its last brace may not be closed. -/
theorem exists_writes (cs : List Char) : ∃ segments written behind, cs = written ++ behind
    ∧ Writes segments written
    ∧ (behind = [] ∨ ∃ name, '\x7d' ∉ name ∧ behind = '$' :: '\x7b' :: name) := by
  fun_induction pieces cs with
  | case1 => exact ⟨[], [], [], rfl, .nil, .inl rfl⟩
  | case2 rest ih =>
      have hname : '\x7d' ∉ rest.takeWhile (· ≠ '\x7d') := by
        intro hmem
        simpa using List.mem_takeWhile_imp hmem
      have hstop := List.head?_dropWhile_not (fun c => decide (c ≠ '\x7d')) rest
      have hsplit := List.takeWhile_append_dropWhile (p := (· ≠ '\x7d')) (l := rest)
      generalize rest.takeWhile (· ≠ '\x7d') = name at hname hsplit
      generalize rest.dropWhile (· ≠ '\x7d') = after at ih hstop hsplit
      subst hsplit
      cases after with
      | nil =>
          rw [List.append_nil]
          exact ⟨[], [], _, rfl, .nil, .inr ⟨name, hname, rfl⟩⟩
      | cons c more =>
          -- The name ends at a brace, since nothing else stops it.
          obtain rfl : c = '\x7d' := by simpa using hstop
          obtain ⟨segments, written, behind, heq, hwrites, hbehind⟩ := ih
          rw [List.drop_succ_cons, List.drop_zero] at heq
          subst heq
          exact ⟨_, _, behind, by simp, hwrites.braced hname, hbehind⟩
  | case3 rest hbrace hempty ih =>
      obtain ⟨segments, written, behind, rfl, hwrites, hbehind⟩ := ih
      refine ⟨_, '$' :: written, behind, rfl, .dollar ?_ hwrites, hbehind⟩
      refine @head?_of_append _ behind _ fun c hc => ⟨?_, ?_⟩
      · rintro rfl
        obtain ⟨more, heq⟩ := List.head?_eq_some_iff.mp hc
        exact hbrace more heq
      · obtain ⟨more, heq⟩ := List.head?_eq_some_iff.mp hc
        rw [heq, List.isEmpty_iff, List.takeWhile_eq_nil_iff] at hempty
        simpa using hempty
  | case4 rest hbrace hempty ih =>
      obtain ⟨segments, written, behind, heq, hwrites, hbehind⟩ := ih
      have hname : ∀ c ∈ rest.takeWhile isNameChar, isNameChar c :=
        fun c hc => List.mem_takeWhile_imp hc
      have hstop := List.head?_dropWhile_not isNameChar rest
      have hnext : ∀ c ∈ (written ++ behind).head?, isNameChar c = false := by
        rw [← heq]
        intro c hc
        rw [hc] at hstop
        simpa using hstop
      refine ⟨_, _, behind, ?_, hwrites.bare (by simpa using hempty) hname (head?_of_append hnext),
        hbehind⟩
      rw [List.cons_append, List.append_assoc, ← heq, List.takeWhile_append_dropWhile]
  | case5 c rest hbrace hdollar ih =>
      obtain ⟨segments, written, behind, rfl, hwrites, hbehind⟩ := ih
      exact ⟨_, [c] ++ written, behind, rfl, hwrites.literal (by simpa using Ne.symm hdollar),
        hbehind⟩

end Cutting

/-! ## Putting values in place -/

section Values

variable (env : String → Option String)

/-- The characters that a piece stands for. -/
def Piece.text : Piece → List Char
  | .char c => [c]
  | .reference name => ((env (String.ofList name)).getD "").toList

/-- The name that a piece refers to. -/
def Piece.name? : Piece → Option String
  | .char _ => none
  | .reference name => some (String.ofList name)

/-- The values of pieces are taken in order, up to the first variable that is not set. -/
theorem mapM_value (ps : List Piece) :
    ps.mapM (Piece.value env)
      = match (ps.filterMap Piece.name?).find? fun name => (env name).isNone with
        | some name => .error name
        | none => .ok (ps.map (Piece.text env)) := by
  induction ps with
  | nil => rfl
  | cons p ps ih =>
      rw [List.mapM_cons, ih]
      -- A character always has a value; a variable ends the run where it is not set.
      cases p with
      | char c =>
          simp only [Piece.value, List.filterMap_cons, Piece.name?]
          cases (ps.filterMap Piece.name?).find? fun name => (env name).isNone <;> rfl
      | reference name =>
          simp only [Piece.value, List.filterMap_cons, Piece.name?, List.find?_cons]
          cases hvalue : env (String.ofList name) with
          | none => rfl
          | some value =>
              simp only [Option.isNone_some, List.map_cons, Piece.text, hvalue, Option.getD_some]
              cases (ps.filterMap Piece.name?).find? fun name => (env name).isNone <;> rfl

theorem names_eq (text : String) : names text = (pieces text.toList).filterMap Piece.name? := by
  unfold names
  congr 1

/-- A text is expanded to what its pieces stand for, unless one of its variables is not set. -/
theorem expand_eq (text : String) :
    expand env text = match (names text).find? fun name => (env name).isNone with
      | some name => .error name
      | none => .ok (String.ofList ((pieces text.toList).flatMap (Piece.text env))) := by
  rw [names_eq, expand, mapM_value]
  split <;> rfl

theorem name?_cut (s : Segment) : s.cut.filterMap Piece.name? = s.name?.toList := by
  cases s with
  | literal text =>
      show (text.map Piece.char).filterMap Piece.name? = []
      simp [List.filterMap_map, Function.comp_def, Piece.name?]
  | _ => rfl

theorem text_cut (s : Segment) : s.cut.flatMap (Piece.text env) = (s.value env).toList := by
  cases s with
  | literal text =>
      show (text.map Piece.char).flatMap (Piece.text env) = (String.ofList text).toList
      simp [List.flatMap_map, Piece.text]
  | braced name => simp [Segment.cut, Segment.value, Piece.text]
  | bare name => simp [Segment.cut, Segment.value, Piece.text]
  | dollar => simp [Segment.cut, Segment.value, Piece.text]

theorem names_of_writes {segments : List Segment} {text : String}
    (h : Writes segments text.toList) : names text = segments.filterMap Segment.name? := by
  rw [names_eq, pieces_of_writes h, List.filterMap_flatMap]
  simp only [name?_cut]
  exact (List.filterMap_eq_flatMap_toList Segment.name? segments).symm

/-- A text that is written in segments is expanded to what the segments stand for, one after the
other; values are not looked into again.  If a variable is not set, the first of them is missing. -/
theorem expand_of_writes {segments : List Segment} {text : String}
    (h : Writes segments text.toList) :
    (expand env text).mapError SettingsError.missingVariable
      = match (segments.filterMap Segment.name?).find? fun name => (env name).isNone with
        | some name => .error (.missingVariable name)
        | none => .ok (String.join (segments.map (Segment.value env))) := by
  have hvalues : String.ofList ((pieces text.toList).flatMap (Piece.text env))
      = String.join (segments.map (Segment.value env)) := by
    rw [← String.toList_inj, String.toList_ofList, String.toList_join, pieces_of_writes h,
      List.flatMap_assoc, List.flatMap_map]
    simp only [text_cut]
  rw [expand_eq, names_of_writes h, hvalues]
  split <;> rfl

/-- A value with a dollar sign and one with braces, side by side, and the same text where the second
variable is not set. -/
theorem expand_neighbours :
    ∃ segments, Writes segments "p/$\x7bA\x7d$Bé-$ 5$$A".toList
      ∧ (expand (fun name => if name = "A" then some "$Bé" else some "\x7bA\x7d")
          "p/$\x7bA\x7d$Bé-$ 5$$A").mapError SettingsError.missingVariable
        = .ok "p/$Bé\x7bA\x7d-$ 5$$Bé"
      ∧ (expand (fun name => if name = "A" then some "$Bé" else none)
          "p/$\x7bA\x7d$Bé-$ 5$$A").mapError SettingsError.missingVariable
        = .error (.missingVariable "Bé") := by
  let segments : List Segment := [.literal ['p', '/'], .braced ['A'], .bare ['B', 'é'],
    .literal ['-'], .dollar, .literal [' ', '5'], .dollar, .bare ['A']]
  -- The text, laid out as its segments are written.
  have htext : "p/$\x7bA\x7d$Bé-$ 5$$A".toList = ['p', '/'] ++ '$' :: '\x7b' :: (['A'] ++ '\x7d'
      :: '$' :: (['B', 'é'] ++ (['-'] ++ '$' :: ([' ', '5'] ++ '$' :: '$' :: (['A'] ++ []))))) := by
    decide +kernel
  have hA : isNameChar 'A' := by decide +kernel
  have hname : ∀ c ∈ ['B', 'é'], isNameChar c := List.all_eq_true.mp (by decide +kernel)
  have hwrites : Writes segments "p/$\x7bA\x7d$Bé-$ 5$$A".toList := by
    rw [htext]
    refine .literal (by decide) (.braced (by decide) (.bare nofun hname ?_ (.literal (by decide)
      (.dollar ?_ (.literal (by decide) (.dollar ?_
      (.bare nofun (List.forall_mem_singleton.mpr hA) nofun .nil)))))))
    all_goals
      rintro _ ⟨⟩
      decide +kernel
  refine ⟨segments, hwrites, ?_, ?_⟩
  · rw [expand_of_writes _ hwrites]
    decide +kernel
  · rw [expand_of_writes _ hwrites]
    decide +kernel

end Values

end QueryReport.Variables
