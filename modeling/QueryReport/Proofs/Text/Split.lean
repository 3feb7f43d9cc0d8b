import Mathlib.Data.List.TakeWhile
import QueryReport.Text.Classes
import QueryReport.Text.Split

/-!
# `QueryReport.Proofs.Text.Split`: cutting and trimming

* `takeWhile_run`, `dropWhile_run`: a run of characters of a class is taken up to where it ends.
* `splitOn_eq`: a text is cut as `List.splitOn` cuts it, so that cutting and joining undo one
  another.
* `trim_blanks`: blanks around a text do not matter to its trimmed form.
* `exists_trim`: a text is its trimmed form with blanks around it.
-/

set_option autoImplicit false

namespace QueryReport.Text

/-! ## Runs -/

section Runs

variable {α : Type} {p : α → Bool} {run rest : List α}

theorem takeWhile_run (hrun : ∀ a ∈ run, p a) (hrest : ∀ a ∈ rest.head?, p a = false) :
    (run ++ rest).takeWhile p = run := by
  rw [List.takeWhile_append_of_pos hrun]
  cases rest with
  | nil => simp
  | cons a rest => simp [hrest a rfl]

theorem dropWhile_run (hrun : ∀ a ∈ run, p a) (hrest : ∀ a ∈ rest.head?, p a = false) :
    (run ++ rest).dropWhile p = rest := by
  rw [List.dropWhile_append_of_pos hrun]
  cases rest with
  | nil => rfl
  | cons a rest => simp [hrest a rfl]

end Runs

/-! ## Cutting -/

theorem splitOn_eq (separator : Char) (cs : List Char) :
    splitOn separator cs = cs.splitOn separator := by
  induction cs with
  | nil => rfl
  | cons c rest ih =>
      obtain ⟨part, more, hparts⟩ := List.exists_cons_of_ne_nil (List.splitOn_ne_nil separator rest)
      unfold splitOn
      rw [ih, @List.splitOn_eq_splitOnP _ _ separator (c :: rest), List.splitOnP_cons_eq_if_modifyHead,
        ← List.splitOn_eq_splitOnP, hparts]
      by_cases hc : c = separator
      · simp [hc]
      · simp [hc]

theorem splitOn_ne_nil (separator : Char) (cs : List Char) : splitOn separator cs ≠ [] := by
  rw [splitOn_eq]
  exact List.splitOn_ne_nil separator cs

/-- Texts without the separator are found again in the text that they make up. -/
theorem splitOn_intercalate {separator : Char} {parts : List String}
    (h : ∀ part ∈ parts, separator ∉ part.toList) (hne : parts ≠ []) :
    (splitOn separator ((String.singleton separator).intercalate parts).toList).map String.ofList
      = parts := by
  have hparts : ∀ part ∈ parts.map String.toList, separator ∉ part := List.forall_mem_map.mpr h
  rw [splitOn_eq, String.toList_intercalate, String.toList_singleton,
    List.splitOn_intercalate separator hparts (by simpa using hne), List.map_map]
  simp

theorem intercalate_splitOn (separator : Char) (text : String) :
    (String.singleton separator).intercalate ((splitOn separator text.toList).map String.ofList)
      = text := by
  apply String.toList_inj.mp
  rw [String.toList_intercalate, String.toList_singleton, List.map_map, splitOn_eq]
  simp

/-- The first part ends at the first separator. -/
theorem splitOn_append_cons {separator : Char} {front : List Char} (h : separator ∉ front)
    (rest : List Char) :
    splitOn separator (front ++ separator :: rest) = front :: splitOn separator rest := by
  have hfront : ∀ c ∈ front, (c == separator) = false := by
    intro c hc
    rw [beq_eq_false_iff_ne]
    exact fun heq => h (heq ▸ hc)
  rw [splitOn_eq, splitOn_eq]
  exact List.splitOnP_append_cons_of_forall_mem hfront separator (beq_self_eq_true _) rest

/-- No part has the separator in it. -/
theorem not_mem_of_mem_splitOn {separator : Char} {cs part : List Char}
    (h : part ∈ splitOn separator cs) : separator ∉ part := by
  induction cs generalizing part with
  | nil =>
      rw [List.mem_singleton.mp h]
      exact List.not_mem_nil
  | cons c rest ih =>
      obtain ⟨first, more, hparts⟩ := List.exists_cons_of_ne_nil (splitOn_ne_nil separator rest)
      unfold splitOn at h
      rw [hparts] at h ih
      dsimp only at h
      by_cases hc : c = separator
      · rw [if_pos hc] at h
        rcases List.mem_cons.mp h with rfl | h
        · exact List.not_mem_nil
        · exact ih h
      · rw [if_neg hc] at h
        rcases List.mem_cons.mp h with rfl | h
        · rw [List.mem_cons, not_or]
          exact ⟨Ne.symm hc, ih List.mem_cons_self⟩
        · exact ih (List.mem_cons_of_mem _ h)

/-! ## Trimming -/

variable {blanks before cs behind : List Char}

theorem dropBlanks_append (hbefore : ∀ c ∈ before, isBlank c = true) (cs : List Char) :
    dropBlanks (before ++ cs) = dropBlanks cs := List.dropWhile_append_of_pos hbefore

theorem dropBlanks_eq_nil : dropBlanks cs = [] ↔ ∀ c ∈ cs, isBlank c = true :=
  List.dropWhile_eq_nil_iff

theorem dropLastBlanks_append (hbehind : ∀ c ∈ behind, isBlank c = true) (cs : List Char) :
    dropLastBlanks (cs ++ behind) = dropLastBlanks cs := by
  unfold dropLastBlanks
  rw [List.reverse_append, dropBlanks_append fun c hc => hbehind c (List.mem_reverse.mp hc)]

theorem trim_blanks {s : String} (hbefore : ∀ c ∈ before, isBlank c = true)
    (hbehind : ∀ c ∈ behind, isBlank c = true) :
    trim (String.ofList (before ++ s.toList ++ behind)) = trim s := by
  unfold trim
  rw [String.toList_ofList, List.append_assoc, dropBlanks_append hbefore]
  congr 1
  by_cases hs : dropBlanks s.toList = []
  -- Nothing but blanks is left of the text, so those behind it go with it.
  · have hnone : dropBlanks (s.toList ++ behind) = [] := by
      rw [dropBlanks_append (dropBlanks_eq_nil.mp hs), dropBlanks_eq_nil]
      exact hbehind
    rw [hnone, hs]
  · have hkept : dropBlanks (s.toList ++ behind) = dropBlanks s.toList ++ behind := by
      unfold dropBlanks at hs ⊢
      rw [List.dropWhile_append, if_neg (by simpa using hs)]
    rw [hkept, dropLastBlanks_append hbehind]

theorem trim_eq_empty {s : String} (h : ∀ c ∈ s.toList, isBlank c = true) : trim s = "" := by
  unfold trim
  rw [dropBlanks_eq_nil.mpr h]
  rfl

theorem exists_dropLastBlanks (cs : List Char) : ∃ behind, (∀ c ∈ behind, isBlank c = true)
    ∧ cs = dropLastBlanks cs ++ behind := by
  refine ⟨(cs.reverse.takeWhile isBlank).reverse, ?_, ?_⟩
  · intro c hc
    exact List.mem_takeWhile_imp (List.mem_reverse.mp hc)
  · rw [dropLastBlanks, ← List.reverse_append, dropBlanks, List.takeWhile_append_dropWhile,
      List.reverse_reverse]

theorem exists_trim (s : String) : ∃ before behind, (∀ c ∈ before, isBlank c = true)
    ∧ (∀ c ∈ behind, isBlank c = true) ∧ s.toList = before ++ (trim s).toList ++ behind := by
  obtain ⟨behind, hblank, heq⟩ := exists_dropLastBlanks (dropBlanks s.toList)
  refine ⟨s.toList.takeWhile isBlank, behind, fun c hc => List.mem_takeWhile_imp hc, hblank, ?_⟩
  rw [trim, String.toList_ofList, List.append_assoc, ← heq, dropBlanks,
    List.takeWhile_append_dropWhile]

theorem trim_of_solid {s : String} (h : ∀ c ∈ s.toList, isBlank c = false) : trim s = s := by
  have hdrop (cs : List Char) (hcs : ∀ c ∈ cs, isBlank c = false) : dropBlanks cs = cs := by
    cases cs with
    | nil => rfl
    | cons c cs => exact List.dropWhile_cons_of_neg (by simp [hcs c List.mem_cons_self])
  unfold trim dropLastBlanks
  rw [hdrop _ h, hdrop _ fun c hc => h c (List.mem_reverse.mp hc), List.reverse_reverse,
    String.ofList_toList]

theorem trim_trim (s : String) : trim (trim s) = trim s := by
  obtain ⟨before, behind, hbefore, hbehind, heq⟩ := exists_trim s
  have htrim := trim_blanks (s := trim s) hbefore hbehind
  rw [← heq, String.ofList_toList] at htrim
  exact htrim.symm

end QueryReport.Text
