import Mathlib.Data.List.Basic

/-!
# `QueryReport.Proofs.Text.Dotted`: texts that are joined with dots

A text that was made of others with dots between them is cut into pieces again.  A dot inside of
quotes belongs to a piece; any other one separates, also one that was inside of a text that was
joined.

* `pieces_intercalate`: joined texts are cut into the pieces of each of them, if each closes the
  quotes that it opens.
* `intercalate_pieces`, `intercalate_flatMap_pieces`: joining what was cut gives the text back.
-/

set_option autoImplicit false

namespace QueryReport.Text

/-- The quote that is open behind a character, if one is. -/
def quoteAfter : Option Char → Char → Option Char
  | none, c => if c = '\'' ∨ c = '"' then some c else none
  | some quote, c => if c = quote then none else some quote

/-- The texts with a character in front of the first. -/
def addFirst (c : Char) : List (List Char) → List (List Char)
  | [] => [[c]]
  | first :: rest => (c :: first) :: rest

/-- What stands between the dots outside of quotes, where a quote may be open already. -/
def cutAtDots : Option Char → List Char → List (List Char)
  | _, [] => [[]]
  | quote, c :: cs =>
    if quote = none ∧ c = '.' then [] :: cutAtDots none cs
    else addFirst c (cutAtDots (quoteAfter quote c) cs)

/-- What stands in a text between the dots outside of quotes. -/
def pieces (s : String) : List String := (cutAtDots none s.toList).map String.ofList

/-- Each quote that the text opens is closed again. -/
def Sealed (s : String) : Prop := s.toList.foldl quoteAfter none = none

instance (s : String) : Decidable (Sealed s) := inferInstanceAs (Decidable (_ = _))

variable {c : Char} {quote : Option Char}

/-! ## Characters -/

theorem addFirst_ne_nil (texts : List (List Char)) : addFirst c texts ≠ [] := by
  cases texts <;> simp [addFirst]

theorem addFirst_append {first rest : List (List Char)} (h : first ≠ []) :
    addFirst c (first ++ rest) = addFirst c first ++ rest := by
  cases first with
  | nil => exact absurd rfl h
  | cons text first => rfl

theorem cutAtDots_ne_nil (cs : List Char) : cutAtDots quote cs ≠ [] := by
  cases cs with
  | nil => simp [cutAtDots]
  | cons c cs =>
      unfold cutAtDots
      split
      · simp
      · exact addFirst_ne_nil _

/-- A dot behind a text that closes its quotes is a place to cut. -/
theorem cutAtDots_append {xs : List Char} (ys : List Char)
    (h : xs.foldl quoteAfter quote = none) :
    cutAtDots quote (xs ++ '.' :: ys) = cutAtDots quote xs ++ cutAtDots none ys := by
  induction xs generalizing quote with
  | nil =>
      have hquote : quote = none := h
      simp [cutAtDots, hquote]
  | cons c xs ih =>
      rw [List.cons_append, cutAtDots, cutAtDots]
      by_cases hdot : quote = none ∧ c = '.'
      · obtain ⟨rfl, rfl⟩ := hdot
        have hrest : xs.foldl quoteAfter none = none := h
        rw [if_pos ⟨rfl, rfl⟩, if_pos ⟨rfl, rfl⟩, ih hrest, List.cons_append]
      · rw [if_neg hdot, if_neg hdot, ih h, addFirst_append (cutAtDots_ne_nil xs)]

theorem cutAtDots_plain {cs : List Char} (h : ∀ c ∈ cs, c ≠ '.' ∧ c ≠ '\'' ∧ c ≠ '"') :
    cutAtDots none cs = [cs] := by
  induction cs with
  | nil => rfl
  | cons c cs ih =>
      rw [List.forall_mem_cons] at h
      obtain ⟨⟨hdot, hsingle, hdouble⟩, hrest⟩ := h
      have hquote : quoteAfter none c = none := by simp [quoteAfter, hsingle, hdouble]
      simp [cutAtDots, hdot, hquote, ih hrest, addFirst]

theorem intercalate_addFirst {texts : List (List Char)} (h : texts ≠ []) :
    ['.'].intercalate (addFirst c texts) = c :: ['.'].intercalate texts := by
  match texts, h with
  | [text], _ => simp [addFirst]
  | first :: second :: rest, _ => simp [addFirst]

theorem intercalate_cutAtDots (cs : List Char) : ['.'].intercalate (cutAtDots quote cs) = cs := by
  induction cs generalizing quote with
  | nil => simp [cutAtDots]
  | cons c cs ih =>
      rw [cutAtDots]
      by_cases hdot : quote = none ∧ c = '.'
      · rw [if_pos hdot, List.intercalate_cons_of_ne_nil (cutAtDots_ne_nil cs), ih, hdot.2]
        rfl
      · rw [if_neg hdot, intercalate_addFirst (cutAtDots_ne_nil cs), ih]

/-! ## Texts -/

theorem pieces_ne_nil (s : String) : pieces s ≠ [] := by
  unfold pieces
  rw [Ne, List.map_eq_nil_iff]
  exact cutAtDots_ne_nil s.toList

/-- A text without dots and quotes is a single piece. -/
theorem pieces_plain {s : String} (h : ∀ c ∈ s.toList, c ≠ '.' ∧ c ≠ '\'' ∧ c ≠ '"') :
    pieces s = [s] := by
  rw [pieces, cutAtDots_plain h, List.map_singleton, String.ofList_toList]

theorem intercalate_pieces (s : String) : ".".intercalate (pieces s) = s := by
  apply String.toList_injective
  have hmap : (pieces s).map String.toList = cutAtDots none s.toList := by
    simp [pieces, Function.comp_def]
  rw [String.toList_intercalate, hmap]
  exact intercalate_cutAtDots s.toList

/-- Two texts with a dot between them are cut at that dot. -/
theorem pieces_append {s : String} (h : Sealed s) (t : String) :
    pieces (s ++ "." ++ t) = pieces s ++ pieces t := by
  unfold pieces
  have htext : (s ++ "." ++ t).toList = s.toList ++ '.' :: t.toList := by simp
  rw [htext, cutAtDots_append t.toList h, List.map_append]

theorem pieces_intercalate {texts : List String} (hne : texts ≠ []) (h : ∀ s ∈ texts, Sealed s) :
    pieces (".".intercalate texts) = texts.flatMap pieces := by
  induction texts with
  | nil => exact absurd rfl hne
  | cons s texts ih =>
      rw [List.forall_mem_cons] at h
      cases texts with
      | nil => simp
      | cons t texts =>
          rw [String.intercalate_cons_cons, pieces_append h.1, ih (by simp) h.2]
          rfl

theorem intercalate_flatMap_pieces (texts : List String) :
    ".".intercalate (texts.flatMap pieces) = ".".intercalate texts := by
  induction texts with
  | nil => rfl
  | cons s texts ih =>
      cases texts with
      | nil => simp [intercalate_pieces]
      | cons t texts =>
          have hrest : (t :: texts).flatMap pieces ≠ [] := by
            simp [pieces_ne_nil]
          rw [List.flatMap_cons, String.intercalate_append_of_ne_nil (pieces_ne_nil s) hrest,
            intercalate_pieces, ih, String.intercalate_cons_cons]

end QueryReport.Text
