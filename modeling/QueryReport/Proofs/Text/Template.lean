import Mathlib.Data.List.Basic

/-!
# `QueryReport.Proofs.Text.Template`: which values a text shows

A text that is put together out of values is a template: characters that are the same for all
values, and places where a value is written.  `Shows` says at which places the values stand, in the
order of the text.

* `Shows.append`, `Shows.intercalate`: a text shows what its parts show, one after the other.
* `Shows.unique`: there is one such order, as soon as there are two values that are written with
  different first characters.  Without such values nothing tells what is written for a value from
  what always stands there.
-/

set_option autoImplicit false

namespace QueryReport.Text

/-- A character of a template, or a place for a value. -/
inductive Piece where
  | mark (c : Char)
  | place (i : Nat)

/-- A template with texts at its places. -/
def fill (texts : Nat → String) : List Piece → List Char
  | [] => []
  | .mark c :: template => c :: fill texts template
  | .place i :: template => (texts i).toList ++ fill texts template

/-- The places of a template. -/
def places : List Piece → List Nat
  | [] => []
  | .mark _ :: template => places template
  | .place i :: template => i :: places template

theorem fill_append (texts : Nat → String) (t t' : List Piece) :
    fill texts (t ++ t') = fill texts t ++ fill texts t' := by
  induction t with
  | nil => rfl
  | cons piece t ih => cases piece <;> simp [fill, ih]

theorem places_append (t t' : List Piece) : places (t ++ t') = places t ++ places t' := by
  induction t with
  | nil => rfl
  | cons piece t ih => cases piece <;> simp [places, ih]

theorem fill_marks (texts : Nat → String) (cs : List Char) : fill texts (cs.map .mark) = cs := by
  induction cs with
  | nil => rfl
  | cons c cs ih => simp [fill, ih]

theorem places_marks (cs : List Char) : places (cs.map .mark) = [] := by
  induction cs with
  | nil => rfl
  | cons c cs ih => simpa [places] using ih

section Shows

variable {α : Type} {write : α → String}

/-- A text that depends on values shows the values at some places: it is a template in which they
stand as they are written. -/
def Shows (write : α → String) (text : (Nat → α) → String) (shown : List Nat) : Prop :=
  ∃ template, places template = shown
    ∧ ∀ value, (text value).toList = fill (fun i => write (value i)) template

variable {text text' : (Nat → α) → String} {shown shown' : List Nat}

theorem Shows.congr (h : Shows write text shown) (heq : ∀ value, text' value = text value) :
    Shows write text' shown := by
  rwa [show text' = text from funext heq]

theorem Shows.const (s : String) : Shows write (fun _ => s) [] :=
  ⟨s.toList.map .mark, places_marks _, fun _ => (fill_marks _ _).symm⟩

theorem Shows.value (i : Nat) : Shows write (fun value => write (value i)) [i] := by
  refine ⟨[.place i], rfl, fun value => ?_⟩
  simp [fill]

theorem Shows.append (h : Shows write text shown) (h' : Shows write text' shown') :
    Shows write (fun value => text value ++ text' value) (shown ++ shown') := by
  obtain ⟨t, rfl, ht⟩ := h
  obtain ⟨t', rfl, ht'⟩ := h'
  refine ⟨t ++ t', places_append t t', fun value => ?_⟩
  rw [String.toList_append, ht, ht', fill_append]

theorem Shows.before (s : String) (h : Shows write text shown) :
    Shows write (fun value => s ++ text value) shown :=
  (Shows.const s).append h

theorem Shows.after (s : String) (h : Shows write text shown) :
    Shows write (fun value => text value ++ s) shown := by
  have happended := h.append (Shows.const s)
  rwa [List.append_nil] at happended

/-- Values with the same text before each and a text between them. -/
theorem Shows.intercalate (lead between : String) (is : List Nat) :
    Shows write (fun value => between.intercalate (is.map fun i => lead ++ write (value i))) is := by
  induction is with
  | nil => exact (Shows.const "").congr fun _ => by simp
  | cons i is ih =>
      cases is with
      | nil => exact ((Shows.value i).before lead).congr fun _ => by simp
      | cons j is =>
          have hrest := ((Shows.value i).before lead).append (ih.before between)
          refine hrest.congr fun value => ?_
          rw [List.map_cons, List.map_cons, String.intercalate_cons_cons, String.append_assoc]

theorem head?_fill_place {texts : Nat → String} {i : Nat} {c : Char}
    (h : (texts i).toList.head? = some c) (t : List Piece) :
    (fill texts (.place i :: t)).head? = some c := by
  rw [fill, List.head?_append, h]
  rfl

/-- Templates whose texts begin with the same character, whatever values are written, begin with the
same piece. -/
theorem head?_eq_of_fill {u v : α} {a b : Char} (hu : (write u).toList.head? = some a)
    (hv : (write v).toList.head? = some b) (hab : a ≠ b) {t t' : List Piece}
    (h : ∀ value : Nat → α, (fill (fun i => write (value i)) t).head?
      = (fill (fun i => write (value i)) t').head?) : t.head? = t'.head? := by
  have hfirst := h fun _ => u
  have hsecond := h fun _ => v
  -- A character stays as it is when the value changes, and what is written at a place does not.
  match t, t' with
  | [], [] => rfl
  | [], .mark c :: _ => cases hfirst
  | .mark c :: _, [] => cases hfirst
  | [], .place i :: t' =>
    rw [head?_fill_place hu] at hfirst
    cases hfirst
  | .place i :: t, [] =>
    rw [head?_fill_place hu] at hfirst
    cases hfirst
  | .mark c :: t, .mark d :: t' =>
    cases hfirst
    rfl
  | .mark c :: t, .place i :: t' =>
    rw [head?_fill_place hu] at hfirst
    rw [head?_fill_place hv] at hsecond
    exact absurd (Option.some.inj (hfirst.symm.trans hsecond)) hab
  | .place i :: t, .mark c :: t' =>
    rw [head?_fill_place hu] at hfirst
    rw [head?_fill_place hv] at hsecond
    exact absurd (Option.some.inj (hfirst.trans hsecond.symm)) hab
  | .place i :: t, .place j :: t' =>
    by_cases hij : j = i
    · rw [hij]
      rfl
    · have hthird := h fun k => if k = i then u else v
      rw [head?_fill_place (c := a) (by simpa using hu),
        head?_fill_place (c := b) (by simpa [hij] using hv)] at hthird
      exact absurd (Option.some.inj hthird) hab

/-- Templates that come out the same, whatever values are written, are the same. -/
theorem eq_of_fill_eq {u v : α} {a b : Char} (hu : (write u).toList.head? = some a)
    (hv : (write v).toList.head? = some b) (hab : a ≠ b) {t t' : List Piece}
    (h : ∀ value : Nat → α, fill (fun i => write (value i)) t
      = fill (fun i => write (value i)) t') : t = t' := by
  induction t generalizing t' with
  | nil =>
      have hhead := head?_eq_of_fill hu hv hab fun value => congrArg List.head? (h value)
      exact (List.head?_eq_none_iff.mp hhead.symm).symm
  | cons piece t ih =>
      have hhead := head?_eq_of_fill hu hv hab fun value => congrArg List.head? (h value)
      obtain ⟨t'', rfl⟩ := List.head?_eq_some_iff.mp hhead.symm
      -- The same piece begins both texts, so what is left of them is the same.
      refine congrArg (piece :: ·) (ih fun value => ?_)
      have htexts := h value
      cases piece with
      | mark c => exact (List.cons.inj htexts).2
      | place i => exact List.append_cancel_left htexts

/-- The values that a text shows are determined by the text. -/
theorem Shows.unique {u v : α} {a b : Char} (hu : (write u).toList.head? = some a)
    (hv : (write v).toList.head? = some b) (hab : a ≠ b) (h : Shows write text shown)
    (h' : Shows write text shown') : shown = shown' := by
  obtain ⟨t, rfl, ht⟩ := h
  obtain ⟨t', rfl, ht'⟩ := h'
  rw [eq_of_fill_eq hu hv hab fun value => (ht value).symm.trans (ht' value)]

end Shows

end QueryReport.Text
