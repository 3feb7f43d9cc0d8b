import Mathlib.Data.List.Forall2
import QueryReport.Proofs.Filter.Definition
import QueryReport.Proofs.Text.Split

/-!
# `QueryReport.Proofs.Filter.Options`: the options that a list source gives

What a list source resolves to has one of four forms, and `Resolved.Gives` says for each of them
which options it stands for; `gives_iff` is that the options are these and no others.  A text with
commas is the form that needs an argument: `Spread` are the ways in which items are laid out between
commas, and `commaParts_spread` and `exists_spread` say that the items are found again, in every
text.

`Definition.options_of_source` says what building the options of a definition comes to.
-/

set_option autoImplicit false

namespace QueryReport.Filter

open QueryReport.Text

/-! ## Items between commas -/

/-- What can stand between two commas as itself. -/
structure IsItem (item : String) : Prop where
  nonempty : item ≠ ""
  trimmed : trim item = item
  comma_free : ',' ∉ item.toList

/-- The pieces of a text between commas hold the items in order: a piece is an item with blanks
around it, or blanks alone. -/
inductive Spread : List String → List String → Prop where
  | nil : Spread [] []
  | blank {items pieces : List String} {piece : String}
      (hpiece : ∀ c ∈ piece.toList, isBlank c = true) (h : Spread items pieces) :
      Spread items (piece :: pieces)
  | item {items pieces : List String} {item : String} {before behind : List Char}
      (hitem : IsItem item) (hbefore : ∀ c ∈ before, isBlank c = true)
      (hbehind : ∀ c ∈ behind, isBlank c = true) (h : Spread items pieces) :
      Spread (item :: items) (String.ofList (before ++ item.toList ++ behind) :: pieces)

variable {items pieces : List String}

theorem isBlank_comma_free {cs : List Char} (h : ∀ c ∈ cs, isBlank c = true) : ',' ∉ cs := by
  intro hcomma
  have hblank := h ',' hcomma
  revert hblank
  decide

theorem Spread.comma_free (h : Spread items pieces) : ∀ piece ∈ pieces, ',' ∉ piece.toList := by
  induction h with
  | nil => exact fun piece hpiece => nomatch hpiece
  | blank hblank _ ih => exact List.forall_mem_cons.mpr ⟨isBlank_comma_free hblank, ih⟩
  | item hitem hbefore hbehind _ ih =>
      refine List.forall_mem_cons.mpr ⟨?_, ih⟩
      rw [String.toList_ofList, List.mem_append, List.mem_append, not_or, not_or]
      exact ⟨⟨isBlank_comma_free hbefore, hitem.comma_free⟩, isBlank_comma_free hbehind⟩

/-- The items come out of the pieces by trimming them and leaving out what is empty then. -/
theorem Spread.filter_trim (h : Spread items pieces) :
    (pieces.map trim).filter (· ≠ "") = items := by
  induction h with
  | nil => rfl
  | blank hblank _ ih =>
      rw [List.map_cons, trim_eq_empty hblank, List.filter_cons_of_neg (by simp), ih]
  | item hitem hbefore hbehind _ ih =>
      rw [List.map_cons, trim_blanks hbefore hbehind, hitem.trimmed,
        List.filter_cons_of_pos (by simpa using hitem.nonempty), ih]

theorem commaParts_eq (text : String) :
    commaParts text = (((splitOn ',' text.toList).map String.ofList).map trim).filter (· ≠ "") := by
  unfold commaParts
  rw [List.map_map]
  rfl

/-- Items that are laid out between commas are found again, whatever blanks and empty places there
are. -/
theorem commaParts_spread (h : Spread items pieces) :
    commaParts (",".intercalate pieces) = items := by
  rw [commaParts_eq]
  by_cases hnone : pieces = []
  · subst hnone
    cases h
    decide
  · show (((splitOn ',' ((String.singleton ',').intercalate pieces).toList).map
      String.ofList).map trim).filter (· ≠ "") = items
    rw [splitOn_intercalate h.comma_free hnone]
    exact h.filter_trim

/-- A text without a comma is a blank or an item with blanks around it. -/
theorem Spread.cons_of_trim {piece : String} (hcomma : ',' ∉ piece.toList)
    (h : Spread items pieces) :
    Spread (([piece].map trim).filter (· ≠ "") ++ items) (piece :: pieces) := by
  obtain ⟨before, behind, hbefore, hbehind, hpiece⟩ := exists_trim piece
  by_cases hempty : trim piece = ""
  · have hblank : ∀ c ∈ piece.toList, isBlank c = true := by
      rw [hpiece, hempty]
      simpa [or_imp, forall_and] using ⟨hbefore, hbehind⟩
    rw [List.map_singleton, hempty]
    exact .blank hblank h
  · have hitem : IsItem (trim piece) :=
      ⟨hempty, trim_trim piece, fun hmem => hcomma (by rw [hpiece]; simp [hmem])⟩
    have hlaid := Spread.item hitem hbefore hbehind h
    rw [← hpiece, String.ofList_toList] at hlaid
    rw [List.map_singleton, List.filter_cons_of_pos (by simpa using hempty)]
    exact hlaid

/-- Every text is a layout of its items. -/
theorem exists_spread (text : String) :
    ∃ pieces, text = ",".intercalate pieces ∧ Spread (commaParts text) pieces := by
  have hspread (pieces : List String) (hcomma : ∀ piece ∈ pieces, ',' ∉ piece.toList) :
      Spread ((pieces.map trim).filter (· ≠ "")) pieces := by
    induction pieces with
    | nil => exact .nil
    | cons piece pieces ih =>
        rw [List.forall_mem_cons] at hcomma
        have hcons := (ih hcomma.2).cons_of_trim hcomma.1
        rw [← List.filter_append, ← List.map_append] at hcons
        exact hcons
  refine ⟨(splitOn ',' text.toList).map String.ofList, (intercalate_splitOn ',' text).symm, ?_⟩
  rw [commaParts_eq]
  refine hspread _ (List.forall_mem_map.mpr fun part hpart => ?_)
  rw [String.toList_ofList]
  exact not_mem_of_mem_splitOn hpart

/-! ## The four forms -/

/-- The value of a row's option is the last cell, and its label the text of the first. -/
structure ListOption.OfRow (row : List Value) (o : ListOption) : Prop where
  value : row.getLast? = some o.value
  label : ∃ first, row.head? = some first ∧ o.label = first.display

/-- The options that are spelled out by what a source resolved to: one for each row that is not
empty, for each value, for each pair and for each item between commas, in this order. -/
inductive Resolved.Gives : Resolved → List ListOption → Prop where
  | rows {rs : List (List Value)} {options : List ListOption}
      (h : List.Forall₂ ListOption.OfRow (rs.filter (· ≠ [])) options) : Gives (.rows rs) options
  | scalars {vs : List Value} {options : List ListOption}
      (h : List.Forall₂ (fun v o => ⟨v.display, v⟩ = o) vs options) : Gives (.scalars vs) options
  | pairs {ps : List (String × Value)} {options : List ListOption}
      (h : List.Forall₂ (fun p o => ⟨p.1, p.2⟩ = o) ps options) : Gives (.pairs ps) options
  | delimited {items pieces : List String} {options : List ListOption} (hitems : Spread items pieces)
      (h : List.Forall₂ (fun item o => ⟨item, .text item⟩ = o) items options) :
      Gives (.delimited (",".intercalate pieces)) options

theorem ListOption.ofRow_iff {row : List Value} {o : ListOption} :
    o.OfRow row ↔ ListOption.ofRow? row = some o := by
  unfold ListOption.ofRow?
  constructor
  · rintro ⟨hvalue, first, hfirst, hlabel⟩
    rw [hfirst, hvalue]
    dsimp only
    rw [← hlabel]
  · intro h
    cases hfirst : row.head? with
    | none =>
        rw [hfirst] at h
        cases h
    | some first =>
        cases hlast : row.getLast? with
        | none =>
            rw [hfirst, hlast] at h
            cases h
        | some last =>
            rw [hfirst, hlast] at h
            dsimp only at h
            rw [← Option.some.inj h]
            exact ⟨hlast, first, hfirst, rfl⟩

/-- A row without cells has no option, and any other has one. -/
theorem forall₂_ofRow {rs : List (List Value)} {options : List ListOption} :
    List.Forall₂ ListOption.OfRow (rs.filter (· ≠ [])) options
      ↔ rs.filterMap ListOption.ofRow? = options := by
  induction rs generalizing options with
  | nil => exact List.forall₂_nil_left_iff.trans eq_comm
  | cons row rs ih =>
      by_cases hrow : row = []
      · subst hrow
        rw [List.filter_cons_of_neg (by simp), ih, List.filterMap_cons_none rfl]
      · obtain ⟨first, cells, rfl⟩ := List.exists_cons_of_ne_nil hrow
        obtain ⟨o, ho⟩ : ∃ o, ListOption.ofRow? (first :: cells) = some o := ⟨_, rfl⟩
        rw [List.filter_cons_of_pos (by simp), List.filterMap_cons_some ho, List.forall₂_cons_left_iff]
        constructor
        · rintro ⟨o', options, ho', hrest, rfl⟩
          rw [ListOption.ofRow_iff, ho] at ho'
          rw [Option.some.inj ho', ih.mp hrest]
        · rintro rfl
          exact ⟨o, _, ListOption.ofRow_iff.mpr ho, ih.mpr rfl, rfl⟩

theorem forall₂_eq_map {α β : Type} {f : α → β} {as : List α} {bs : List β} :
    List.Forall₂ (fun a b => f a = b) as bs ↔ as.map f = bs := by
  rw [← List.forall₂_map_left_iff, List.forall₂_eq_eq_eq]

theorem Resolved.gives_iff {resolved : Resolved} {options : List ListOption} :
    resolved.Gives options ↔ resolved.options = options := by
  constructor
  · intro h
    cases h with
    | rows h => exact forall₂_ofRow.mp h
    | scalars h => exact forall₂_eq_map.mp h
    | pairs h => exact forall₂_eq_map.mp h
    | delimited hitems h =>
        show (commaParts _).map (fun item => ListOption.same (.text item)) = options
        rw [commaParts_spread hitems]
        exact forall₂_eq_map.mp h
  · rintro rfl
    cases resolved with
    | rows rs => exact .rows (forall₂_ofRow.mpr rfl)
    | scalars vs => exact .scalars (forall₂_eq_map.mpr rfl)
    | pairs ps => exact .pairs (forall₂_eq_map.mpr rfl)
    | delimited text =>
        -- Every text is some pieces with commas between them.
        obtain ⟨pieces, htext, hspread⟩ := exists_spread text
        have hgives := Gives.delimited hspread (forall₂_eq_map.mpr rfl)
        rw [← htext] at hgives
        exact hgives

/-! ## Building options -/

namespace Definition

variable {d next : Definition} {source : ListSource}

/-- What a source spells out is what a resolver finds that hands it back. -/
theorem literalOptions_eq {resolved : Resolved} (hsource : d.source = some source)
    (hliteral : source.literal? = some resolved) :
    d.literalOptions = d.resolvedOptions fun _ => .ok resolved := by
  unfold literalOptions resolvedOptions
  rw [hsource]
  dsimp only
  rw [hliteral]
  rfl

theorem resolvedOptions_of_gives {resolve : ListSource → Except Error Resolved}
    {resolved : Resolved} {options : List ListOption} (hsource : d.source = some source)
    (hresolved : resolve source = .ok resolved) (hgives : resolved.Gives options) :
    d.resolvedOptions resolve = .ok options := by
  unfold resolvedOptions
  rw [hsource, ← Resolved.gives_iff.mp hgives]
  dsimp only
  rw [hresolved]
  rfl

/-- Building does not look at options that were built before. -/
theorem build_again (h : d.build = .ok next) : next.build = .ok next := by
  obtain ⟨options, hoptions, rfl⟩ := build_eq_ok.mp h
  exact build_eq_ok.mpr ⟨options, hoptions, rfl⟩

theorem buildWith_again {resolve : ListSource → Except Error Resolved}
    (h : d.buildWith resolve = .ok next) : next.buildWith resolve = .ok next := by
  obtain ⟨options, hoptions, rfl⟩ := buildWith_eq_ok.mp h
  exact buildWith_eq_ok.mpr ⟨options, hoptions, rfl⟩

/-- Building the options of a definition with a list source:

- a source that spells them out is as good as a resolver that hands the same back;
- there is one list of options that a result stands for, and a resolver with this result leads to
  it;
- building once more changes nothing. -/
theorem options_of_source (hsource : d.source = some source) :
    (∀ vs, source = .values vs →
      Edit.build.outcome d = (Edit.buildWith fun _ => .ok (.scalars vs)).outcome d)
    ∧ (∀ ps, source = .mapping ps →
      Edit.build.outcome d = (Edit.buildWith fun _ => .ok (.pairs ps)).outcome d)
    ∧ (∀ resolve resolved, resolve source = .ok resolved →
      ∃ options, (∀ given, resolved.Gives given ↔ given = options)
        ∧ d.buildWith resolve = .ok { d with options })
    ∧ (∀ next, d.build = .ok next → next.build = .ok next)
    ∧ ∀ resolve next, d.buildWith resolve = .ok next → next.buildWith resolve = .ok next := by
  refine ⟨?_, ?_, ?_, fun _ => build_again, fun _ _ => buildWith_again⟩
  · rintro vs rfl
    rw [Edit.outcome_build, Edit.outcome_buildWith, literalOptions_eq hsource rfl]
  · rintro ps rfl
    rw [Edit.outcome_build, Edit.outcome_buildWith, literalOptions_eq hsource rfl]
  · intro resolve resolved hresolved
    refine ⟨resolved.options, fun given => Resolved.gives_iff.trans eq_comm, ?_⟩
    have hoptions := resolvedOptions_of_gives hsource hresolved (Resolved.gives_iff.mpr rfl)
    exact buildWith_eq_ok.mpr ⟨_, hoptions, rfl⟩

/-- A resolver that finds a text with blanks and an empty place. -/
theorem options_of_colors : ∃ next,
    ({ new "color" with source := some (.query "SELECT name FROM colors") } : Definition).buildWith
        (fun _ => .ok (.delimited " red ,, dark blue,")) = .ok next
      ∧ next.options = [⟨"red", .text "red"⟩, ⟨"dark blue", .text "dark blue"⟩]
      ∧ next.buildWith (fun _ => .ok (.delimited " red ,, dark blue,")) = .ok next := by
  obtain ⟨-, -, hresolved, -, htwice⟩ := options_of_source
    (d := { new "color" with source := some (.query "SELECT name FROM colors") }) rfl
  obtain ⟨options, hgives, hbuilt⟩ := hresolved
    (fun _ => .ok (.delimited " red ,, dark blue,")) (.delimited " red ,, dark blue,") rfl
  refine ⟨_, hbuilt, ?_, htwice _ _ hbuilt⟩
  rw [← (hgives _).mp (Resolved.gives_iff.mpr rfl)]
  decide +kernel

end Definition

end QueryReport.Filter
