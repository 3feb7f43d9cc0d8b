import QueryReport.Command.Render
import QueryReport.Proofs.Filter.Options
import QueryReport.Proofs.Filter.Rendering
import QueryReport.Proofs.Sql.Lexing.Blank

/-!
# `QueryReport.Proofs.Command.Parameter`: filters as a command takes them

A filter is given to a command as one text, `column:operator:values`.  `Written` are the texts for a
column, an operator and values, and `readParam_written` says that they are taken apart into these,
wherever there are colons, blanks and commas.

* `readParam_undefined`: for a column without a definition the parameter is that of the condition on
  the column, if there is one.
* `readParam_defined`: for a column with a definition the condition is made twice, as texts and as
  the type of the definition.  So the texts of two bounds decide as well, and bounds that are in
  order as numbers may be refused (`integer_bounds_refused`).
-/

set_option autoImplicit false

namespace QueryReport.Filter

open Text

/-! ## Operators in any case -/

/-- A character that is its own lower case is left where it is. -/
theorem mem_lower {s : String} {c : Char} (hfixed : lowerChar c = [c]) (hsigma : c ≠ 'Σ')
    (hc : c ∈ s.toList) : c ∈ (lower s).toList := by
  have hafter (cs : List Char) (before : List Char) (hc : c ∈ cs) : c ∈ lowerAfter before cs := by
    induction cs generalizing before with
    | nil => cases hc
    | cons d cs ih =>
        unfold lowerAfter
        rcases List.mem_cons.mp hc with rfl | hc
        · rw [if_neg hsigma, hfixed]
          exact List.mem_cons_self
        · exact List.mem_append_right _ (ih (d :: before) hc)
  unfold lower
  rw [String.toList_ofList]
  exact hafter s.toList [] hc

theorem lowerChar_of_isBlank {c : Char} (h : isBlank c = true) : lowerChar c = [c] ∧ c ≠ 'Σ' := by
  have hall : (([' ', '\t', '\n', '\r'] ++ Sql.otherBlanks).all fun c =>
      decide (lowerChar c = [c] ∧ c ≠ 'Σ')) = true := by decide +kernel
  exact of_decide_eq_true
    (List.all_eq_true.mp hall c (List.mem_append.mpr (Sql.mem_of_isBlank h)))

variable {token : String} {op : Operator}

/-- The words of the vocabulary have no blank and no colon. -/
theorem Operator.token_solid (op : Operator) :
    ':' ∉ op.token.toList ∧ ∀ c ∈ op.token.toList, isBlank c = false := by
  have hall : (op.token.toList.all fun c => decide (c ≠ ':' ∧ isBlank c = false)) = true := by
    cases op <;> decide +kernel
  have hsolid : ∀ c ∈ op.token.toList, c ≠ ':' ∧ isBlank c = false := fun c hc =>
    of_decide_eq_true (List.all_eq_true.mp hall c hc)
  exact ⟨fun hcolon => (hsolid ':' hcolon).1 rfl, fun c hc => (hsolid c hc).2⟩

theorem Operator.colon_free (h : lower token = op.token) : ':' ∉ token.toList := by
  intro hcolon
  refine op.token_solid.1 ?_
  rw [← h]
  exact mem_lower (by decide) (by decide) hcolon

/-- An operator is found by its word in any case. -/
theorem Operator.ofToken?_of_lower (h : lower token = op.token) :
    Operator.ofToken? token = some op := by
  have hsolid : ∀ c ∈ token.toList, isBlank c = false := by
    intro c hc
    by_contra hblank
    rw [Bool.not_eq_false] at hblank
    obtain ⟨hfixed, hsigma⟩ := lowerChar_of_isBlank hblank
    have hmem := mem_lower hfixed hsigma hc
    rw [h] at hmem
    rw [op.token_solid.2 c hmem] at hblank
    cases hblank
  unfold Operator.ofToken?
  rw [trim_of_solid hsolid, h]
  cases op <;> decide +kernel

/-! ## What a condition keeps -/

variable {values : List Value} {dataType : DataType} {c : Condition}

theorem Condition.make_eq_ok : Condition.make token values dataType = .ok c ↔
    ∃ op, Operator.ofToken? token = some op ∧ c = ⟨op, values, dataType⟩ ∧ c.check = .ok () := by
  unfold Condition.make
  cases hop : Operator.ofToken? token with
  | none => exact ⟨nofun, fun ⟨_, h, _⟩ => nomatch h⟩
  | some op =>
      dsimp only
      rw [Condition.checked_eq_ok]
      constructor
      · rintro ⟨hcheck, rfl⟩
        exact ⟨op, rfl, rfl, hcheck⟩
      · rintro ⟨_, ⟨⟩, rfl, hcheck⟩
        exact ⟨hcheck, rfl⟩

/-- The operator takes bounds, and the first two texts are in the wrong order as texts. -/
def TextsReversed (op : Operator) (items : List String) : Prop :=
  op = .between ∧ ∃ low high rest, items = low :: high :: rest ∧ Value.compareText low high = .gt

/-- What values are compared as matters to nothing but their types and the order of bounds. -/
theorem Condition.checkValues_type (hop : op ≠ .between) (dataType other : DataType) :
    (⟨op, values, dataType⟩ : Condition).checkValues
      = (⟨op, values, other⟩ : Condition).checkValues := by
  cases op with
  | between => exact absurd rfl hop
  | _ => rfl

theorem Condition.check_string (hop : op.isNullTest = false) :
    (⟨op, values, .string⟩ : Condition).check
      = (⟨op, values, .string⟩ : Condition).checkValues := by
  unfold Condition.check
  rw [if_neg (by simp [hop])]
  cases (⟨op, values, .string⟩ : Condition).checkValues <;> rfl

theorem Condition.checkValues_of_check (hop : op.isNullTest = false)
    (h : (⟨op, values, dataType⟩ : Condition).check = .ok ()) :
    (⟨op, values, dataType⟩ : Condition).checkValues = .ok () := by
  unfold Condition.check at h
  rw [if_neg (by simp [hop])] at h
  obtain ⟨⟨⟩, hvalues, -⟩ := bind_eq_ok.mp h
  exact hvalues

theorem Condition.checkBounds_eq_ok {low high : Value} {rest : List Value} :
    (⟨op, low :: high :: rest, dataType⟩ : Condition).checkBounds = .ok () ↔
      ¬ (low.isBlank || high.isBlank) = true ∧ low.compareAs? dataType high ≠ some .gt := by
  unfold checkBounds
  dsimp only
  by_cases hblank : (low.isBlank || high.isBlank) = true
  · rw [if_pos hblank]
    exact ⟨nofun, fun h => absurd hblank h.1⟩
  · rw [if_neg hblank]
    by_cases hgt : low.compareAs? dataType high = some .gt
    · rw [if_pos hgt]
      exact ⟨nofun, fun h => absurd hgt h.2⟩
    · rw [if_neg hgt]
      exact iff_of_true rfl ⟨hblank, hgt⟩

/-- Texts that pass the checks as some type pass them as strings, unless they are bounds in the
wrong order. -/
theorem Condition.check_string_iff {items : List String}
    (h : (⟨op, items.map Value.text, dataType⟩ : Condition).check = .ok ()) :
    (⟨op, items.map Value.text, .string⟩ : Condition).check = .ok () ↔ ¬ TextsReversed op items := by
  -- Only bounds are compared with each other, in the order of their type.
  by_cases hbetween : op = .between
  · subst hbetween
    have hvalues := checkValues_of_check rfl h
    rw [check_string rfl]
    match items, hvalues with
    | [], hvalues => cases hvalues
    | [_], hvalues => cases hvalues
    | low :: high :: rest, hvalues =>
        have hsolid := (checkBounds_eq_ok.mp hvalues).1
        have horder : (Value.text low).compareAs? .string (.text high)
            = some (Value.compareText low high) := rfl
        refine checkBounds_eq_ok.trans ?_
        rw [and_iff_right hsolid, horder, Ne, Option.some.injEq]
        refine not_congr ⟨fun hgt => ⟨rfl, low, high, rest, rfl, hgt⟩, ?_⟩
        rintro ⟨-, _, _, _, ⟨⟩, hgt⟩
        exact hgt
  · refine iff_of_true ?_ fun hreversed => hbetween hreversed.1
    cases hnull : op.isNullTest with
    | true =>
        unfold Condition.check
        rw [if_pos hnull]
    | false =>
        rw [check_string hnull, checkValues_type hbetween .string dataType]
        exact checkValues_of_check hnull h

/-- A definition makes a condition on texts one of its own type. -/
theorem Parameter.ofDefinition_eq_ok {d : Definition} {p : Parameter} (hc : c.check = .ok ())
    (hstring : c.dataType = .string) : Parameter.ofDefinition d c = .ok p ↔
      ({ c with dataType := d.dataType } : Condition).check = .ok ()
        ∧ p = { column := d.column, condition := { c with dataType := d.dataType } } := by
  unfold Parameter.ofDefinition
  by_cases htype : d.dataType = .string
  · rw [if_neg (by simp [htype]), pure_eq_ok, htype, ← hstring]
    exact ⟨fun h => ⟨hc, h.symm⟩, fun h => h.2.symm⟩
  · rw [if_pos (by simp [hstring, htype]), bind_eq_ok]
    unfold Condition.withDataType
    constructor
    · rintro ⟨_, hchecked, ⟨⟩⟩
      obtain ⟨hcheck, rfl⟩ := Condition.checked_eq_ok.mp hchecked
      exact ⟨hcheck, rfl⟩
    · rintro ⟨hcheck, rfl⟩
      exact ⟨_, Condition.checked_eq_ok.mpr ⟨hcheck, rfl⟩, rfl⟩

end QueryReport.Filter

namespace QueryReport.Report

open QueryReport.Filter Text

variable {r : Report} {column operator spec : String} {items : List String} {d : Definition}

/-- The texts that stand for a filter: the column, the operator and the values with colons between
them; without values the second colon may be missing. -/
inductive Written (column operator : String) : List String → String → Prop where
  | values {items pieces : List String} (h : Spread items pieces) :
      Written column operator items (column ++ ":" ++ operator ++ ":" ++ ",".intercalate pieces)
  | bare : Written column operator [] (column ++ ":" ++ operator)

/-- The texts are taken apart at the first two colons. -/
theorem readParam_written (hcolumn : ':' ∉ column.toList) (hoperator : ':' ∉ operator.toList)
    (h : Written column operator items spec) :
    r.readParam spec = (do
      let condition ← Condition.make operator (items.map Value.text) .string
      match r.definition? column with
      | some d => Parameter.ofDefinition d condition
      | none => pure { column, condition }) := by
  -- The list may have colons of its own, which are joined again.
  have hparts : ∃ rest, (splitOn ':' spec.toList).map String.ofList = column :: operator :: rest
      ∧ commaParts (":".intercalate rest) = items := by
    cases h with
    | @values _ pieces h =>
        have hspec : (column ++ ":" ++ operator ++ ":" ++ ",".intercalate pieces).toList
            = column.toList ++ ':' :: (operator.toList ++ ':' :: (",".intercalate pieces).toList) := by
          simp
        refine ⟨(splitOn ':' (",".intercalate pieces).toList).map String.ofList, ?_, ?_⟩
        · rw [hspec, splitOn_append_cons hcolumn, splitOn_append_cons hoperator]
          simp
        · have hjoined := intercalate_splitOn ':' (",".intercalate pieces)
          rw [show String.singleton ':' = ":" from rfl] at hjoined
          rw [hjoined]
          exact commaParts_spread h
    | bare =>
        have hspec : (column ++ ":" ++ operator).toList = column.toList ++ ':' :: operator.toList := by
          simp
        refine ⟨[], ?_, by decide⟩
        rw [hspec, splitOn_append_cons hcolumn, splitOn_eq, List.splitOn_eq_singleton hoperator,
          List.map_cons, List.map_singleton, String.ofList_toList, String.ofList_toList]
  obtain ⟨rest, hsplit, hvalues⟩ := hparts
  unfold readParam
  rw [hsplit]
  subst hvalues
  rfl

/-- For a column without a definition the parameter is the condition that the operator makes of the
texts, if it makes one; the operator may be written in any case. -/
theorem readParam_undefined {op : Operator} (hcolumn : ':' ∉ column.toList)
    (hoperator : lower operator = op.token) (hwritten : Written column operator items spec)
    (hnone : r.definition? column = none) :
    r.readParam spec = (Condition.make operator (items.map Value.text) .string).map
        (fun condition => { column, condition })
      ∧ ∀ condition, Condition.make operator (items.map Value.text) .string = .ok condition →
        condition = ⟨op, items.map Value.text, .string⟩ := by
  constructor
  · rw [readParam_written hcolumn (Operator.colon_free hoperator) hwritten, hnone]
    cases Condition.make operator (items.map Value.text) .string <;> rfl
  · intro condition hmake
    obtain ⟨op', hop, rfl, -⟩ := Condition.make_eq_ok.mp hmake
    rw [Operator.ofToken?_of_lower hoperator] at hop
    cases hop
    rfl

/-- Values with colons, between blanks and empty places. -/
theorem readParam_times :
    ({} : Report).readParam "at:In: 10:30 ,,11:45," = .ok
        { column := "at", condition := ⟨.isIn, [.text "10:30", .text "11:45"], .string⟩ } := by
  have hspread : Spread ["10:30", "11:45"] [" 10:30 ", "", "11:45", ""] := by
    refine @Spread.item _ _ "10:30" [' '] [' '] ⟨by decide, by decide, by decide⟩
      (List.all_eq_true.mp rfl) (List.all_eq_true.mp rfl) (.blank nofun ?_)
    exact @Spread.item _ _ "11:45" [] [] ⟨by decide, by decide, by decide⟩ nofun nofun
      (.blank nofun .nil)
  have hwritten : Written "at" "In" ["10:30", "11:45"] "at:In: 10:30 ,,11:45," := .values hspread
  have hoperator : lower "In" = Operator.isIn.token := by decide
  have hnone : ({} : Report).definition? "at" = none := rfl
  rw [(readParam_undefined (by decide) hoperator hwritten hnone).1]
  decide +kernel

/-- For a column with a definition the texts have to make a condition of the definition's type, and
the first two of them must not be bounds that are in the wrong order as texts.  The parameter is for
the definition's column, with these texts as values of the definition's type. -/
theorem readParam_defined {p : Parameter} (hcolumn : ':' ∉ column.toList)
    (hoperator : ':' ∉ operator.toList) (hwritten : Written column operator items spec)
    (hdefinition : r.definition? column = some d) :
    r.readParam spec = .ok p ↔ ∃ op, Operator.ofToken? operator = some op
      ∧ ¬ TextsReversed op items
      ∧ Condition.make operator (items.map Value.text) d.dataType
          = .ok ⟨op, items.map Value.text, d.dataType⟩
      ∧ p = { column := d.column, condition := ⟨op, items.map Value.text, d.dataType⟩ } := by
  rw [readParam_written hcolumn hoperator hwritten, hdefinition, bind_eq_ok]
  constructor
  · rintro ⟨condition, hmake, hparameter⟩
    obtain ⟨op, hop, rfl, hcheck⟩ := Condition.make_eq_ok.mp hmake
    obtain ⟨htyped, rfl⟩ := (Parameter.ofDefinition_eq_ok hcheck rfl).mp hparameter
    exact ⟨op, hop, (Condition.check_string_iff htyped).mp hcheck,
      Condition.make_eq_ok.mpr ⟨op, hop, rfl, htyped⟩, rfl⟩
  · rintro ⟨op, hop, hreversed, hmake, rfl⟩
    obtain ⟨_, -, -, htyped⟩ := Condition.make_eq_ok.mp hmake
    have hcheck := (Condition.check_string_iff htyped).mpr hreversed
    exact ⟨_, Condition.make_eq_ok.mpr ⟨op, hop, rfl, hcheck⟩,
      (Parameter.ofDefinition_eq_ok hcheck rfl).mpr ⟨htyped, rfl⟩⟩

/-- A report that has integers in a column. -/
def withIds : Report := { definitions := [{ Definition.new "id" with dataType := .integer }] }

/-- Bounds that are in order as integers and as texts. -/
theorem integer_bounds_read : withIds.readParam "id:between:10,20" = .ok
    { column := "id", condition := ⟨.between, [.text "10", .text "20"], .integer⟩ } := by
  have hspread : Spread ["10", "20"] ["10", "20"] :=
    @Spread.item _ _ "10" [] [] ⟨by decide, by decide, by decide⟩ nofun nofun
      (@Spread.item _ _ "20" [] [] ⟨by decide, by decide, by decide⟩ nofun nofun .nil)
  have hwritten : Written "id" "between" ["10", "20"] "id:between:10,20" := .values hspread
  have hdefinition : withIds.definition? "id"
      = some { Definition.new "id" with dataType := .integer } := by decide +kernel
  refine (readParam_defined (by decide) (by decide) hwritten hdefinition).mpr
    ⟨.between, by decide +kernel, ?_, by decide +kernel, rfl⟩
  rintro ⟨-, _, _, _, ⟨⟩, hgt⟩
  revert hgt
  decide

/-- The condition of these bounds can be made, but the filter is refused: as texts `9` comes after
`10`. -/
theorem integer_bounds_refused : withIds.definition? "id"
      = some { Definition.new "id" with dataType := .integer }
    ∧ Condition.make "between" [.text "9", .text "10"] .integer
      = .ok ⟨.between, [.text "9", .text "10"], .integer⟩
    ∧ withIds.readParam "id:between:9,10" = .error .boundsReversed := by
  decide +kernel

end QueryReport.Report
