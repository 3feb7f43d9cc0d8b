import QueryReport.Proofs.Sql.Dialect.Quotes
import QueryReport.Proofs.Sql.Leaves

/-!
# `QueryReport.Proofs.Sql.Dialect.Laid`: a text and its leaves

The text of a tree is its leaves one after the other, with keywords, blanks, marks and counts
between them, in which there are no quotes (`Gap`).  `Laid` says so, and what the text is if names
are written without their quotes.

`Lays` leaves that second text open.  Texts that are made of others by writing them one after the
other, or with something between them, have the leaves of the others in the same order
(`Lays.append` and the lemmas after it, `Lays.intercalate` for sequences).  From these there is one
lemma for each kind of tree, here for types, column lists and the other kinds that have no
expressions in them.
-/

set_option autoImplicit false

namespace QueryReport.Sql

open Dialect QueryReport.Text

/-! ## Texts and their leaves -/

/-- A text that has no quotes. -/
def Gap (s : String) : Prop := ∀ c ∈ s.toList, isPlain c

instance (s : String) : Decidable (Gap s) :=
  decidable_of_iff ((s.toList.all fun c => decide (c ≠ '\'' ∧ c ≠ '"')) = true)
    ⟨noQuotes_of_all, fun h => List.all_eq_true.mpr fun c hc => decide_eq_true (h c hc)⟩

/-- A leaf without the quotes that a name is written in. -/
def Leaf.bare : Leaf → String
  | .name i => i.value
  | leaf => leaf.text

/-- The leaves stand in the text one after the other, with nothing between them that has quotes. The
other text is the same with bare names. -/
inductive Laid : List Leaf → String → String → Prop where
  | gap {s : String} (h : Gap s) : Laid [] s s
  | leaf {leaves : List Leaf} {gap text bare : String} (hgap : Gap gap) (leaf : Leaf)
      (h : Laid leaves text bare) :
      Laid (leaf :: leaves) (gap ++ (leaf.text ++ text)) (gap ++ (leaf.bare ++ bare))

/-- The leaves stand in the text one after the other. -/
def Lays (leaves : List Leaf) (text : String) : Prop := ∃ bare, Laid leaves text bare

section
variable {s t bare bare' : String} {ls ms : List Leaf}

theorem gap_append (hs : Gap s) (ht : Gap t) : Gap (s ++ t) := by
  intro c hc
  rw [String.toList_append, List.mem_append] at hc
  exact hc.elim (hs c) (ht c)

theorem gap_empty : Gap "" := by decide

theorem gap_wordIf (present : Bool) (h : Gap s) : Gap (wordIf present s) := by
  cases present with
  | false => exact gap_empty
  | true => exact gap_append h (by decide)

theorem gap_tailIf (present : Bool) (h : Gap s) : Gap (tailIf present s) := by
  cases present with
  | false => exact gap_empty
  | true => exact gap_append (by decide) h

theorem gap_nat (n : Nat) : Gap (toString n) := by
  intro c hc
  have htext : (toString n).toList = Nat.toDigits 10 n := by simp
  rw [htext] at hc
  have hdigit : c.isDigit = true := Decimal.isDigit_toDigits hc
  show c ≠ '\'' ∧ c ≠ '"'
  have hplain := of_isDigit (p := fun c => decide (c ≠ '\'' ∧ c ≠ '"')) (by decide) hdigit
  exact of_decide_eq_true hplain

theorem Laid.before (hs : Gap s) (h : Laid ls t bare) : Laid ls (s ++ t) (s ++ bare) := by
  cases h with
  | gap ht => exact .gap (gap_append hs ht)
  | leaf hgap leaf h =>
      -- The two gaps in front of the first leaf make one.
      rw [← @String.append_assoc s, ← @String.append_assoc s]
      exact .leaf (gap_append hs hgap) leaf h

theorem Laid.append (h : Laid ls s bare) (h' : Laid ms t bare') :
    Laid (ls ++ ms) (s ++ t) (bare ++ bare') := by
  induction h with
  | gap hs => exact h'.before hs
  | leaf hgap leaf _ ih =>
      simp only [String.append_assoc]
      exact .leaf hgap leaf ih

theorem lays_gap (h : Gap s) : Lays [] s := ⟨s, .gap h⟩

theorem lays_empty : Lays [] "" := lays_gap (by decide)

theorem lays_leaf (leaf : Leaf) : Lays [leaf] leaf.text := by
  have h := Laid.leaf (by decide : Gap "") leaf (.gap (by decide : Gap ""))
  rw [String.append_empty, String.empty_append] at h
  exact ⟨_, h⟩

namespace Lays

theorem append (h : Lays ls s) (h' : Lays ms t) : Lays (ls ++ ms) (s ++ t) := by
  obtain ⟨_, h⟩ := h
  obtain ⟨_, h'⟩ := h'
  exact ⟨_, h.append h'⟩

/-- Behind a text without quotes. -/
theorem lead (lead : String) (hlead : Gap lead) (h : Lays ls s) : Lays ls (lead ++ s) :=
  (lays_gap hlead).append h

/-- In front of a text without quotes. -/
theorem trail (h : Lays ls s) (trail : String) (htrail : Gap trail) : Lays ls (s ++ trail) := by
  have happended := h.append (lays_gap htrail)
  rwa [List.append_nil] at happended

/-- Between two texts without quotes. -/
theorem within (opening closing : String) (hmarks : Gap (opening ++ closing)) (h : Lays ls s) :
    Lays ls (opening ++ s ++ closing) := by
  have hboth : ∀ c ∈ opening.toList ++ closing.toList, isPlain c := by
    rw [← String.toList_append]
    exact hmarks
  rw [List.forall_mem_append] at hboth
  exact (h.lead opening hboth.1).trail closing hboth.2

/-- With a text without quotes between them. -/
theorem follow (h : Lays ls s) (between : String) (hbetween : Gap between) (h' : Lays ms t) :
    Lays (ls ++ ms) (s ++ between ++ t) :=
  (h.trail between hbetween).append h'

/-- In front of a clause that is left out. -/
theorem none (h : Lays ls s) : Lays (ls ++ []) (s ++ "") := h.append lays_empty

/-- In front of a keyword that may be left out, and a blank. -/
theorem word (h : Lays ls s) (present : Bool) (word : String) (hword : Gap word) :
    Lays ls (s ++ wordIf present word) :=
  h.trail _ (gap_wordIf present hword)

/-- In front of a blank and a keyword that may be left out. -/
theorem tail (h : Lays ls s) (present : Bool) (word : String) (hword : Gap word) :
    Lays ls (s ++ tailIf present word) :=
  h.trail _ (gap_tailIf present hword)

end Lays

end

/-! ## Sequences -/

section
variable {α : Type} {texts texts' : List String} {leaves leaves' : List (List Leaf)}

theorem Lays.intercalate {between : String} (hbetween : Gap between)
    (h : List.Forall₂ Lays leaves texts) : Lays leaves.flatten (between.intercalate texts) := by
  induction h with
  | nil => exact lays_empty
  | @cons ls s leaves texts hfirst hrest ih =>
      cases hrest with
      | nil =>
          rw [String.intercalate_singleton, List.flatten_cons, List.flatten_nil, List.append_nil]
          exact hfirst
      | cons hnext hrest =>
          rw [String.intercalate_cons_cons, List.flatten_cons]
          exact hfirst.follow between hbetween ih

theorem Lays.commas (h : List.Forall₂ Lays leaves texts) :
    Lays leaves.flatten (Sql.commas texts) :=
  .intercalate (by decide) h

/-- A clause that is only written if its list has entries. -/
theorem Lays.listClause {lead : String} (hlead : Gap lead) (h : List.Forall₂ Lays leaves texts) :
    Lays leaves.flatten (Sql.listClause lead texts) := by
  cases h with
  | nil => exact lays_empty
  | cons hfirst hrest => exact .lead lead hlead (.commas (.cons hfirst hrest))

theorem Lays.join (h : List.Forall₂ Lays leaves texts) :
    Lays leaves.flatten (String.join texts) := by
  induction h with
  | nil => exact lays_empty
  | cons hfirst hrest ih =>
      rw [String.join_cons, List.flatten_cons]
      exact hfirst.append ih

theorem forall_lays {leavesOf : α → List Leaf} {textOf : α → String}
    (h : ∀ a, Lays (leavesOf a) (textOf a)) (as : List α) :
    List.Forall₂ Lays (as.map leavesOf) (as.map textOf) := by
  induction as with
  | nil => exact .nil
  | cons a as ih => exact .cons (h a) ih

theorem forall_lays_lead {lead : String} (hlead : Gap lead) (h : List.Forall₂ Lays leaves texts) :
    List.Forall₂ Lays leaves (texts.map (lead ++ ·)) := by
  induction h with
  | nil => exact .nil
  | cons hfirst _ ih => exact .cons (.lead lead hlead hfirst) ih

/-- Leaves with a text between them. -/
theorem lays_leaves {between : String} (hbetween : Gap between) (leafOf : α → Leaf) (as : List α) :
    Lays (as.map leafOf) (between.intercalate (as.map fun a => (leafOf a).text)) := by
  have h := Lays.intercalate hbetween (forall_lays (fun a => lays_leaf (leafOf a)) as)
  rwa [← List.flatMap_def, ← List.map_eq_flatMap] at h

end

/-! ## Outside of the family -/

theorem lays_name (i : Ident) : Lays [.name i] i.text := lays_leaf (.name i)

theorem lays_names (names : List Ident) : Lays (names.map .name) (commas (names.map Ident.text)) :=
  lays_leaves (by decide) .name names

theorem lays_path (p : Path) : Lays (Path.leaves p) (Path.text p) :=
  lays_leaves (by decide) .name p

theorem lays_literal (l : Literal) : Lays [.literal l] l.text := lays_leaf (.literal l)

theorem lays_raw (s : String) : Lays [.raw s] s := lays_leaf (.raw s)

theorem lays_raws {between : String} (hbetween : Gap between) (texts : List String) :
    Lays (texts.map .raw) (between.intercalate texts) := by
  have h := lays_leaves hbetween .raw texts
  rwa [show texts.map (fun s => (Leaf.raw s).text) = texts from List.map_id texts] at h

/-- A text between single quotes, with something written before it and behind it. -/
theorem lays_quoted (lead s trail : String) (hlead : Gap lead) (htrail : Gap trail) :
    Lays [.raw ("'" ++ s ++ "'")] ((lead ++ "'") ++ s ++ ("'" ++ trail)) := by
  have h := (Lays.lead lead hlead (lays_raw ("'" ++ s ++ "'"))).trail trail htrail
  simpa only [String.append_assoc] using h

theorem lays_typeSize (size : TypeSize) : Lays size.leaves size.text := by
  cases size with
  | unstated => exact lays_empty
  | length n => exact .within "(" ")" (by decide) (lays_gap (gap_nat n))
  | scaled p s =>
      have hcounts : Gap ("(" ++ toString p ++ "," ++ toString s ++ ")") :=
        gap_append (gap_append (gap_append (gap_append (by decide) (gap_nat p)) (by decide))
          (gap_nat s)) (by decide)
      exact lays_gap hcounts
  | counted n unit =>
      have hcount : Gap ("(" ++ toString n ++ " ") :=
        gap_append (gap_append (by decide) (gap_nat n)) (by decide)
      exact (Lays.lead _ hcount (lays_raw unit)).trail ")" (by decide)
  | max => exact lays_gap (by decide)

theorem gap_precision (p : Option Nat) : Gap (precisionText p) := by
  cases p with
  | none => exact gap_empty
  | some n => exact gap_append (gap_append (by decide) (gap_nat n)) (by decide)

theorem lays_labelValue (v : LabelValue) : Lays v.leaves v.text := by
  obtain ⟨label, number⟩ := v
  cases number with
  | none => exact lays_literal (.string label)
  | some n => exact (lays_literal (.string label)).follow " = " (by decide) (lays_raw n)

theorem lays_type : (t : SqlType) → Lays t.leaves t.text
  | .builtin name size unsigned =>
      ((lays_raw name).append (lays_typeSize size)).trail _ (by cases unsigned <;> decide)
  | .temporal name p .unstated => (lays_raw name).trail _ (gap_precision p)
  | .temporal name p .included =>
      ((lays_raw name).trail _ (gap_precision p)).trail " WITH TIME ZONE" (by decide)
  | .temporal name p .excluded =>
      ((lays_raw name).trail _ (gap_precision p)).trail " WITHOUT TIME ZONE" (by decide)
  | .temporal name p .short =>
      ((lays_raw name).trail "TZ" (by decide)).trail _ (gap_precision p)
  | .fixedZone name p none =>
      (lays_raw name).trail _ (gap_append (gap_append (by decide) (gap_nat p)) (by decide))
  | .fixedZone name p (some zone) => by
      have hlead : Gap ("(" ++ toString p ++ ", ") :=
        gap_append (gap_append (by decide) (gap_nat p)) (by decide)
      have h := (lays_raw name).append (lays_quoted _ zone ")" hlead (by decide))
      show Lays _ (name ++ ("(" ++ toString p ++ ", '") ++ zone ++ "')")
      simp only [String.append_assoc] at h ⊢
      exact h
  | .labels name values =>
      ((lays_raw name).follow "(" (by decide) (.commas (forall_lays lays_labelValue values))).trail
        ")" (by decide)
  | .custom name [] => by
      show Lays (Path.leaves name ++ []) (Path.text name)
      rw [List.append_nil]
      exact lays_path name
  | .custom name (m :: ms) =>
      ((lays_path name).follow "(" (by decide) (lays_raws (by decide) (m :: ms))).trail ")"
        (by decide)
  | .array element none => (lays_type element).trail "[]" (by decide)
  | .array element (some n) =>
      (lays_type element).trail _ (gap_append (gap_append (by decide) (gap_nat n)) (by decide))
  | .angleArray element => .within "ARRAY<" ">" (by decide) (lays_type element)

theorem lays_binaryOp (op : BinaryOp) : Lays op.leaves op.text := by
  cases op with
  | or => exact lays_gap (by decide)
  | and => exact lays_gap (by decide)
  | xor => exact lays_gap (by decide)
  | symbol s => exact lays_raw s
  | named path => exact .within "OPERATOR(" ")" (by decide) (lays_raws (by decide) path)

theorem lays_castFormat (f : CastFormat) : Lays f.leaves f.text := by
  obtain ⟨value, zone⟩ := f
  cases zone with
  | none => exact lays_literal value
  | some z => exact (lays_literal value).follow " AT TIME ZONE " (by decide) (lays_literal z)

theorem lays_dateField (f : DateField) : Lays [f.leaf] f.text := by
  cases f with
  | known name => exact lays_raw name
  | custom name => exact lays_name name

theorem lays_roundTarget (t : RoundTarget) : Lays t.leaves t.text := by
  cases t with
  | unit => exact lays_empty
  | field f => exact .lead " TO " (by decide) (lays_dateField f)
  | scale n long => exact .lead ", " (by decide) (lays_literal (.number n long))

theorem lays_fetch (f : Fetch) : Lays f.leaves f.text := by
  obtain ⟨quantity, percent, withTies⟩ := f
  have htail : Gap (if withTies then "WITH TIES" else "ONLY") := by cases withTies <;> decide
  cases quantity with
  | none => exact (lays_gap (by decide : Gap "FETCH FIRST ROWS ")).trail _ htail
  | some q =>
      have hpercent : Gap (if percent then " PERCENT" else "") := by cases percent <;> decide
      have hquantity := ((lays_literal q).trail _ hpercent).trail " " (by decide)
      exact ((hquantity.lead "FETCH FIRST " (by decide)).trail "ROWS " (by decide)).trail _ htail

theorem lays_lock (l : Lock) : Lays l.leaves l.text := by
  obtain ⟨exclusive, table, wait⟩ := l
  have hkind : Gap ("FOR " ++ if exclusive then "UPDATE" else "SHARE") := by
    cases exclusive <;> decide
  have hwait : Gap wait.text := by cases wait <;> decide
  cases table with
  | none => exact (lays_gap hkind).none.trail _ hwait
  | some p => exact ((lays_gap hkind).append (.lead " OF " (by decide) (lays_path p))).trail _ hwait

theorem lays_namedBy (name : Option String) : Lays (namedLeaves name) (namedBy name) := by
  cases name with
  | none => exact lays_empty
  | some name => exact lays_quoted "(" name ")" (by decide) (by decide)

theorem lays_rootText (root : Option String) : Lays (namedLeaves root) (rootText root) := by
  cases root with
  | none => exact lays_empty
  | some name => exact .lead ", ROOT" (by decide) (lays_namedBy (some name))

theorem lays_xmlShape (shape : XmlShape) : Lays shape.leaves shape.text := by
  cases shape with
  | auto => exact lays_gap (by decide)
  | explicit => exact lays_gap (by decide)
  | raw name => exact .lead "RAW" (by decide) (lays_namedBy name)
  | path name => exact .lead "PATH" (by decide) (lays_namedBy name)

theorem gap_optionIf (present : Bool) {option : String} (h : Gap option) :
    Gap (optionIf present option) := by
  cases present with
  | false => exact gap_empty
  | true => exact gap_append (by decide) h

theorem lays_form (f : ResultForm) : Lays f.leaves f.text := by
  cases f with
  | browse => exact lays_gap (by decide)
  | json auto root withNulls withoutArray =>
      have hkind : Gap ("FOR JSON " ++ if auto then "AUTO" else "PATH") := by
        cases auto <;> decide
      have hnulls : Gap (optionIf withNulls "INCLUDE_NULL_VALUES") := gap_optionIf _ (by decide)
      have harray : Gap (optionIf withoutArray "WITHOUT_ARRAY_WRAPPER") :=
        gap_optionIf _ (by decide)
      exact ((Lays.lead _ hkind (lays_rootText root)).trail _ hnulls).trail _ harray
  | xml shape elements base64 root typed =>
      have hbase64 : Gap (optionIf base64 "BINARY BASE64") := gap_optionIf _ (by decide)
      have htyped : Gap (optionIf typed "TYPE") := gap_optionIf _ (by decide)
      have helements : Gap (optionIf elements "ELEMENTS") := gap_optionIf _ (by decide)
      have hshape := ((lays_xmlShape shape).lead "FOR XML " (by decide)).trail _ hbase64
      exact ((hshape.trail _ htyped).append (lays_rootText root)).trail _ helements

theorem lays_aliasColumn (c : AliasColumn) : Lays c.leaves c.text := by
  obtain ⟨name, type⟩ := c
  cases type with
  | none => exact lays_name name
  | some t => exact (lays_name name).follow " " (by decide) (lays_type t)

theorem lays_tableAlias (a : TableAlias) : Lays a.leaves a.text := by
  obtain ⟨name, columns⟩ := a
  cases columns with
  | nil => exact lays_name name
  | cons c cs =>
      have hcolumns := Lays.commas (forall_lays lays_aliasColumn (c :: cs))
      exact ((lays_name name).follow " (" (by decide) hcolumns).trail ")" (by decide)

theorem lays_label (label : Option TableAlias) : Lays (labelLeaves label) (labelText label) := by
  cases label with
  | none => exact lays_empty
  | some a => exact .lead " AS " (by decide) (lays_tableAlias a)

theorem lays_openJsonColumn (c : OpenJsonColumn) : Lays c.leaves c.text := by
  obtain ⟨name, type, place, asJson⟩ := c
  have htype := (lays_name name).follow " " (by decide) (lays_type type)
  cases place with
  | none => exact htype.none.tail asJson "AS JSON" (by decide)
  | some p =>
      have hplace := Lays.lead " " (by decide) (lays_literal (.string p))
      exact (htype.append hplace).tail asJson "AS JSON" (by decide)

theorem lays_jsonDefault (d : JsonDefault) : Lays d.leaves d.text := by
  cases d with
  | null => exact lays_gap (by decide)
  | error => exact lays_gap (by decide)
  | value v => exact .lead "DEFAULT " (by decide) (lays_literal v)

theorem lays_jsonColumn (c : JsonColumn) : Lays c.leaves c.text := by
  obtain ⟨name, type, exist, place, onEmpty, onError⟩ := c
  have htype := (lays_name name).follow " " (by decide) (lays_type type)
  have hplace := (htype.tail exist "EXISTS" (by decide)).follow " PATH " (by decide)
    (lays_literal place)
  refine (hplace.append ?empty).append ?error
  case empty =>
    cases onEmpty with
    | none => exact lays_empty
    | some d => exact .within " " " ON EMPTY" (by decide) (lays_jsonDefault d)
  case error =>
    cases onError with
    | none => exact lays_empty
    | some d => exact .within " " " ON ERROR" (by decide) (lays_jsonDefault d)

theorem lays_jsonColumns : (cs : JsonColumns) → List.Forall₂ Lays cs.leaves cs.texts
  | .nil => .nil
  | .ordinality name rest =>
      .cons ((lays_name name).trail " FOR ORDINALITY" (by decide)) (lays_jsonColumns rest)
  | .value column rest => .cons (lays_jsonColumn column) (lays_jsonColumns rest)
  | .nested place columns rest => by
      have hplace := Lays.lead "NESTED PATH " (by decide) (lays_literal place)
      have hcolumns := hplace.follow " COLUMNS (" (by decide) (.commas (lays_jsonColumns columns))
      exact .cons (hcolumns.trail ")" (by decide)) (lays_jsonColumns rest)

theorem lays_conflictTarget (t : ConflictTarget) : Lays t.leaves t.text := by
  cases t with
  | any => exact lays_empty
  | columns names => exact .within "(" ")" (by decide) (lays_names names)
  | constraint name => exact .lead " ON CONSTRAINT " (by decide) (lays_path name)

theorem lays_assignmentTarget (t : AssignmentTarget) : Lays t.leaves t.text := by
  cases t with
  | column name => exact lays_path name
  | row names => exact .within "(" ")" (by decide) (.commas (forall_lays lays_path names))

end QueryReport.Sql
