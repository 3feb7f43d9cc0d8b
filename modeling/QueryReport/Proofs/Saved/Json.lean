import QueryReport.Proofs.Document.Decode
import QueryReport.Proofs.Saved.Form
import QueryReport.Saved.Decode
import QueryReport.Saved.Encode

/-!
# `QueryReport.Proofs.Saved.Json`: a saved report comes back from its JSON

A saved report is written field by field, some fields are left out where they hold nothing, and a
value or a list source is written without a word about what it is.  Reading goes the other way, and
comes to the saved report that was written (`json_restored`) if there are no floats in it
(`Report.Exact`) and its settings do not nest too deeply.  The reader admits 127 levels; the saved
report itself is one of them.

* `decodeAttributes_asRead`, `decodeDefinition_asRead`, …: each part is read as it was written.
* `decode_asRead`: so is the saved report as a whole, by any rules.
-/

set_option autoImplicit false

namespace QueryReport

open Document QueryReport.Filter

/-! ## What is written exactly -/

/-- Whether the value is no float, and fits into 64 bits if it is an integer. -/
def Value.integral : Value → Bool
  | .int n => Decimal.fitsInt64 n
  | .float _ => false
  | _ => true

/-- Whether no value of the source is a float. -/
def Filter.ListSource.integral : ListSource → Bool
  | .query _ => true
  | .values vs => vs.all Value.integral
  | .mapping ps => ps.all fun p => p.2.integral

/-- The numbers of a definition fit where they are kept, and none of them is a float. -/
structure Filter.Definition.Exact (d : Definition) : Prop where
  priority : -Int.pow 2 31 ≤ d.priority ∧ d.priority < Int.pow 2 31
  defaultValue : d.defaultValue.integral = true
  source : ∀ s ∈ d.source, s.integral = true
  options : ∀ o ∈ d.options, o.value.integral = true

/-- The numbers of a column fit where they are kept. -/
structure Attributes.Exact (a : Attributes) : Prop where
  sequenceNo : a.sequenceNo < 2 ^ 64
  width : ∀ n ∈ a.width, n < 2 ^ 32
  groupBySeq : ∀ n ∈ a.groupBySeq, n < 2 ^ 32

/-- The numbers of a saved report fit where they are kept and none of them is a float.  Its columns
and its settings are in the order of the maps that they are kept in. -/
structure Saved.Report.Exact (saved : Saved.Report) : Prop where
  limit : ∀ n ∈ saved.limit, n < 2 ^ 64
  offset : ∀ n ∈ saved.offset, n < 2 ^ 64
  settings : saved.settings.integral = true
  settings_ordered : saved.settings.ordered = true
  columns : ∀ entry ∈ saved.columns, entry.2.Exact
  columns_ordered : (saved.columns.map Prod.fst).Pairwise (· < ·)
  definitions : ∀ d ∈ saved.definitions, d.Exact

namespace Saved

variable {α : Type} {key name : String}

/-! ## Fields -/

/-- A field is found by its key. -/
@[simp] theorem lookup_field (key name : String) (t : Tree) :
    (field key t).lookup name = if name = key then some t else none := by
  by_cases h : name = key
  · rw [if_pos h, h]
    exact List.lookup_cons_self
  · rw [if_neg h, field, List.lookup_cons, beq_eq_false_iff_ne.mpr h]
    rfl

@[simp] theorem lookup_fieldIfSome (key name : String) (encode : α → Tree) (o : Option α) :
    (fieldIfSome key encode o).lookup name = if name = key then o.map encode else none := by
  cases o with
  | none => exact (ite_self none).symm
  | some a => exact lookup_field key name (encode a)

section Keys

variable {fields : List (String × Tree)} {names : List String}

/-- The keys of a record are known if its fields come in the order of their names, each of them or
none. -/
theorem keys_field {t : Tree} (h : (fields.map Prod.fst).Sublist names) :
    ((field key t ++ fields).map Prod.fst).Sublist (key :: names) :=
  h.cons_cons _

theorem keys_fieldIfSome {encode : α → Tree} {o : Option α}
    (h : (fields.map Prod.fst).Sublist names) :
    ((fieldIfSome key encode o ++ fields).map Prod.fst).Sublist (key :: names) := by
  cases o with
  | none => exact h.cons _
  | some a => exact h.cons_cons _

end Keys

/-! ## Values -/

theorem decodeNat_encodeNat {bits n : Nat} (h : n < 2 ^ bits) :
    decodeNat bits (encodeNat n).asRead = .ok n :=
  decodeNat_asRead h

theorem decodeValue_asRead {v : Value} (h : v.integral = true) :
    decodeValue (encodeValue v).asRead = .ok v := by
  cases v with
  | int n => exact if_pos h
  | float x => cases h
  | _ => rfl

theorem decodeSource_asRead {s : ListSource} (h : s.integral = true) :
    decodeSource (encodeSource s).asRead = .ok s := by
  cases s with
  | query sql => rfl
  | values vs =>
      show ListSource.values <$> (Trees.ofList (vs.map encodeValue)).asRead.toList.mapM decodeValue
        = _
      rw [Trees.toList_asRead, List.map_map, mapM_map_ok]
      · rfl
      · exact fun v hv => decodeValue_asRead (List.all_eq_true.mp h v hv)
  | mapping ps =>
      show ListSource.mapping <$> (Members.ofList _).asRead.toList.mapM decodePair = _
      rw [Members.toList_asRead, List.map_map, mapM_map_ok]
      · rfl
      · intro p hp
        show (decodeValue (encodeValue p.2).asRead >>= _) = _
        rw [decodeValue_asRead (List.all_eq_true.mp h p hp)]
        rfl

theorem decodeListOption_asRead (rules : Rules) {o : ListOption} (h : o.value.integral = true) :
    decodeListOption rules (encodeListOption o).asRead = .ok o := by
  obtain ⟨r, hr, hstates⟩ := record_written rules (rfl : encodeListOption o = .ofMembers _)
    (by decide : optionFields.Nodup) (List.Sublist.refl _)
  have hlabel : r.required "label" decodeText = .ok o.label :=
    hstates.required rfl (decodeText_asRead _)
  have hvalue : r.required "value" decodeValue = .ok o.value :=
    hstates.required rfl (decodeValue_asRead h)
  unfold decodeListOption
  rw [hr]
  show (r.required "label" decodeText >>= _) = _
  rw [hlabel]
  show (r.required "value" decodeValue >>= _) = _
  rw [hvalue]
  rfl

/-! ## Columns -/

theorem decodeDataType_asRead (rules : Rules) (t : DataType) :
    decodeDataType rules (Tree.text t.name).asRead = .ok t :=
  decodeName_asRead (by cases t <;> decide) rules

theorem decodeAttributes_asRead (rules : Rules) {a : Attributes} (h : a.Exact) :
    decodeAttributes rules (encodeAttributes a).asRead = .ok a := by
  obtain ⟨r, hr, hstates⟩ := record_written rules (rfl : encodeAttributes a = .ofMembers _)
    (by decide : attributeFields.Nodup) (by
      simp only [List.append_assoc]
      repeat first | refine keys_field ?_ | refine keys_fieldIfSome ?_
      exact List.Sublist.refl _)
  have hsequenceNo : r.optional "sequence_no" 0 (decodeNat 64) = .ok a.sequenceNo :=
    hstates.optional (by simp [List.lookup_append]) (decodeNat_encodeNat h.sequenceNo)
  have hcaption : r.optional "caption" "" decodeText = .ok a.caption :=
    hstates.optional (by simp [List.lookup_append]) (decodeText_asRead _)
  have hdataType : r.optional "data_type" .string (decodeDataType rules) = .ok a.dataType :=
    hstates.optional (by simp [List.lookup_append]) (decodeDataType_asRead rules _)
  have hwidth : r.optional "width" none (maybe (decodeNat 32)) = .ok a.width :=
    hstates.maybe (by simp [List.lookup_append]) (fun n hn => decodeNat_encodeNat (h.width n hn))
      nofun
  have hformat : r.optional "format" none (maybe decodeText) = .ok a.format :=
    hstates.maybe (by simp [List.lookup_append]) (fun _ _ => decodeText_asRead _) nofun
  have hhide : r.optional "hide" false decodeBool = .ok a.hide :=
    hstates.flag (by simp [List.lookup_append])
  have hpinned : r.optional "pinned" false decodeBool = .ok a.pinned :=
    hstates.flag (by simp [List.lookup_append])
  have hgroupable : r.optional "groupable" false decodeBool = .ok a.groupable :=
    hstates.flag (by simp [List.lookup_append])
  have hgroupBySeq : r.optional "group_by_seq" none (maybe (decodeNat 32)) = .ok a.groupBySeq :=
    hstates.maybe (by simp [List.lookup_append])
      (fun n hn => decodeNat_encodeNat (h.groupBySeq n hn)) nofun
  have hgroupSum : r.optional "group_sum" false decodeBool = .ok a.groupSum :=
    hstates.flag (by simp [List.lookup_append])
  have hgroupAvg : r.optional "group_avg" false decodeBool = .ok a.groupAvg :=
    hstates.flag (by simp [List.lookup_append])
  have hgroupMin : r.optional "group_min" false decodeBool = .ok a.groupMin :=
    hstates.flag (by simp [List.lookup_append])
  have hgroupMax : r.optional "group_max" false decodeBool = .ok a.groupMax :=
    hstates.flag (by simp [List.lookup_append])
  unfold decodeAttributes
  simp only [hr, hsequenceNo, hcaption, hdataType, hwidth, hformat, hhide, hpinned, hgroupable,
    hgroupBySeq, hgroupSum, hgroupAvg, hgroupMin, hgroupMax, bind, Except.bind, pure, Except.pure]

/-! ## Definitions -/

theorem decodeControl_asRead (rules : Rules) (c : Control) :
    decodeName rules Control.name Control.all (Tree.text c.name).asRead = .ok c :=
  decodeName_asRead (by cases c <;> decide) rules

theorem decodeDefinition_asRead (rules : Rules) {d : Definition} (h : d.Exact) :
    decodeDefinition rules (encodeDefinition d).asRead = .ok d := by
  -- Options are left out as other fields are, if there are none of them.
  obtain ⟨written, hwritten⟩ : ∃ written : Option (List ListOption),
      written = if d.options.isEmpty then none else some d.options := ⟨_, rfl⟩
  have hlast : (if d.options.isEmpty then []
      else field "list_values" (.ofItems (d.options.map encodeListOption)))
        = fieldIfSome "list_values" (fun os => .ofItems (os.map encodeListOption)) written := by
    rw [hwritten]
    cases d.options.isEmpty <;> rfl
  obtain ⟨r, hr, hstates⟩ := record_written rules (rfl : encodeDefinition d = .ofMembers _)
    (by decide : definitionFields.Nodup) (by
      rw [hlast, ← List.append_nil (fieldIfSome "list_values" _ _)]
      simp only [List.append_assoc]
      repeat first | refine keys_field ?_ | refine keys_fieldIfSome ?_
      exact List.Sublist.refl _)
  rw [hlast] at hstates
  have hcolumn : r.required "column" decodeText = .ok d.column :=
    hstates.required (by simp [List.lookup_append]) (decodeText_asRead _)
  have hcaption : r.required "caption" decodeText = .ok d.caption :=
    hstates.required (by simp [List.lookup_append]) (decodeText_asRead _)
  have hdataType : r.optional "data_type" .string (decodeDataType rules) = .ok d.dataType :=
    hstates.optional (by simp [List.lookup_append]) (decodeDataType_asRead rules _)
  have hcontrol : r.optional "control_type" .text (decodeName rules Control.name Control.all)
      = .ok d.control :=
    hstates.optional (by simp [List.lookup_append]) (decodeControl_asRead rules _)
  have hpriority : r.optional "ui_priority" 1 (decodeInt (-Int.pow 2 31) (Int.pow 2 31))
      = .ok d.priority :=
    hstates.optional (by simp [List.lookup_append]) (decodeInt_asRead h.priority)
  have hdefault : r.optional "default_value" .null decodeValue = .ok d.defaultValue :=
    hstates.optional (by simp [List.lookup_append]) (decodeValue_asRead h.defaultValue)
  have hordered : r.optional "ordered_list" false decodeBool = .ok d.ordered :=
    hstates.flag (by simp [List.lookup_append])
  have hsource : r.optional "list_def" none (maybe decodeSource) = .ok d.source :=
    hstates.maybe (by simp [List.lookup_append])
      (fun s hs => decodeSource_asRead (h.source s hs)) fun s => by cases s <;> nofun
  have hoptions : r.optional "list_values" [] (decodeItems (decodeListOption rules))
      = .ok d.options := by
    cases hnone : d.options with
    | nil =>
        rw [hnone] at hwritten
        exact hstates.default (by simp [List.lookup_append, hwritten])
    | cons o os =>
        rw [hnone] at hwritten
        refine hstates.optional (by simp [List.lookup_append, hwritten]; rfl)
          (decodeItems_asRead ?_)
        rw [← hnone]
        exact fun o ho => decodeListOption_asRead rules (h.options o ho)
  unfold decodeDefinition
  simp only [hr, hcolumn, hcaption, hdataType, hcontrol, hpriority, hdefault, hordered, hsource,
    hoptions, bind, Except.bind, pure, Except.pure]

/-! ## Saved reports -/

theorem decodeColumnMatch_asRead (rules : Rules) (m : ColumnMatch) :
    decodeName rules ColumnMatch.label ColumnMatch.all (Tree.text m.label).asRead = .ok m :=
  decodeName_asRead (by cases m <;> decide) rules

/-- A field that is null where it holds nothing. -/
theorem maybe_encodeOption {decode : Node → Except DecodeFault α} {encode : α → Tree}
    {o : Option α} (ho : ∀ a ∈ o, decode (encode a).asRead = .ok a)
    (hnull : ∀ a, encode a ≠ .null) : maybe decode (encodeOption encode o).asRead = .ok o := by
  cases o with
  | none => exact maybe_null decode
  | some a => exact maybe_asRead (ho a rfl) (hnull a)

theorem decodeColumn_asRead (rules : Rules) (name : String) {a : Attributes} (h : a.Exact) :
    decodeColumn rules (.ofText name, (encodeAttributes a).asRead) = .ok (name, a) := by
  have hname : decodeText (.ofText name) = .ok name := rfl
  unfold decodeColumn
  simp only [hname, decodeAttributes_asRead rules h, bind, Except.bind, pure, Except.pure]

theorem decodeColumns_asRead (rules : Rules) {columns : List (String × Attributes)}
    (h : ∀ entry ∈ columns, entry.2.Exact)
    (hordered : (columns.map Prod.fst).Pairwise (· < ·)) :
    decodeColumns rules
      (Tree.ofMembers (columns.map fun (name, a) => (name, encodeAttributes a))).asRead
        = .ok columns := by
  show sortColumns <$> (Members.ofList _).asRead.toList.mapM (decodeColumn rules) = _
  rw [Members.toList_asRead, List.map_map, mapM_map_ok]
  · exact congrArg Except.ok (sortColumns_ordered hordered)
  · exact fun entry hentry => decodeColumn_asRead rules entry.1 (h entry hentry)

/-- A saved report is read as it was written, unless its settings nest too deeply. -/
theorem decode_asRead (rules : Rules) {saved : Report} (h : saved.Exact) :
    decode rules (encode saved).asRead
      = if saved.settings.depth ≤ rules.depth then .ok saved else .error .tooDeep := by
  obtain ⟨r, hr, hstates⟩ := record_written rules (rfl : encode saved = .ofMembers _)
    (by decide : reportFields.Nodup) (by
      simp only [List.append_assoc]
      repeat refine keys_field ?_
      exact List.Sublist.refl _)
  have hcaption : r.optional "caption" none (maybe decodeText) = .ok saved.caption :=
    hstates.optional (by simp [List.lookup_append]) (maybe_encodeOption
      (fun _ _ => decodeText_asRead _) nofun)
  have hsql : r.required "sql" decodeText = .ok saved.sql :=
    hstates.required (by simp [List.lookup_append]) (decodeText_asRead _)
  have hlimit : r.optional "limit" none (maybe (decodeNat 64)) = .ok saved.limit :=
    hstates.optional (by simp [List.lookup_append]) (maybe_encodeOption
      (fun n hn => decodeNat_encodeNat (h.limit n hn)) nofun)
  have hoffset : r.optional "offset" none (maybe (decodeNat 64)) = .ok saved.offset :=
    hstates.optional (by simp [List.lookup_append]) (maybe_encodeOption
      (fun n hn => decodeNat_encodeNat (h.offset n hn)) nofun)
  have hcolumnMatch : r.optional "column_match" .name
      (decodeName rules ColumnMatch.label ColumnMatch.all) = .ok saved.columnMatch :=
    hstates.optional (by simp [List.lookup_append]) (decodeColumnMatch_asRead rules _)
  have hcolumns : r.optional "columns" [] (decodeColumns rules) = .ok saved.columns :=
    hstates.optional (by simp [List.lookup_append])
      (decodeColumns_asRead rules h.columns h.columns_ordered)
  have hdefinitions : r.optional "query_parameter_definitions" []
      (decodeItems (decodeDefinition rules)) = .ok saved.definitions :=
    hstates.optional (by simp [List.lookup_append]) (decodeItems_asRead fun d hd =>
      decodeDefinition_asRead rules (h.definitions d hd))
  -- Of a written form only the settings may be refused, since only they nest without a bound.
  have hsettings : r.optional "external_settings" (.object .nil) (decodeTree rules)
      = if saved.settings.depth ≤ rules.depth then .ok saved.settings else .error .tooDeep := by
    have hfield : r.find? "external_settings" = some saved.settings.asRead := by
      rw [hstates]
      simp [List.lookup_append]
    rw [Record.optional, hfield]
    exact decodeTree_asRead rules h.settings h.settings_ordered
  unfold decode
  simp only [hr, hcaption, hsql, hlimit, hoffset, hsettings, hcolumnMatch, hcolumns, hdefinitions,
    bind, Except.bind, pure, Except.pure]
  split_ifs <;> rfl

/-! ## The text of a saved report -/

theorem integral_encodeNat {n : Nat} (h : n < 2 ^ 64) : (encodeNat n).integral = true := by
  have hleast : Int.pow 2 63 = 9223372036854775808 := by decide +kernel
  have hlimit : Int.pow 2 64 = 18446744073709551616 := by decide +kernel
  refine Tree.integral_int.mpr ?_
  rw [hleast, hlimit]
  omega

theorem integral_encodeValue {v : Value} (h : v.integral = true) :
    (encodeValue v).integral = true := by
  cases v with
  | int n =>
      rw [Value.integral, Decimal.fitsInt64, Bool.and_eq_true, decide_eq_true_eq,
        decide_eq_true_eq] at h
      have hlimit : Int.pow 2 63 ≤ Int.pow 2 64 := by decide +kernel
      exact Tree.integral_int.mpr ⟨h.1, Int.lt_of_lt_of_le h.2 hlimit⟩
  | float x => cases h
  | _ => rfl

theorem integral_encodeSource {s : ListSource} (h : s.integral = true) :
    (encodeSource s).integral = true := by
  cases s with
  | query sql => rfl
  | values vs =>
      exact Tree.integral_items fun v hv => integral_encodeValue (List.all_eq_true.mp h v hv)
  | mapping ps =>
      exact Tree.integral_members fun p hp => integral_encodeValue (List.all_eq_true.mp h p hp)

/-- The fields of a record, each on its own. -/
theorem integral_field (key : String) (t : Tree) :
    ((field key t).all fun entry => entry.2.integral) = t.integral :=
  Bool.and_true _

theorem integral_fieldIfSome {encode : α → Tree} {o : Option α}
    (h : ∀ a ∈ o, (encode a).integral = true) (key : String) :
    ((fieldIfSome key encode o).all fun entry => entry.2.integral) = true := by
  cases o with
  | none => rfl
  | some a => exact (integral_field key (encode a)).trans (h a rfl)

theorem integral_encodeOption {encode : α → Tree} {o : Option α}
    (h : ∀ a ∈ o, (encode a).integral = true) : (encodeOption encode o).integral = true := by
  cases o with
  | none => rfl
  | some a => exact h a rfl

theorem integral_encodeAttributes {a : Attributes} (h : a.Exact) :
    (encodeAttributes a).integral = true := by
  have hsmall : ∀ {n : Nat}, n < 2 ^ 32 → (encodeNat n).integral = true := fun hn =>
    integral_encodeNat (Nat.lt_trans hn (by decide))
  have hwidth := integral_fieldIfSome (fun n hn => hsmall (h.width n hn)) "width"
  have hformat := integral_fieldIfSome (fun s (_ : s ∈ a.format) => Tree.integral_text s) "format"
  have hgroupBySeq := integral_fieldIfSome (fun n hn => hsmall (h.groupBySeq n hn)) "group_by_seq"
  simp only [encodeAttributes, Tree.integral_ofMembers, List.all_append, integral_field, hwidth,
    hformat, hgroupBySeq, integral_encodeNat h.sequenceNo, Tree.integral_text, Tree.integral_bool,
    Bool.and_true]

theorem integral_encodeDefinition {d : Definition} (h : d.Exact) :
    (encodeDefinition d).integral = true := by
  have hpriority : (Tree.int d.priority).integral = true := by
    obtain ⟨hleast, hlimit⟩ := h.priority
    have hless : -Int.pow 2 63 ≤ -Int.pow 2 31 ∧ Int.pow 2 31 ≤ Int.pow 2 64 := by decide +kernel
    exact Tree.integral_int.mpr ⟨Int.le_trans hless.1 hleast, Int.lt_of_lt_of_le hlimit hless.2⟩
  have hsource := integral_fieldIfSome (fun s hs => integral_encodeSource (h.source s hs))
    "list_def"
  have hoptions : ((if d.options.isEmpty then []
      else field "list_values" (.ofItems (d.options.map encodeListOption))).all
        fun entry => entry.2.integral) = true := by
    split
    · rfl
    · rw [integral_field]
      refine Tree.integral_items fun o ho => ?_
      have hvalue := integral_encodeValue (h.options o ho)
      simp only [encodeListOption, Tree.integral_ofMembers, List.all_cons, Tree.integral_text,
        hvalue, List.all_nil, Bool.and_true]
  simp only [encodeDefinition, Tree.integral_ofMembers, List.all_append, integral_field, hpriority,
    integral_encodeValue h.defaultValue, hsource, hoptions, Tree.integral_text, Tree.integral_bool,
    Bool.and_true]

theorem integral_encode {saved : Report} (h : saved.Exact) : (encode saved).integral = true := by
  have hcolumns : (Tree.ofMembers
      (saved.columns.map fun (name, a) => (name, encodeAttributes a))).integral = true :=
    Tree.integral_members fun entry hentry => integral_encodeAttributes (h.columns entry hentry)
  have hdefinitions : (Tree.ofItems (saved.definitions.map encodeDefinition)).integral = true :=
    Tree.integral_items fun d hd => integral_encodeDefinition (h.definitions d hd)
  have hcaption := integral_encodeOption (fun s (_ : s ∈ saved.caption) => Tree.integral_text s)
  have hlimit : (encodeOption encodeNat saved.limit).integral = true :=
    integral_encodeOption fun n hn => integral_encodeNat (h.limit n hn)
  have hoffset : (encodeOption encodeNat saved.offset).integral = true :=
    integral_encodeOption fun n hn => integral_encodeNat (h.offset n hn)
  simp only [encode, Tree.integral_ofMembers, List.all_append, integral_field, hcaption, hlimit,
    hoffset, h.settings, hcolumns, hdefinitions, Tree.integral_text, Bool.and_true]

/-- The JSON of a saved report without floats is read as the saved report again, unless its settings
nest too deeply. -/
theorem decode_json {saved : Report} (h : saved.Exact) :
    (Json.read? (Json.print (encode saved))).map (decode jsonRules)
      = some (if saved.settings.depth ≤ 126 then .ok saved else .error .tooDeep) := by
  rw [Json.read_print (integral_encode h), Option.map_some, decode_asRead jsonRules h]
  rfl

/-- A saved report without floats comes back from its JSON if its settings nest at most 126 levels
deep. -/
theorem json_restored {saved : Report} (h : saved.Exact) (hdepth : saved.settings.depth ≤ 126) :
    (Json.read? (Json.print (encode saved))).map (decode jsonRules) = some (.ok saved) := by
  rw [decode_json h, if_pos hdepth]

/-- A saved report with texts that look like something else, the greatest numbers, and labels that
are empty, repeated and in no order. -/
def varied : Report where
  caption := some "null"
  sql := "SELECT \"a\\\"\n\x01"
  limit := some 18446744073709551615
  offset := none
  settings := .object
    (.cons "" (.array (.cons (.int (-9223372036854775808)) (.cons (.text "1.0") .nil)))
    (.cons "a" (.object .nil) .nil))
  columnMatch := .fingerprint
  columns := [("", {}), ("x", { sequenceNo := 1, caption := "true", width := some 4294967295 })]
  definitions := [{ Definition.new "x" with
    source := some (.mapping [("b", .text "1"), ("", .null), ("b", .bool true), ("a", .int (-1))])
    options := [⟨"", .text "null"⟩, ⟨"", .int 9223372036854775807⟩] }]

theorem json_restored_varied : varied.Exact ∧ varied.settings.depth ≤ 126
    ∧ (Json.read? (Json.print (encode varied))).map (decode jsonRules) = some (.ok varied) := by
  have hexact : varied.Exact := {
    limit := by decide +kernel
    offset := nofun
    settings := by decide +kernel
    settings_ordered := by decide +kernel
    columns := List.forall_mem_cons.mpr ⟨⟨by decide, nofun, nofun⟩,
      List.forall_mem_singleton.mpr ⟨by decide, by decide, nofun⟩⟩
    columns_ordered := by decide +kernel
    definitions := List.forall_mem_singleton.mpr
      ⟨by decide +kernel, rfl, by decide +kernel, by decide +kernel⟩ }
  exact ⟨hexact, by decide, json_restored hexact (by decide)⟩

/-- Objects within objects. -/
def nested : Nat → Tree
  | 0 => .object .nil
  | n + 1 => .object (.cons "a" (nested n) .nil)

theorem depth_nested (n : Nat) : (nested n).depth = n + 1 := by
  induction n with
  | zero => rfl
  | succ n ih =>
      show max (nested n).depth 0 + 1 = _
      rw [ih]
      rfl

theorem integral_nested (n : Nat) : (nested n).integral = true ∧ (nested n).ordered = true := by
  induction n with
  | zero => exact ⟨rfl, rfl⟩
  | succ n ih =>
      simp [nested, Tree.integral, Members.integral, Tree.ordered, Members.ordered, Members.toList,
        ih]

/-- The levels of the settings count on from the saved report itself, so 127 of them are too many
already. -/
theorem json_too_deep : ∃ saved : Report, saved.Exact ∧ saved.settings.depth < 128
    ∧ (Json.read? (Json.print (encode saved))).map (decode jsonRules)
      = some (.error .tooDeep) := by
  let saved : Report := {
    caption := none
    sql := ""
    limit := none
    offset := none
    settings := nested 126
    columnMatch := .name
    columns := []
    definitions := [] }
  have hdepth : saved.settings.depth = 127 := depth_nested 126
  have hexact : saved.Exact := {
    limit := nofun
    offset := nofun
    settings := (integral_nested 126).1
    settings_ordered := (integral_nested 126).2
    columns := fun _ hentry => absurd hentry List.not_mem_nil
    columns_ordered := .nil
    definitions := fun _ hd => absurd hd List.not_mem_nil }
  refine ⟨saved, hexact, by omega, ?_⟩
  rw [decode_json hexact, if_neg (by omega)]

end Saved

end QueryReport
