import QueryReport.Document.Decode
import QueryReport.Document.Shape
import QueryReport.Saved.Form

/-!
# Reading saved reports

The saved report that a document states.  Fields may be left out if there is something to assume
for them; fields that are not known are passed over.
-/

namespace QueryReport.Saved

open Document QueryReport.Filter

/-- What a document that is no collection stands for by itself. -/
def alone? : Node → Option Scalar
  | .scalar value _ => some value
  | .tagged tag _ => some tag.meaning
  | _ => none

/-- A scalar by itself.  An integer that does not fit is taken for a number of the other kind. -/
def decodeValue (n : Node) : Except DecodeFault Value :=
  match alone? n with
  | some .null => .ok .null
  | some (.bool b) => .ok (.bool b)
  | some (.int n) =>
    if Decimal.fitsInt64 n then .ok (.int n)
    else if 0 ≤ n && n < Int.pow 2 64 then .ok (.float (.ofInt n))
    else .error (.mismatch "a smaller integer")
  | some (.float x) => .ok (.float x)
  | some (.text s) => .ok (.text s)
  | _ => .error (.mismatch "a scalar")

/-- A label in a mapping: a key that is text by itself. -/
def decodeLabel (n : Node) : Except DecodeFault String :=
  match alone? n with
  | some (.text s) => .ok s
  | _ => .error (.mismatch "a label")

def decodePair : Node × Node → Except DecodeFault (String × Value)
  | (key, value) => do
    let label ← decodeLabel key
    let value ← decodeValue value
    pure (label, value)

def decodeSource (n : Node) : Except DecodeFault ListSource :=
  match n with
  | .array items => .values <$> items.toList.mapM decodeValue
  | .object members => .mapping <$> members.toList.mapM decodePair
  | n =>
    match alone? n with
    | some (.text s) => .ok (.query s)
    | _ => .error (.mismatch "a list source")

def optionFields : List String := ["label", "value"]

def decodeListOption (rules : Rules) (n : Node) : Except DecodeFault ListOption := do
  let r ← n.record rules optionFields
  let label ← r.required "label" decodeText
  let value ← r.required "value" decodeValue
  pure ⟨label, value⟩

def attributeFields : List String :=
  ["sequence_no", "caption", "data_type", "width", "format", "hide", "pinned", "groupable",
    "group_by_seq", "group_sum", "group_avg", "group_min", "group_max"]

def decodeDataType (rules : Rules) : Node → Except DecodeFault DataType :=
  decodeName rules DataType.name DataType.all

def decodeAttributes (rules : Rules) (n : Node) : Except DecodeFault Attributes := do
  let r ← n.record rules attributeFields
  let sequenceNo ← r.optional "sequence_no" 0 (decodeNat 64)
  let caption ← r.optional "caption" "" decodeText
  let dataType ← r.optional "data_type" .string (decodeDataType rules)
  let width ← r.optional "width" none (maybe (decodeNat 32))
  let format ← r.optional "format" none (maybe decodeText)
  let hide ← r.optional "hide" false decodeBool
  let pinned ← r.optional "pinned" false decodeBool
  let groupable ← r.optional "groupable" false decodeBool
  let groupBySeq ← r.optional "group_by_seq" none (maybe (decodeNat 32))
  let groupSum ← r.optional "group_sum" false decodeBool
  let groupAvg ← r.optional "group_avg" false decodeBool
  let groupMin ← r.optional "group_min" false decodeBool
  let groupMax ← r.optional "group_max" false decodeBool
  pure { sequenceNo, caption, dataType, width, format, hide, pinned, groupable, groupBySeq,
         groupSum, groupAvg, groupMin, groupMax }

def definitionFields : List String :=
  ["column", "caption", "data_type", "control_type", "ui_priority", "default_value",
    "ordered_list", "list_def", "list_values"]

def decodeDefinition (rules : Rules) (n : Node) : Except DecodeFault Definition := do
  let r ← n.record rules definitionFields
  let column ← r.required "column" decodeText
  let caption ← r.required "caption" decodeText
  let dataType ← r.optional "data_type" .string (decodeDataType rules)
  let control ← r.optional "control_type" .text (decodeName rules Control.name Control.all)
  let priority ← r.optional "ui_priority" 1 (decodeInt (-Int.pow 2 31) (Int.pow 2 31))
  let defaultValue ← r.optional "default_value" .null decodeValue
  let ordered ← r.optional "ordered_list" false decodeBool
  let source ← r.optional "list_def" none (maybe decodeSource)
  let options ← r.optional "list_values" [] (decodeItems (decodeListOption rules))
  pure { column, caption, dataType, control, priority, defaultValue, source, ordered, options }

def decodeColumn (rules : Rules) : Node × Node → Except DecodeFault (String × Attributes)
  | (key, value) => do
    let name ← decodeText key
    let attributes ← decodeAttributes rules value
    pure (name, attributes)

def decodeColumns (rules : Rules) (n : Node) : Except DecodeFault (List (String × Attributes)) :=
  match n.members? with
  | some members => sortColumns <$> members.mapM (decodeColumn rules)
  | none => .error (.mismatch "columns")

def reportFields : List String :=
  ["caption", "sql", "limit", "offset", "external_settings", "column_match", "columns",
    "query_parameter_definitions"]

def decode (rules : Rules) (n : Node) : Except DecodeFault Report := do
  let r ← n.record rules reportFields
  let caption ← r.optional "caption" none (maybe decodeText)
  let sql ← r.required "sql" decodeText
  let limit ← r.optional "limit" none (maybe (decodeNat 64))
  let offset ← r.optional "offset" none (maybe (decodeNat 64))
  let settings ← r.optional "external_settings" (.object .nil) (decodeTree rules)
  let columnMatch ← r.optional "column_match" .name
    (decodeName rules ColumnMatch.label ColumnMatch.all)
  let columns ← r.optional "columns" [] (decodeColumns rules)
  let definitions ← r.optional "query_parameter_definitions" []
    (decodeItems (decodeDefinition rules))
  pure { caption, sql, limit, offset, settings, columnMatch, columns, definitions }

/-- The parts of a document that its reading looks at. -/
def shape : Shape :=
  .ofFields reportFields
    [("columns", .each (.ofFields attributeFields [])),
      ("query_parameter_definitions", .each (.ofFields definitionFields
        [("list_values", .each (.ofFields optionFields []))]))]

/-- JSON writes a name also as the key of an object that holds null. -/
def jsonRules : Rules := ⟨some Node.isNull, .exact, 126⟩

def yamlRules : Rules := ⟨none, .never, 127⟩

end QueryReport.Saved
