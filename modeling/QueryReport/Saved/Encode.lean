import QueryReport.Saved.Form

/-!
# Writing saved reports

The document of a saved report: the fields in a fixed order, some of them left out when they hold
nothing.
-/

namespace QueryReport.Saved

open Document QueryReport.Filter

/-- A field that is always written. -/
def field (key : String) (value : Tree) : List (String × Tree) := [(key, value)]

/-- A field that is left out when it holds nothing. -/
def fieldIfSome {α : Type} (key : String) (encode : α → Tree) : Option α → List (String × Tree)
  | none => []
  | some a => [(key, encode a)]

def encodeNat (n : Nat) : Tree := .int n

/-- A value or null. -/
def encodeOption {α : Type} (encode : α → Tree) : Option α → Tree
  | none => .null
  | some a => encode a

def encodeValue : Value → Tree
  | .null => .null
  | .bool b => .bool b
  | .int n => .int n
  | .float x => .float x
  | .text s => .text s

def encodeSource : ListSource → Tree
  | .query sql => .text sql
  | .values vs => .ofItems (vs.map encodeValue)
  | .mapping ps => .ofMembers (ps.map fun (label, v) => (label, encodeValue v))

def encodeListOption (o : ListOption) : Tree :=
  .ofMembers [("label", .text o.label), ("value", encodeValue o.value)]

def encodeAttributes (a : Attributes) : Tree :=
  .ofMembers
    (field "sequence_no" (encodeNat a.sequenceNo)
      ++ field "caption" (.text a.caption)
      ++ field "data_type" (.text a.dataType.name)
      ++ fieldIfSome "width" encodeNat a.width
      ++ fieldIfSome "format" .text a.format
      ++ field "hide" (.bool a.hide)
      ++ field "pinned" (.bool a.pinned)
      ++ field "groupable" (.bool a.groupable)
      ++ fieldIfSome "group_by_seq" encodeNat a.groupBySeq
      ++ field "group_sum" (.bool a.groupSum)
      ++ field "group_avg" (.bool a.groupAvg)
      ++ field "group_min" (.bool a.groupMin)
      ++ field "group_max" (.bool a.groupMax))

def encodeDefinition (d : Definition) : Tree :=
  .ofMembers
    (field "column" (.text d.column)
      ++ field "caption" (.text d.caption)
      ++ field "data_type" (.text d.dataType.name)
      ++ field "control_type" (.text d.control.name)
      ++ field "ui_priority" (.int d.priority)
      ++ field "default_value" (encodeValue d.defaultValue)
      ++ field "ordered_list" (.bool d.ordered)
      ++ fieldIfSome "list_def" encodeSource d.source
      ++ (if d.options.isEmpty then []
          else field "list_values" (.ofItems (d.options.map encodeListOption))))

def encode (r : Report) : Tree :=
  .ofMembers
    (field "caption" (encodeOption .text r.caption)
      ++ field "sql" (.text r.sql)
      ++ field "limit" (encodeOption encodeNat r.limit)
      ++ field "offset" (encodeOption encodeNat r.offset)
      ++ field "external_settings" r.settings
      ++ field "column_match" (.text r.columnMatch.label)
      ++ field "columns"
        (.ofMembers (r.columns.map fun (name, a) => (name, encodeAttributes a)))
      ++ field "query_parameter_definitions" (.ofItems (r.definitions.map encodeDefinition)))

end QueryReport.Saved
