import QueryReport.Sql.Render

/-!
# `QueryReport.Proofs.Sql.Leaves`: what a query is written with

The text of a query is made of keywords, blanks, marks and counts, which never have quotes in them,
and of names, constants and other texts that the query has in it.  `Query.leaves` are the latter, in
the order in which they stand in the text; what the text leaves out is no leaf.

A sequence has one list for each of its entries, as it has one text for each in `Exprs.texts` and
its companions.
-/

set_option autoImplicit false

namespace QueryReport.Sql

/-- What stands in the text of a query because it is in the query: a name, a constant, or a text as
it is. -/
inductive Leaf where
  | name (i : Ident)
  | literal (l : Literal)
  | raw (text : String)
deriving DecidableEq, Repr

def Leaf.text : Leaf → String
  | .name i => i.text
  | .literal l => l.text
  | .raw s => s

/-! ## Outside of the family -/

def Path.leaves (p : Path) : List Leaf := p.map .name

def TypeSize.leaves : TypeSize → List Leaf
  | .counted _ unit => [.raw unit]
  | .unstated | .length _ | .scaled _ _ | .max => []

def LabelValue.leaves (v : LabelValue) : List Leaf :=
  match v.number with
  | none => [.literal (.string v.label)]
  | some n => [.literal (.string v.label), .raw n]

def SqlType.leaves : SqlType → List Leaf
  | .builtin name size _ => .raw name :: size.leaves
  | .temporal name _ _ => [.raw name]
  | .fixedZone name _ none => [.raw name]
  | .fixedZone name _ (some zone) => [.raw name, .raw ("'" ++ zone ++ "'")]
  | .labels name values => .raw name :: (values.map LabelValue.leaves).flatten
  | .custom name modifiers => Path.leaves name ++ modifiers.map .raw
  | .array element _ => element.leaves
  | .angleArray element => element.leaves

def BinaryOp.leaves : BinaryOp → List Leaf
  | .or | .and | .xor => []
  | .symbol s => [.raw s]
  | .named path => path.map .raw

def CastFormat.leaves (f : CastFormat) : List Leaf :=
  match f.zone with
  | none => [.literal f.value]
  | some z => [.literal f.value, .literal z]

def DateField.leaf : DateField → Leaf
  | .known name => .raw name
  | .custom name => .name name

def RoundTarget.leaves : RoundTarget → List Leaf
  | .unit => []
  | .field f => [f.leaf]
  | .scale n long => [.literal (.number n long)]

def IntervalUnits.leaves (u : IntervalUnits) : List Leaf :=
  match u.leading, u.leadingPrecision, u.fractionPrecision with
  -- Seconds with both precisions are written by themselves.
  | some (.known "SECOND"), some _, some _ => []
  | leading, _, _ =>
    (match leading with | none => [] | some l => [l.leaf])
    ++ (match u.last with | none => [] | some l => [l.leaf])

/-- The leaves of one end of a frame with the distances that are left after it. -/
def FrameBound.leaves : FrameBound → List (List Leaf) → List Leaf × List (List Leaf)
  | .preceding, d :: ds => (d, ds)
  | .following, d :: ds => (d, ds)
  | _, ds => ([], ds)

def Frame.leaves (f : Frame) (distances : List (List Leaf)) : List Leaf :=
  let (first, rest) := f.first.leaves distances
  match f.last with
  | none => first
  | some last => first ++ (last.leaves rest).1

def Fetch.leaves (f : Fetch) : List Leaf :=
  match f.quantity with
  | none => []
  | some q => [.literal q]

def Lock.leaves (l : Lock) : List Leaf :=
  match l.of with
  | none => []
  | some p => Path.leaves p

def namedLeaves : Option String → List Leaf
  | none => []
  | some name => [.raw ("'" ++ name ++ "'")]

def XmlShape.leaves : XmlShape → List Leaf
  | .raw name | .path name => namedLeaves name
  | .auto | .explicit => []

def ResultForm.leaves : ResultForm → List Leaf
  | .browse => []
  | .json _ root _ _ => namedLeaves root
  | .xml shape _ _ root _ => shape.leaves ++ namedLeaves root

def AliasColumn.leaves (c : AliasColumn) : List Leaf :=
  match c.type with
  | none => [.name c.name]
  | some t => .name c.name :: t.leaves

def TableAlias.leaves (a : TableAlias) : List Leaf :=
  .name a.name :: (a.columns.map AliasColumn.leaves).flatten

def labelLeaves : Option TableAlias → List Leaf
  | none => []
  | some a => a.leaves

def OpenJsonColumn.leaves (c : OpenJsonColumn) : List Leaf :=
  .name c.name :: c.type.leaves
  ++ (match c.place with | none => [] | some p => [.literal (.string p)])

def JsonDefault.leaves : JsonDefault → List Leaf
  | .null | .error => []
  | .value v => [.literal v]

def JsonColumn.leaves (c : JsonColumn) : List Leaf :=
  .name c.name :: c.type.leaves ++ [.literal c.place]
  ++ (match c.onEmpty with | none => [] | some d => d.leaves)
  ++ (match c.onError with | none => [] | some d => d.leaves)

def JsonColumns.leaves : JsonColumns → List (List Leaf)
  | .nil => []
  | .ordinality name rest => [.name name] :: rest.leaves
  | .value column rest => column.leaves :: rest.leaves
  | .nested place columns rest => (.literal place :: columns.leaves.flatten) :: rest.leaves

def ConflictTarget.leaves : ConflictTarget → List Leaf
  | .any => []
  | .columns names => names.map .name
  | .constraint name => Path.leaves name

def AssignmentTarget.leaves : AssignmentTarget → List Leaf
  | .column name => Path.leaves name
  | .row names => (names.map Path.leaves).flatten

def InsertShape.leaves (s : InsertShape) : List Leaf :=
  Path.leaves s.name ++ (match s.label with | none => [] | some l => [.name l])
  ++ s.columns.map .name

/-! ## The family -/

mutual

def Expr.leaves : Expr → List Leaf
  | .column name => [.name name]
  | .path parts => Path.leaves parts
  | .star => []
  | .everyColumn relation => Path.leaves relation
  | .literal value => [.literal value]
  | .typedText type text => type.leaves ++ [.literal (.string text)]
  | .introduced charset value => [.raw charset, .literal value]
  | .call call => call.leaves
  | .named name _ value => name.leaves ++ value.leaves
  | .nested inner => inner.leaves
  | .tuple items => items.leaves.flatten
  | .array _ items => items.leaves.flatten
  | .subquery query => query.leaves
  | .exist _ query => query.leaves
  | .unary _ operand => operand.leaves
  | .binary left op right => left.leaves ++ op.leaves ++ right.leaves
  | .quantified left op _ right => left.leaves ++ op.leaves ++ right.leaves
  | .nullTest operand _ => operand.leaves
  | .truthTest operand _ _ => operand.leaves
  | .distinctTest left _ right => left.leaves ++ right.leaves
  | .inList operand _ items => operand.leaves ++ items.leaves.flatten
  | .inQuery operand _ query => operand.leaves ++ query.leaves
  | .inUnnest operand _ items => operand.leaves ++ items.leaves
  | .between operand _ low high => operand.leaves ++ low.leaves ++ high.leaves
  | .pattern operand _ _ _ pattern escape =>
    operand.leaves ++ pattern.leaves
    ++ (match escape with | none => [] | some c => [.raw ("'" ++ c ++ "'")])
  | .regexp operand _ _ pattern => operand.leaves ++ pattern.leaves
  | .cast .colons operand type _ => operand.leaves ++ type.leaves
  | .cast _ operand type format =>
    operand.leaves ++ type.leaves ++ (match format with | none => [] | some f => f.leaves)
  | .convert operand type charset =>
    operand.leaves
    ++ (match type, charset with
        | some t, some c => t.leaves ++ Path.leaves c
        | some t, none => t.leaves
        | none, some c => Path.leaves c
        | none, none => [])
  | .case operand branches otherwise => operand.leaves ++ branches.leaves ++ otherwise.leaves
  | .extract field operand => field.leaf :: operand.leaves
  | .round _ operand target => operand.leaves ++ target.leaves
  | .position part whole => part.leaves ++ whole.leaves
  | .substring operand start length _ => operand.leaves ++ start.leaves ++ length.leaves
  | .trim operand _ characters => characters.leaves ++ operand.leaves
  | .overlay operand replacement start length =>
    operand.leaves ++ replacement.leaves ++ start.leaves ++ length.leaves
  | .interval value units => value.leaves ++ units.leaves
  | .collate operand collation => operand.leaves ++ Path.leaves collation
  | .atTimeZone operand zone => operand.leaves ++ zone.leaves
  | .subscript operand index => operand.leaves ++ index.leaves
  | .slice operand lower upper stride =>
    operand.leaves ++ lower.leaves ++ upper.leaves ++ stride.leaves
  | .field operand name => operand.leaves ++ [.name name]
  | .groupingSets rows => rows.leaves.flatten
  | .cube rows => rows.leaves.flatten
  | .rollup rows => rows.leaves.flatten

def MaybeExpr.leaves : MaybeExpr → List Leaf
  | .none => []
  | .some e => e.leaves

def MaybeQuery.leaves : MaybeQuery → List Leaf
  | .none => []
  | .some q => q.leaves

def Exprs.leaves : Exprs → List (List Leaf)
  | .nil => []
  | .cons e es => e.leaves :: es.leaves

def Branches.leaves : Branches → List Leaf
  | .nil => []
  | .cons condition result rest => condition.leaves ++ result.leaves ++ rest.leaves

def Call.leaves : Call → List Leaf
  | ⟨name, _, args, withinGroup, filter, _, window⟩ =>
    Path.leaves name ++ args.leaves ++ withinGroup.leaves.flatten ++ filter.leaves ++ window.leaves

def CallArgs.leaves : CallArgs → List Leaf
  | .absent => []
  | .subquery query => query.leaves
  | .list _ _ args order limit overflow _ =>
    args.leaves.flatten ++ (order.leaves.flatten ++ limit.leaves ++ overflow.leaves.flatten)

def Overflow.leaves : Overflow → List (List Leaf)
  | .unstated => []
  | .error => [[]]
  | .truncate filler _ => [filler.leaves]

def Over.leaves : Over → List Leaf
  | .none => []
  | .named name => [.name name]
  | .window base partition order frame distances =>
    (match base with | none => [] | some b => [.name b])
    ++ partition.leaves.flatten ++ order.leaves.flatten
    ++ (match frame with | none => [] | some f => f.leaves distances.leaves)

def OrderKeys.leaves : OrderKeys → List (List Leaf)
  | .nil => []
  | .cons e _ _ rest => e.leaves :: rest.leaves

def Query.leaves : Query → List Leaf
  | ⟨_, tables, body, order, limit, offset, _, fetch, locks, form⟩ =>
    tables.leaves.flatten ++ body.leaves ++ order.leaves.flatten ++ limit.leaves ++ offset.leaves
    ++ (match fetch with | none => [] | some f => f.leaves)
    ++ (locks.map Lock.leaves).flatten
    ++ (match form with | none => [] | some f => f.leaves)

def CommonTables.leaves : CommonTables → List (List Leaf)
  | .nil => []
  | .cons label _ query source rest =>
    (label.leaves ++ query.leaves ++ (match source with | none => [] | some s => [.name s]))
      :: rest.leaves

def Body.leaves : Body → List Leaf
  | .select s => s.leaves
  | .query q => q.leaves
  | .values _ rows => rows.leaves.flatten
  | .table none name => [.raw name]
  | .table (some schema) name => [.raw schema, .raw name]
  | .setOp left _ _ right => left.leaves ++ right.leaves
  | .insert shape partition rows existing returning =>
    shape.leaves ++ partition.leaves.flatten ++ rows.leaves ++ existing.leaves
    ++ returning.leaves.flatten
  | .insertFiles _ _ directory format rows =>
    [.raw ("'" ++ directory ++ "'")] ++ (match format with | none => [] | some f => [.raw f])
    ++ rows.leaves
  | .update _ table joins values sources filter returning =>
    table.leaves ++ joins.leaves ++ values.leaves.flatten ++ sources.leaves.flatten
    ++ filter.leaves ++ returning.leaves.flatten

def OnExisting.leaves : OnExisting → List Leaf
  | .unstated => []
  | .skip target => target.leaves
  | .update target values filter => target.leaves ++ values.leaves.flatten ++ filter.leaves
  | .updateDuplicates values => values.leaves.flatten

def Assignments.leaves : Assignments → List (List Leaf)
  | .nil => []
  | .cons target value rest => (target.leaves ++ value.leaves) :: rest.leaves

def Select.leaves : Select → List Leaf
  | ⟨word, distinctOn, top, topCount, targets, into, sources, lateralViews, filter, groupAll,
      groupBy, clusterBy, distributeBy, sortBy, having, windows, qualify, windowsFirst⟩ =>
    (match word with | .unstated | .distinct => [] | .on => distinctOn.leaves.flatten)
    ++ (match top with | .unstated | .count _ _ _ => [] | .computed _ _ => topCount.leaves)
    ++ targets.leaves.flatten
    ++ (match into with | none => [] | some t => Path.leaves t.name)
    ++ sources.leaves.flatten ++ lateralViews.leaves ++ filter.leaves
    ++ (if groupAll then [] else groupBy.leaves.flatten)
    ++ clusterBy.leaves.flatten ++ distributeBy.leaves.flatten ++ sortBy.leaves.flatten
    ++ having.leaves
    ++ (if windowsFirst then windows.leaves.flatten ++ qualify.leaves
      else qualify.leaves ++ windows.leaves.flatten)

def SelectItems.leaves : SelectItems → List (List Leaf)
  | .nil => []
  | .cons e none rest => e.leaves :: rest.leaves
  | .cons e (some label) rest => (e.leaves ++ [.name label]) :: rest.leaves

def LateralViews.leaves : LateralViews → List Leaf
  | .nil => []
  | .cons _ expr name columns rest =>
    expr.leaves ++ Path.leaves name ++ columns.map .name ++ rest.leaves

def NamedWindows.leaves : NamedWindows → List (List Leaf)
  | .nil => []
  | .cons name window rest => (.name name :: window.leaves) :: rest.leaves

def Sources.leaves : Sources → List (List Leaf)
  | .nil => []
  | .cons table joins rest => (table.leaves ++ joins.leaves) :: rest.leaves

def Joins.leaves : Joins → List Leaf
  | .nil => []
  | .cons shape table matching condition rest =>
    table.leaves ++ matching.leaves ++ condition.leaves
    ++ (match shape.shared with | none => [] | some columns => columns.map .name)
    ++ rest.leaves

def Table.leaves : Table → List Leaf
  | .named name _ label hints => Path.leaves name ++ labelLeaves label ++ hints.leaves.flatten
  | .called name args _ label hints =>
    Path.leaves name ++ args.leaves.flatten ++ labelLeaves label ++ hints.leaves.flatten
  | .derived _ query label => query.leaves ++ labelLeaves label
  | .lateralCall name args label => Path.leaves name ++ args.leaves.flatten ++ labelLeaves label
  | .tableOf expr label => expr.leaves ++ labelLeaves label
  | .unnest arrays _ label _ offsetLabel =>
    arrays.leaves.flatten ++ labelLeaves label
    ++ (match offsetLabel with | none => [] | some l => [.name l])
  | .nested table joins label => table.leaves ++ joins.leaves ++ labelLeaves label
  | .jsonTable value place columns label =>
    value.leaves ++ [.literal place] ++ columns.leaves.flatten ++ labelLeaves label
  | .openJson value place columns label =>
    value.leaves ++ (match place with | none => [] | some p => [.literal p])
    ++ (columns.map OpenJsonColumn.leaves).flatten ++ labelLeaves label
  | .pivot table aggregates column values otherwise label =>
    table.leaves ++ aggregates.leaves.flatten ++ Path.leaves column ++ values.leaves
    ++ otherwise.leaves ++ labelLeaves label
  | .unpivot table value name columns label =>
    table.leaves ++ [.name value] ++ [.name name] ++ columns.map .name ++ labelLeaves label

def PivotValues.leaves : PivotValues → List Leaf
  | .any order => order.leaves.flatten
  | .query query => query.leaves
  | .list values => values.leaves.flatten

end

end QueryReport.Sql
