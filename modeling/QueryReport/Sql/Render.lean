import QueryReport.Sql.Tree
import QueryReport.Text.Digits
import QueryReport.Text.Quoting

/-!
# Rendering a query as text

`Query.text` and its companions write a tree as SQL: keywords in upper case, single blanks, names
as they were written.  No parentheses are added; those that were written are nodes of the tree.
-/

namespace QueryReport.Sql

open QueryReport.Text

/-- Texts with a comma and a blank between them. -/
def commas (texts : List String) : String := ", ".intercalate texts

/-- A word with a blank after it, or nothing. -/
def wordIf (present : Bool) (word : String) : String := if present then word ++ " " else ""

/-- A word with a blank before it, or nothing. -/
def tailIf (present : Bool) (word : String) : String := if present then " " ++ word else ""

/-! ## Leaves -/

def Ident.text (i : Ident) : String :=
  match i.quote with
  | none => i.value
  | some q => printQuoted q i.value

def Path.text (p : Path) : String := ".".intercalate (p.map Ident.text)

/-- The parts of a dotted name without their quotes. -/
def Path.plain (p : Path) : String := ".".intercalate (p.map Ident.value)

/-- One character of an `E'…'` text. -/
def escapedChar : Char → String
  | '\'' => "\\'"
  | '\\' => "\\\\"
  | '\n' => "\\n"
  | '\t' => "\\t"
  | '\r' => "\\r"
  | c => c.toString

/-- One character of a `U&'…'` text. -/
def unicodeChar (c : Char) : String :=
  if c = '\'' then "''"
  else if c = '\\' then "\\\\"
  else if c.toNat < 128 then c.toString
  else if c.toNat ≤ 0xFFFF then "\\" ++ String.ofList (Text.hexDigits 4 c.toNat)
  else "\\+" ++ String.ofList (Text.hexDigits 6 c.toNat)

def Literal.text : Literal → String
  | .number digits long => digits ++ (if long then "L" else "")
  | .string s => printQuoted '\'' s
  | .escaped s => "E'" ++ String.join (s.toList.map escapedChar) ++ "'"
  | .unicode s => "U&'" ++ String.join (s.toList.map unicodeChar) ++ "'"
  | .national s => "N'" ++ s ++ "'"
  | .hex s => "X'" ++ s ++ "'"
  | .bits s => "B'" ++ s ++ "'"
  | .doubleBits s => "B\"" ++ s ++ "\""
  | .doubleQuoted s => printQuoted '"' s
  | .dollar none s => "$$" ++ s ++ "$$"
  | .dollar (some tag) s => "$" ++ tag ++ "$" ++ s ++ "$" ++ tag ++ "$"
  | .boolean b => if b then "true" else "false"
  | .null => "NULL"
  | .placeholder s => s

def TypeSize.text : TypeSize → String
  | .unstated => ""
  | .length n => s!"({n})"
  | .scaled p s => s!"({p},{s})"
  | .counted n unit => s!"({n} {unit})"
  | .max => "(MAX)"

/-- The precision of a time type. -/
def precisionText : Option Nat → String
  | none => ""
  | some n => s!"({n})"

def LabelValue.text (v : LabelValue) : String :=
  match v.number with
  | none => printQuoted '\'' v.label
  | some n => printQuoted '\'' v.label ++ " = " ++ n

def SqlType.text : SqlType → String
  | .builtin name size unsigned => name ++ size.text ++ (if unsigned then " UNSIGNED" else "")
  | .temporal name p .unstated => name ++ precisionText p
  | .temporal name p .included => name ++ precisionText p ++ " WITH TIME ZONE"
  | .temporal name p .excluded => name ++ precisionText p ++ " WITHOUT TIME ZONE"
  | .temporal name p .short => name ++ "TZ" ++ precisionText p
  | .fixedZone name p none => name ++ s!"({p})"
  | .fixedZone name p (some zone) => name ++ s!"({p}, '" ++ zone ++ "')"
  | .labels name values => name ++ "(" ++ commas (values.map LabelValue.text) ++ ")"
  | .custom name [] => name.text
  | .custom name modifiers => name.text ++ "(" ++ commas modifiers ++ ")"
  | .array element none => element.text ++ "[]"
  | .array element (some n) => element.text ++ s!"[{n}]"
  | .angleArray element => "ARRAY<" ++ element.text ++ ">"

def UnaryOp.text : UnaryOp → String
  | .plus => "+"
  | .minus => "-"
  | .not => "NOT"
  | .bitNot => "~"
  | .squareRoot => "|/"
  | .cubeRoot => "||/"
  | .abs => "@"
  | .leadingFactorial => "!!"
  | .factorial => "!"

def BinaryOp.text : BinaryOp → String
  | .or => "OR"
  | .and => "AND"
  | .xor => "XOR"
  | .symbol s => s
  | .named path => "OPERATOR(" ++ ".".intercalate path ++ ")"

def Quantifier.text : Quantifier → String
  | .any => "ANY"
  | .some => "SOME"
  | .all => "ALL"

def TruthValue.text : TruthValue → String
  | .true => "TRUE"
  | .false => "FALSE"
  | .unknown => "UNKNOWN"

def PatternTest.text : PatternTest → String
  | .like => "LIKE"
  | .ilike => "ILIKE"
  | .similarTo => "SIMILAR TO"

def CastFormat.text (f : CastFormat) : String :=
  match f.zone with
  | none => f.value.text
  | some z => f.value.text ++ " AT TIME ZONE " ++ z.text

def DateField.text : DateField → String
  | .known name => name
  | .custom name => name.text

def RoundTarget.text : RoundTarget → String
  | .unit => ""
  | .field f => " TO " ++ f.text
  | .scale n long => ", " ++ (Literal.number n long).text

def IntervalUnits.text (u : IntervalUnits) : String :=
  match u.leading, u.leadingPrecision, u.fractionPrecision with
  | some (.known "SECOND"), some p, some f => s!" SECOND ({p}, {f})"
  | leading, p, f =>
    (match leading with | none => "" | some l => " " ++ l.text)
    ++ (match p with | none => "" | some p => s!" ({p})")
    ++ (match u.last with | none => "" | some l => " TO " ++ l.text)
    ++ (match f with | none => "" | some f => s!" ({f})")

def TrimSide.text : TrimSide → String
  | .both => "BOTH"
  | .leading => "LEADING"
  | .trailing => "TRAILING"

def Duplicates.text : Duplicates → String
  | .distinct => "DISTINCT"
  | .all => "ALL"

def NullTreatment.text : NullTreatment → String
  | .respect => "RESPECT NULLS"
  | .ignore => "IGNORE NULLS"

def JsonNulls.text : JsonNulls → String
  | .keep => "NULL ON NULL"
  | .drop => "ABSENT ON NULL"

def ArgMark.text : ArgMark → String
  | .arrow => "=>"
  | .colon => ":"
  | .value => "VALUE"

def FrameUnit.text : FrameUnit → String
  | .rows => "ROWS"
  | .range => "RANGE"
  | .groups => "GROUPS"

/-- One end of a frame with the distances that are left after it. -/
def FrameBound.text : FrameBound → List String → String × List String
  | .currentRow, ds => ("CURRENT ROW", ds)
  | .unboundedPreceding, ds => ("UNBOUNDED PRECEDING", ds)
  | .unboundedFollowing, ds => ("UNBOUNDED FOLLOWING", ds)
  | .preceding, d :: ds => (d ++ " PRECEDING", ds)
  | .following, d :: ds => (d ++ " FOLLOWING", ds)
  | .preceding, [] => ("UNBOUNDED PRECEDING", [])
  | .following, [] => ("UNBOUNDED FOLLOWING", [])

def Frame.text (f : Frame) (distances : List String) : String :=
  let (first, rest) := f.first.text distances
  match f.last with
  | none => f.unit.text ++ " " ++ first
  | some last => f.unit.text ++ " BETWEEN " ++ first ++ " AND " ++ (last.text rest).1

def OffsetWord.text : OffsetWord → String
  | .unstated => ""
  | .row => " ROW"
  | .rows => " ROWS"

def Fetch.text (f : Fetch) : String :=
  "FETCH FIRST "
  ++ (match f.quantity with
      | none => ""
      | some q => q.text ++ (if f.percent then " PERCENT" else "") ++ " ")
  ++ "ROWS " ++ (if f.withTies then "WITH TIES" else "ONLY")

def LockWait.text : LockWait → String
  | .block => ""
  | .nowait => " NOWAIT"
  | .skip => " SKIP LOCKED"

def Lock.text (l : Lock) : String :=
  "FOR " ++ (if l.exclusive then "UPDATE" else "SHARE")
  ++ (match l.of with | none => "" | some p => " OF " ++ p.text) ++ l.wait.text

/-- A name between quotes and parentheses, as it is. -/
def namedBy : Option String → String
  | none => ""
  | some name => "('" ++ name ++ "')"

def XmlShape.text : XmlShape → String
  | .raw name => "RAW" ++ namedBy name
  | .auto => "AUTO"
  | .explicit => "EXPLICIT"
  | .path name => "PATH" ++ namedBy name

/-- An option after a comma, or nothing. -/
def optionIf (present : Bool) (option : String) : String := if present then ", " ++ option else ""

/-- The name of the outermost element, if it is given. -/
def rootText : Option String → String
  | none => ""
  | some name => ", ROOT" ++ namedBy (some name)

def ResultForm.text : ResultForm → String
  | .browse => "FOR BROWSE"
  | .json auto root withNulls withoutArray =>
    "FOR JSON " ++ (if auto then "AUTO" else "PATH") ++ rootText root
    ++ optionIf withNulls "INCLUDE_NULL_VALUES" ++ optionIf withoutArray "WITHOUT_ARRAY_WRAPPER"
  | .xml shape elements base64 root typed =>
    "FOR XML " ++ shape.text ++ optionIf base64 "BINARY BASE64" ++ optionIf typed "TYPE"
    ++ rootText root ++ optionIf elements "ELEMENTS"

def Materialized.text : Materialized → String
  | .unstated => ""
  | .yes => "MATERIALIZED "
  | .no => "NOT MATERIALIZED "

def AliasColumn.text (c : AliasColumn) : String :=
  match c.type with
  | none => c.name.text
  | some t => c.name.text ++ " " ++ t.text

def TableAlias.text (a : TableAlias) : String :=
  match a.columns with
  | [] => a.name.text
  | cs => a.name.text ++ " (" ++ commas (cs.map AliasColumn.text) ++ ")"

/-- The name a table is given, after `AS`. -/
def labelText : Option TableAlias → String
  | none => ""
  | some a => " AS " ++ a.text

def OpenJsonColumn.text (c : OpenJsonColumn) : String :=
  c.name.text ++ " " ++ c.type.text
  ++ (match c.place with | none => "" | some p => " " ++ printQuoted '\'' p)
  ++ tailIf c.asJson "AS JSON"

def JsonDefault.text : JsonDefault → String
  | .null => "NULL"
  | .error => "ERROR"
  | .value v => "DEFAULT " ++ v.text

def JsonColumn.text (c : JsonColumn) : String :=
  c.name.text ++ " " ++ c.type.text ++ tailIf c.exist "EXISTS" ++ " PATH " ++ c.place.text
  ++ (match c.onEmpty with | none => "" | some d => " " ++ d.text ++ " ON EMPTY")
  ++ (match c.onError with | none => "" | some d => " " ++ d.text ++ " ON ERROR")

def JsonColumns.texts : JsonColumns → List String
  | .nil => []
  | .ordinality name rest => (name.text ++ " FOR ORDINALITY") :: rest.texts
  | .value column rest => column.text :: rest.texts
  | .nested place columns rest =>
    ("NESTED PATH " ++ place.text ++ " COLUMNS (" ++ commas columns.texts ++ ")") :: rest.texts

def JoinKind.text : JoinKind → String
  | .inner => "JOIN"
  | .left => "LEFT JOIN"
  | .right => "RIGHT JOIN"
  | .full => "FULL JOIN"
  | .semi => "SEMI JOIN"
  | .leftSemi => "LEFT SEMI JOIN"
  | .rightSemi => "RIGHT SEMI JOIN"
  | .anti => "ANTI JOIN"
  | .leftAnti => "LEFT ANTI JOIN"
  | .rightAnti => "RIGHT ANTI JOIN"
  | .cross => "CROSS JOIN"
  | .crossApply => "CROSS APPLY"
  | .outerApply => "OUTER APPLY"
  | .asOf => "ASOF JOIN"

/-- What stands before the joined table. -/
def JoinShape.text (s : JoinShape) : String :=
  tailIf s.global "GLOBAL" ++ " " ++ wordIf s.natural "NATURAL" ++ s.kind.text ++ " "

def SetOp.text : SetOp → String
  | .union => "UNION"
  | .except => "EXCEPT"
  | .intersect => "INTERSECT"

def SetQuantifier.text : SetQuantifier → String
  | .unstated => ""
  | .all => " ALL"
  | .distinct => " DISTINCT"
  | .byName => " BY NAME"
  | .allByName => " ALL BY NAME"
  | .distinctByName => " DISTINCT BY NAME"

def IntoTable.text (t : IntoTable) : String :=
  " INTO " ++ wordIf t.temporary "TEMPORARY" ++ wordIf t.unlogged "UNLOGGED"
  ++ wordIf t.table "TABLE" ++ t.name.text

/-- The words after a `TOP` count. -/
def topWords (percent withTies : Bool) : String :=
  tailIf percent "PERCENT" ++ tailIf withTies "WITH TIES"

/-- A sort key around its expression. -/
def sortText (expr : String) (ascending nullsFirst : Option Bool) : String :=
  expr
  ++ (match ascending with | none => "" | some true => " ASC" | some false => " DESC")
  ++ (match nullsFirst with | none => "" | some true => " NULLS FIRST" | some false => " NULLS LAST")

/-- A clause that is written only if its list has entries. -/
def listClause (lead : String) (texts : List String) : String :=
  match texts with
  | [] => ""
  | ts => lead ++ commas ts

/-- The clauses that stand behind the arguments of a call. -/
def argumentClauses (leading : Option JsonNulls) (order : List String) (limit : Option String)
    (overflow : List String) (nulls : Option JsonNulls) : List String :=
  (match leading with | none => [] | some n => [n.text])
  ++ (match order with | [] => [] | keys => ["ORDER BY " ++ commas keys])
  ++ (match limit with | none => [] | some e => ["LIMIT " ++ e])
  ++ overflow
  ++ (match nulls with | none => [] | some n => [n.text])

def ConflictRule.text : ConflictRule → String
  | .rollback => "OR ROLLBACK"
  | .abort => "OR ABORT"
  | .fail => "OR FAIL"
  | .ignore => "OR IGNORE"
  | .replace => "OR REPLACE"

def ConflictTarget.text : ConflictTarget → String
  | .any => ""
  | .columns names => "(" ++ commas (names.map Ident.text) ++ ")"
  | .constraint name => " ON CONSTRAINT " ++ Path.text name

def AssignmentTarget.text : AssignmentTarget → String
  | .column name => Path.text name
  | .row names => "(" ++ commas (names.map Path.text) ++ ")"

/-- The start of an `INSERT`, up to its columns. -/
def InsertShape.text (s : InsertShape) : String :=
  let name :=
    Path.text s.name ++ (match s.label with | none => "" | some l => " AS " ++ l.text)
  (match s.rule with
    | some rule => "INSERT " ++ rule.text ++ " INTO " ++ name ++ " "
    | none =>
      "INSERT" ++ tailIf s.overwrite "OVERWRITE" ++ tailIf s.into "INTO" ++ tailIf s.table "TABLE"
      ++ " " ++ name ++ " ")
  ++ (match s.columns with
      | [] => ""
      | columns => "(" ++ commas (columns.map Ident.text) ++ ") ")

/-! ## The family -/

mutual

def Expr.text : Expr → String
  | .column name => name.text
  | .path parts => Path.text parts
  | .star => "*"
  | .everyColumn relation => Path.text relation ++ ".*"
  | .literal value => value.text
  | .typedText type text => type.text ++ " " ++ printQuoted '\'' text
  | .introduced charset value => charset ++ " " ++ value.text
  | .call call => call.text
  | .named name mark value => name.text ++ " " ++ mark.text ++ " " ++ value.text
  | .nested inner => "(" ++ inner.text ++ ")"
  | .tuple items => "(" ++ commas items.texts ++ ")"
  | .array keyword items => (if keyword then "ARRAY[" else "[") ++ commas items.texts ++ "]"
  | .subquery query => "(" ++ query.text ++ ")"
  | .exist negated query => wordIf negated "NOT" ++ "EXISTS (" ++ query.text ++ ")"
  | .unary .not operand => "NOT " ++ operand.text
  | .unary .factorial operand => operand.text ++ "!"
  | .unary op operand => op.text ++ operand.text
  | .binary left op right => left.text ++ " " ++ op.text ++ " " ++ right.text
  | .quantified left op quantifier right =>
    left.text ++ " " ++ op.text ++ " " ++ quantifier.text
    ++ (match right with
        | .subquery query => "(" ++ query.text ++ ")"
        | other => "(" ++ other.text ++ ")")
  | .nullTest operand negated => operand.text ++ (if negated then " IS NOT NULL" else " IS NULL")
  | .truthTest operand negated value =>
    operand.text ++ " IS " ++ wordIf negated "NOT" ++ value.text
  | .distinctTest left negated right =>
    left.text ++ " IS " ++ wordIf negated "NOT" ++ "DISTINCT FROM " ++ right.text
  | .inList operand negated items =>
    operand.text ++ " " ++ wordIf negated "NOT" ++ "IN (" ++ commas items.texts ++ ")"
  | .inQuery operand negated query =>
    operand.text ++ " " ++ wordIf negated "NOT" ++ "IN (" ++ query.text ++ ")"
  | .inUnnest operand negated items =>
    operand.text ++ " " ++ wordIf negated "NOT" ++ "IN UNNEST(" ++ items.text ++ ")"
  | .between operand negated low high =>
    operand.text ++ " " ++ wordIf negated "NOT" ++ "BETWEEN " ++ low.text ++ " AND " ++ high.text
  | .pattern operand negated test any pattern escape =>
    operand.text ++ " " ++ wordIf negated "NOT" ++ test.text ++ " " ++ wordIf any "ANY"
    ++ pattern.text
    ++ (match escape with | none => "" | some c => " ESCAPE '" ++ c ++ "'")
  | .regexp operand negated short pattern =>
    operand.text ++ " " ++ wordIf negated "NOT" ++ (if short then "RLIKE " else "REGEXP ")
    ++ pattern.text
  | .cast .colons operand type _ => operand.text ++ "::" ++ type.text
  | .cast form operand type format =>
    (match form with
      | .tryCast => "TRY_CAST("
      | .safeCast => "SAFE_CAST("
      | _ => "CAST(")
    ++ operand.text ++ " AS " ++ type.text
    ++ (match format with | none => "" | some f => " FORMAT " ++ f.text) ++ ")"
  | .convert operand type charset =>
    "CONVERT(" ++ operand.text
    ++ (match type, charset with
        | some t, some c => ", " ++ t.text ++ " CHARACTER SET " ++ Path.text c
        | some t, none => ", " ++ t.text
        | none, some c => " USING " ++ Path.text c
        | none, none => "") ++ ")"
  | .case operand branches otherwise =>
    "CASE" ++ operand.after " " ++ branches.text ++ otherwise.after " ELSE " ++ " END"
  | .extract field operand => "EXTRACT(" ++ field.text ++ " FROM " ++ operand.text ++ ")"
  | .round up operand target =>
    (if up then "CEIL(" else "FLOOR(") ++ operand.text ++ target.text ++ ")"
  | .position part whole => "POSITION(" ++ part.text ++ " IN " ++ whole.text ++ ")"
  | .substring operand start length commas =>
    "SUBSTRING(" ++ operand.text ++ start.after (if commas then ", " else " FROM ")
    ++ length.after (if commas then ", " else " FOR ") ++ ")"
  | .trim operand side characters =>
    "TRIM(" ++ (match side with | none => "" | some s => s.text ++ " ")
    ++ characters.before " FROM " ++ operand.text ++ ")"
  | .overlay operand replacement start length =>
    "OVERLAY(" ++ operand.text ++ " PLACING " ++ replacement.text ++ " FROM " ++ start.text
    ++ length.after " FOR " ++ ")"
  | .interval value units => "INTERVAL " ++ value.text ++ units.text
  | .collate operand collation => operand.text ++ " COLLATE " ++ Path.text collation
  | .atTimeZone operand zone => operand.text ++ " AT TIME ZONE " ++ zone.text
  | .subscript operand index => operand.text ++ "[" ++ index.text ++ "]"
  | .slice operand lower upper stride =>
    operand.text ++ "[" ++ lower.after "" ++ ":" ++ upper.after "" ++ stride.after ":" ++ "]"
  | .field operand name => operand.text ++ "." ++ name.text
  | .groupingSets rows => "GROUPING SETS (" ++ commas rows.texts ++ ")"
  | .cube rows => "CUBE (" ++ commas rows.rowTexts ++ ")"
  | .rollup rows => "ROLLUP (" ++ commas rows.rowTexts ++ ")"

/-- The text of an expression that is there. -/
def MaybeExpr.text? : MaybeExpr → Option String
  | .none => none
  | .some e => some e.text

/-- The expression after a lead, or nothing. -/
def MaybeExpr.after (lead : String) : MaybeExpr → String
  | .none => ""
  | .some e => lead ++ e.text

/-- The expression before a trailer, or nothing. -/
def MaybeExpr.before (trailer : String) : MaybeExpr → String
  | .none => ""
  | .some e => e.text ++ trailer

/-- The text of a query, or what stands for it. -/
def MaybeQuery.textOr (absent : String) : MaybeQuery → String
  | .none => absent
  | .some q => q.text

def Exprs.texts : Exprs → List String
  | .nil => []
  | .cons e es => e.text :: es.texts

/-- Rows as `CUBE` and `ROLLUP` write them: a row of one without its parentheses. -/
def Exprs.rowTexts : Exprs → List String
  | .nil => []
  | .cons (.tuple (.cons e .nil)) es => e.text :: es.rowTexts
  | .cons e es => e.text :: es.rowTexts

def Branches.text : Branches → String
  | .nil => ""
  | .cons condition result rest =>
    " WHEN " ++ condition.text ++ " THEN " ++ result.text ++ rest.text

def Call.text : Call → String
  | ⟨name, braces, args, withinGroup, filter, nulls, window⟩ =>
    (if braces then "\x7bfn " else "") ++ Path.text name ++ args.text
    ++ (match withinGroup.texts with
        | [] => ""
        | keys => " WITHIN GROUP (ORDER BY " ++ commas keys ++ ")")
    ++ (match filter with | .none => "" | .some e => " FILTER (WHERE " ++ e.text ++ ")")
    ++ (match nulls with | none => "" | some n => " " ++ n.text)
    ++ window.after ++ (if braces then "\x7d" else "")

def CallArgs.text : CallArgs → String
  | .absent => ""
  | .subquery query => "(" ++ query.text ++ ")"
  | .list duplicates leading args order limit overflow nulls =>
    let clauses := argumentClauses leading order.texts limit.text? overflow.texts nulls
    "(" ++ (match duplicates with | none => "" | some d => d.text ++ " ")
    ++ commas args.texts
    ++ (match args, clauses with
        | _, [] => ""
        | .nil, cs => " ".intercalate cs
        | _, cs => " " ++ " ".intercalate cs) ++ ")"

/-- What is done about a result that is too long, if it is said. -/
def Overflow.texts : Overflow → List String
  | .unstated => []
  | .error => ["ON OVERFLOW ERROR"]
  | .truncate filler counted =>
    ["ON OVERFLOW TRUNCATE" ++ filler.after " " ++ (if counted then " WITH COUNT" else " WITHOUT COUNT")]

/-- A window where a call or a list of windows names it. -/
def Over.text : Over → String
  | .none => ""
  | .named name => name.text
  | .window base partition order frame distances =>
    let parts :=
      (match base with | none => [] | some b => [b.text])
      ++ (match partition.texts with | [] => [] | es => ["PARTITION BY " ++ commas es])
      ++ (match order.texts with | [] => [] | keys => ["ORDER BY " ++ commas keys])
      ++ (match frame with | none => [] | some f => [f.text distances.texts])
    "(" ++ " ".intercalate parts ++ ")"

/-- A window after the call that ranges over it. -/
def Over.after : Over → String
  | .none => ""
  | .named name => " OVER " ++ name.text
  | .window base partition order frame distances =>
    let parts :=
      (match base with | none => [] | some b => [b.text])
      ++ (match partition.texts with | [] => [] | es => ["PARTITION BY " ++ commas es])
      ++ (match order.texts with | [] => [] | keys => ["ORDER BY " ++ commas keys])
      ++ (match frame with | none => [] | some f => [f.text distances.texts])
    " OVER (" ++ " ".intercalate parts ++ ")"

def OrderKeys.texts : OrderKeys → List String
  | .nil => []
  | .cons e ascending nullsFirst rest => sortText e.text ascending nullsFirst :: rest.texts

def Query.text : Query → String
  | ⟨recursive, tables, body, order, limit, offset, offsetWord, fetch, locks, form⟩ =>
    (match tables.texts with
      | [] => ""
      | ts => "WITH " ++ wordIf recursive "RECURSIVE" ++ commas ts ++ " ")
    ++ body.text
    ++ listClause " ORDER BY " order.texts
    ++ limit.after " LIMIT "
    ++ (match offset with | .none => "" | .some e => " OFFSET " ++ e.text ++ offsetWord.text)
    ++ (match fetch with | none => "" | some f => " " ++ f.text)
    ++ String.join (locks.map (" " ++ ·.text))
    ++ (match form with | none => "" | some f => " " ++ f.text)

def CommonTables.texts : CommonTables → List String
  | .nil => []
  | .cons label materialized query source rest =>
    (label.text ++ " AS " ++ materialized.text ++ "(" ++ query.text ++ ")"
      ++ (match source with | none => "" | some s => " FROM " ++ s.text)) :: rest.texts

def Body.text : Body → String
  | .select s => s.text
  | .query q => "(" ++ q.text ++ ")"
  | .values rowWord rows =>
    let lead := if rowWord then "ROW" else ""
    "VALUES " ++ commas (rows.texts.map (lead ++ ·))
  | .table none name => "TABLE " ++ name
  | .table (some schema) name => "TABLE " ++ schema ++ "." ++ name
  | .setOp left op quantifier right =>
    left.text ++ " " ++ op.text ++ quantifier.text ++ " " ++ right.text
  | .insert shape partition rows existing returning =>
    shape.text
    ++ (match partition.texts with | [] => "" | es => "PARTITION (" ++ commas es ++ ") ")
    ++ rows.textOr "DEFAULT VALUES" ++ existing.text ++ listClause " RETURNING " returning.texts
  | .insertFiles overwrite onHost directory format rows =>
    "INSERT" ++ tailIf overwrite "OVERWRITE" ++ tailIf onHost "LOCAL" ++ " DIRECTORY '" ++ directory
    ++ "'" ++ (match format with | none => "" | some f => " STORED AS " ++ f) ++ " " ++ rows.text
  | .update rule table joins values sources filter returning =>
    "UPDATE " ++ (match rule with | none => "" | some r => r.text ++ " ") ++ table.text ++ joins.text
    ++ listClause " SET " values.texts ++ listClause " FROM " sources.texts
    ++ filter.after " WHERE " ++ listClause " RETURNING " returning.texts

def OnExisting.text : OnExisting → String
  | .unstated => ""
  | .skip target => " ON CONFLICT" ++ target.text ++ " DO NOTHING"
  | .update target values filter =>
    " ON CONFLICT" ++ target.text ++ " DO UPDATE" ++ listClause " SET " values.texts
    ++ filter.after " WHERE "
  | .updateDuplicates values => listClause " ON DUPLICATE KEY UPDATE " values.texts

def Assignments.texts : Assignments → List String
  | .nil => []
  | .cons target value rest => (target.text ++ " = " ++ value.text) :: rest.texts

def Select.text : Select → String
  | ⟨word, distinctOn, top, topCount, targets, into, sources, lateralViews, filter, groupAll, groupBy,
      clusterBy, distributeBy, sortBy, having, windows, qualify, windowsFirst⟩ =>
    let windowClause := listClause " WINDOW " windows.texts
    let qualifyClause := qualify.after " QUALIFY "
    "SELECT"
    ++ (match word with
        | .unstated => ""
        | .distinct => " DISTINCT"
        | .on => " DISTINCT ON (" ++ commas distinctOn.texts ++ ")")
    ++ (match top with
        | .unstated => ""
        | .count n percent withTies => s!" TOP {n}" ++ topWords percent withTies
        | .computed percent withTies =>
          " TOP (" ++ topCount.after "" ++ ")" ++ topWords percent withTies)
    ++ " " ++ commas targets.texts
    ++ (match into with | none => "" | some t => t.text)
    ++ listClause " FROM " sources.texts
    ++ lateralViews.text
    ++ filter.after " WHERE "
    ++ (if groupAll then " GROUP BY ALL" else listClause " GROUP BY " groupBy.texts)
    ++ listClause " CLUSTER BY " clusterBy.texts
    ++ listClause " DISTRIBUTE BY " distributeBy.texts
    ++ listClause " SORT BY " sortBy.texts
    ++ having.after " HAVING "
    ++ (if windowsFirst then windowClause ++ qualifyClause else qualifyClause ++ windowClause)

def SelectItems.texts : SelectItems → List String
  | .nil => []
  | .cons e none rest => e.text :: rest.texts
  | .cons e (some label) rest => (e.text ++ " AS " ++ label.text) :: rest.texts

def LateralViews.text : LateralViews → String
  | .nil => ""
  | .cons outer expr name columns rest =>
    " LATERAL VIEW" ++ tailIf outer "OUTER" ++ " " ++ expr.text ++ " " ++ Path.text name
    ++ listClause " AS " (columns.map Ident.text) ++ rest.text

def NamedWindows.texts : NamedWindows → List String
  | .nil => []
  | .cons name window rest => (name.text ++ " AS " ++ window.text) :: rest.texts

def Sources.texts : Sources → List String
  | .nil => []
  | .cons table joins rest => (table.text ++ joins.text) :: rest.texts

def Joins.text : Joins → String
  | .nil => ""
  | .cons shape table matching condition rest =>
    shape.text ++ table.text
    ++ (match matching with | .none => "" | .some e => " MATCH_CONDITION (" ++ e.text ++ ")")
    ++ condition.after " ON "
    ++ (match shape.shared with
        | none => ""
        | some columns => " USING(" ++ commas (columns.map Ident.text) ++ ")")
    ++ rest.text

def Table.text : Table → String
  | .named name ordinality label hints =>
    Path.text name ++ tailIf ordinality "WITH ORDINALITY" ++ labelText label
    ++ (match hints.texts with | [] => "" | hs => " WITH (" ++ commas hs ++ ")")
  | .called name args ordinality label hints =>
    Path.text name ++ "(" ++ commas args.texts ++ ")" ++ tailIf ordinality "WITH ORDINALITY"
    ++ labelText label
    ++ (match hints.texts with | [] => "" | hs => " WITH (" ++ commas hs ++ ")")
  | .derived lateral query label =>
    wordIf lateral "LATERAL" ++ "(" ++ query.text ++ ")" ++ labelText label
  | .lateralCall name args label =>
    "LATERAL " ++ Path.text name ++ "(" ++ commas args.texts ++ ")" ++ labelText label
  | .tableOf expr label => "TABLE(" ++ expr.text ++ ")" ++ labelText label
  | .unnest arrays ordinality label offset offsetLabel =>
    "UNNEST(" ++ commas arrays.texts ++ ")" ++ tailIf ordinality "WITH ORDINALITY"
    ++ labelText label ++ tailIf offset "WITH OFFSET"
    ++ (match offsetLabel with | none => "" | some l => " AS " ++ l.text)
  | .nested table joins label => "(" ++ table.text ++ joins.text ++ ")" ++ labelText label
  | .jsonTable value place columns label =>
    "JSON_TABLE(" ++ value.text ++ ", " ++ place.text ++ " COLUMNS(" ++ commas columns.texts ++ "))"
    ++ labelText label
  | .openJson value place columns label =>
    "OPENJSON(" ++ value.text ++ (match place with | none => "" | some p => ", " ++ p.text) ++ ")"
    ++ (match columns with
        | [] => ""
        | cs => " WITH (" ++ commas (cs.map OpenJsonColumn.text) ++ ")")
    ++ labelText label
  | .pivot table aggregates column values otherwise label =>
    table.text ++ " PIVOT(" ++ commas aggregates.texts ++ " FOR " ++ Path.text column ++ " IN ("
    ++ values.text ++ ")"
    ++ (match otherwise with | .none => "" | .some e => " DEFAULT ON NULL (" ++ e.text ++ ")")
    ++ ")" ++ labelText label
  | .unpivot table value name columns label =>
    table.text ++ " UNPIVOT(" ++ value.text ++ " FOR " ++ name.text ++ " IN ("
    ++ commas (columns.map Ident.text) ++ "))" ++ labelText label

def PivotValues.text : PivotValues → String
  | .any order => "ANY" ++ listClause " ORDER BY " order.texts
  | .query query => query.text
  | .list values => commas values.texts

end

end QueryReport.Sql
