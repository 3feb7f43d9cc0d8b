/-!
# The tree of a SQL query

A parsed query as data.  Names, literals, types and operators come first; they hold no query and
are ordinary types.  Everything else may contain a query, so it is one mutual family.  Sequences
inside the family are types of their own (`Exprs`, `OrderKeys`, …) rather than `List`s: that keeps
the family free of nesting, so recursion on it is structural and its equality is decidable.
`toList` and `ofList` relate each sequence to the list it stands for.

Parentheses that were written are nodes (`Expr.nested`, `Body.query`); nothing else in a tree
records layout.
-/

namespace QueryReport.Sql

/-! ## Leaves -/

/-- A written name, with the quote character it was written in if it had one. -/
structure Ident where
  value : String
  quote : Option Char := none
deriving DecidableEq, Repr, Inhabited

/-- A dotted name such as `public.users`, outermost part first. -/
abbrev Path := List Ident

/-- A constant as the query spells it.  Numbers keep their digits; texts are held unescaped. -/
inductive Literal where
  | number (text : String) (long : Bool)
  | string (text : String)
  | escaped (text : String)
  | unicode (text : String)
  | national (text : String)
  | hex (text : String)
  | bits (text : String)
  | doubleBits (text : String)
  | doubleQuoted (text : String)
  | dollar (tag : Option String) (text : String)
  | boolean (value : Bool)
  | null
  | placeholder (text : String)
deriving DecidableEq, Repr, Inhabited

/-- What a type name carries in parentheses. -/
inductive TypeSize where
  | unstated
  | length (n : Nat)
  | scaled (precision scale : Nat)
  | counted (n : Nat) (unit : String)
  | max
deriving DecidableEq, Repr, Inhabited

/-- How a time type speaks of its zone; `short` is the `TZ` ending of `TIMESTAMPTZ`. -/
inductive ZoneRule where
  | unstated
  | included
  | excluded
  | short
deriving DecidableEq, Repr, Inhabited

/-- A value that a type lists: its text, and its number as it is written. -/
structure LabelValue where
  label : String
  number : Option String := none
deriving DecidableEq, Repr, Inhabited

/-- A type as a cast or a typed text names it. -/
inductive SqlType where
  | builtin (name : String) (size : TypeSize) (unsigned : Bool)
  | temporal (name : String) (precision : Option Nat) (zone : ZoneRule)
  | fixedZone (name : String) (precision : Nat) (zone : Option String)
  | labels (name : String) (values : List LabelValue)
  | custom (name : Path) (modifiers : List String)
  | array (element : SqlType) (size : Option Nat)
  | angleArray (element : SqlType)
deriving DecidableEq, Repr, Inhabited

/-- Operators with one operand. -/
inductive UnaryOp where
  | plus | minus | not | bitNot | squareRoot | cubeRoot | abs | leadingFactorial | factorial
deriving DecidableEq, Repr, Inhabited

/-- Operators with two operands: the three connectives, an operator written in symbols, and an
operator named by path as in `OPERATOR(pg_catalog.+)`. -/
inductive BinaryOp where
  | or | and | xor
  | symbol (text : String)
  | named (path : List String)
deriving DecidableEq, Repr, Inhabited

/-- The quantifier of a comparison with many values. -/
inductive Quantifier where
  | any | some | all
deriving DecidableEq, Repr, Inhabited

/-- What `IS` tests besides null. -/
inductive TruthValue where
  | true | false | unknown
deriving DecidableEq, Repr, Inhabited

/-- The pattern tests that may name an escape character. -/
inductive PatternTest where
  | like | ilike | similarTo
deriving DecidableEq, Repr, Inhabited

/-- The ways a cast is written. -/
inductive CastForm where
  | cast | tryCast | safeCast | colons
deriving DecidableEq, Repr, Inhabited

/-- The `FORMAT` part of a cast. -/
structure CastFormat where
  value : Literal
  zone : Option Literal
deriving DecidableEq, Repr, Inhabited

/-- A field of a date or time: a known one by its upper-case name, any other as written. -/
inductive DateField where
  | known (name : String)
  | custom (name : Ident)
deriving DecidableEq, Repr, Inhabited

/-- What `CEIL` and `FLOOR` round to. -/
inductive RoundTarget where
  | unit
  | field (field : DateField)
  | scale (text : String) (long : Bool)
deriving DecidableEq, Repr, Inhabited

/-- The units written after the text of an interval. -/
structure IntervalUnits where
  leading : Option DateField
  leadingPrecision : Option Nat
  last : Option DateField
  fractionPrecision : Option Nat
deriving DecidableEq, Repr, Inhabited

/-- The sides that `TRIM` may name. -/
inductive TrimSide where
  | both | leading | trailing
deriving DecidableEq, Repr, Inhabited

/-- Whether a call counts every row or every distinct value. -/
inductive Duplicates where
  | distinct | all
deriving DecidableEq, Repr, Inhabited

/-- How a window call treats nulls. -/
inductive NullTreatment where
  | respect | ignore
deriving DecidableEq, Repr, Inhabited

/-- What a JSON constructor does with nulls. -/
inductive JsonNulls where
  | keep | drop
deriving DecidableEq, Repr, Inhabited

/-- The mark between an argument's name and its value. -/
inductive ArgMark where
  | arrow | colon | value
deriving DecidableEq, Repr, Inhabited

/-- The unit in which a window frame is measured. -/
inductive FrameUnit where
  | rows | range | groups
deriving DecidableEq, Repr, Inhabited

/-- One end of a window frame; the distance of `preceding` and `following` is an expression and is
kept beside the frame. -/
inductive FrameBound where
  | currentRow | unboundedPreceding | unboundedFollowing | preceding | following
deriving DecidableEq, Repr, Inhabited

/-- The frame of a window without its distances. -/
structure Frame where
  unit : FrameUnit
  first : FrameBound
  last : Option FrameBound
deriving DecidableEq, Repr, Inhabited

/-- The word after the count of an `OFFSET`. -/
inductive OffsetWord where
  | unstated | row | rows
deriving DecidableEq, Repr, Inhabited

/-- A `FETCH FIRST` clause. -/
structure Fetch where
  quantity : Option Literal
  percent : Bool
  withTies : Bool
deriving DecidableEq, Repr, Inhabited

/-- What a locking clause does when a row is locked already. -/
inductive LockWait where
  | block | nowait | skip
deriving DecidableEq, Repr, Inhabited

/-- A `FOR UPDATE` or `FOR SHARE` clause. -/
structure Lock where
  exclusive : Bool
  of : Option Path
  wait : LockWait
deriving DecidableEq, Repr, Inhabited

/-- The shape of the elements that `FOR XML` makes of rows, with their name if it is given. -/
inductive XmlShape where
  | raw (name : Option String)
  | auto
  | explicit
  | path (name : Option String)
deriving DecidableEq, Repr, Inhabited

/-- A `FOR` clause about the result as a whole. -/
inductive ResultForm where
  | browse
  | json (auto : Bool) (root : Option String) (withNulls withoutArray : Bool)
  | xml (shape : XmlShape) (elements base64 : Bool) (root : Option String) (typed : Bool)
deriving DecidableEq, Repr, Inhabited

/-- Whether a common table expression says how it is stored. -/
inductive Materialized where
  | unstated | yes | no
deriving DecidableEq, Repr, Inhabited

/-- A column of a table alias, with its type if one is given. -/
structure AliasColumn where
  name : Ident
  type : Option SqlType
deriving DecidableEq, Repr, Inhabited

/-- The name given to a table, with names for its columns. -/
structure TableAlias where
  name : Ident
  columns : List AliasColumn
deriving DecidableEq, Repr, Inhabited

/-- A column that `OPENJSON` makes, with the place it is read from. -/
structure OpenJsonColumn where
  name : Ident
  type : SqlType
  place : Option String
  asJson : Bool
deriving DecidableEq, Repr, Inhabited

/-- What a column of `JSON_TABLE` is where its value is missing or wrong. -/
inductive JsonDefault where
  | null
  | error
  | value (value : Literal)
deriving DecidableEq, Repr, Inhabited

/-- A column of `JSON_TABLE` that is read from a place. -/
structure JsonColumn where
  name : Ident
  type : SqlType
  exist : Bool
  place : Literal
  onEmpty : Option JsonDefault
  onError : Option JsonDefault
deriving DecidableEq, Repr, Inhabited

/-- The columns of `JSON_TABLE`: row numbers, values, and the columns of what is nested. -/
inductive JsonColumns where
  | nil
  | ordinality (name : Ident) (tail : JsonColumns)
  | value (column : JsonColumn) (tail : JsonColumns)
  | nested (place : Literal) (columns : JsonColumns) (tail : JsonColumns)
deriving DecidableEq, Repr, Inhabited

/-- The kinds of join.  `cross`, `crossApply` and `outerApply` take no condition; `asOf` takes a
matching condition besides its own. -/
inductive JoinKind where
  | inner | left | right | full
  | semi | leftSemi | rightSemi | anti | leftAnti | rightAnti
  | cross | crossApply | outerApply | asOf
deriving DecidableEq, Repr, Inhabited

/-- All of a join but its table and its expressions. -/
structure JoinShape where
  global : Bool
  kind : JoinKind
  natural : Bool
  shared : Option (List Ident)
deriving DecidableEq, Repr, Inhabited

/-- The three operations on whole results. -/
inductive SetOp where
  | union | except | intersect
deriving DecidableEq, Repr, Inhabited

/-- What a set operation does with duplicates and column names. -/
inductive SetQuantifier where
  | unstated | all | distinct | byName | allByName | distinctByName
deriving DecidableEq, Repr, Inhabited

/-- The table that `SELECT … INTO` writes. -/
structure IntoTable where
  temporary : Bool
  unlogged : Bool
  table : Bool
  name : Path
deriving DecidableEq, Repr, Inhabited

/-- The `DISTINCT` of a `SELECT`; the keys of `DISTINCT ON` are kept beside it. -/
inductive DistinctWord where
  | unstated | distinct | on
deriving DecidableEq, Repr, Inhabited

/-- The `TOP` of a `SELECT`; a count in parentheses is an expression and is kept beside it. -/
inductive Top where
  | unstated
  | count (count : Nat) (percent withTies : Bool)
  | computed (percent withTies : Bool)
deriving DecidableEq, Repr, Inhabited

/-- What a changing statement does when a row breaks a rule. -/
inductive ConflictRule where
  | rollback | abort | fail | ignore | replace
deriving DecidableEq, Repr, Inhabited

/-- The rows that an `INSERT` takes for being there already: any, those that agree in some columns,
or those that break a constraint. -/
inductive ConflictTarget where
  | any
  | columns (names : List Ident)
  | constraint (name : Path)
deriving DecidableEq, Repr, Inhabited

/-- The columns a value is assigned to, as a row if they stand in parentheses. -/
inductive AssignmentTarget where
  | column (name : Path)
  | row (names : List Path)
deriving DecidableEq, Repr, Inhabited

/-- All of an `INSERT` but its rows and expressions. -/
structure InsertShape where
  rule : Option ConflictRule
  overwrite : Bool
  into : Bool
  table : Bool
  name : Path
  label : Option Ident
  columns : List Ident
deriving DecidableEq, Repr, Inhabited

/-! ## The family -/

mutual

/-- An expression.  `star` and `everyColumn` stand for all columns and are written in target lists
and argument lists; `named` is an argument that is passed by name. -/
inductive Expr where
  | column (name : Ident)
  | path (parts : Path)
  | star
  | everyColumn (relation : Path)
  | literal (value : Literal)
  | typedText (type : SqlType) (text : String)
  | introduced (charset : String) (value : Literal)
  | call (call : Call)
  | named (name : Expr) (mark : ArgMark) (value : Expr)
  | nested (inner : Expr)
  | tuple (items : Exprs)
  | array (keyword : Bool) (items : Exprs)
  | subquery (query : Query)
  | exist (negated : Bool) (query : Query)
  | unary (op : UnaryOp) (operand : Expr)
  | binary (left : Expr) (op : BinaryOp) (right : Expr)
  | quantified (left : Expr) (op : BinaryOp) (quantifier : Quantifier) (right : Expr)
  | nullTest (operand : Expr) (negated : Bool)
  | truthTest (operand : Expr) (negated : Bool) (value : TruthValue)
  | distinctTest (left : Expr) (negated : Bool) (right : Expr)
  | inList (operand : Expr) (negated : Bool) (items : Exprs)
  | inQuery (operand : Expr) (negated : Bool) (query : Query)
  | inUnnest (operand : Expr) (negated : Bool) (items : Expr)
  | between (operand : Expr) (negated : Bool) (low high : Expr)
  | pattern (operand : Expr) (negated : Bool) (test : PatternTest) (any : Bool) (pattern : Expr)
      (escape : Option String)
  | regexp (operand : Expr) (negated : Bool) (short : Bool) (pattern : Expr)
  | cast (form : CastForm) (operand : Expr) (type : SqlType) (format : Option CastFormat)
  | convert (operand : Expr) (type : Option SqlType) (charset : Option Path)
  | case (operand : MaybeExpr) (branches : Branches) (otherwise : MaybeExpr)
  | extract (field : DateField) (operand : Expr)
  | round (up : Bool) (operand : Expr) (target : RoundTarget)
  | position (part whole : Expr)
  | substring (operand : Expr) (start length : MaybeExpr) (commas : Bool)
  | trim (operand : Expr) (side : Option TrimSide) (characters : MaybeExpr)
  | overlay (operand replacement start : Expr) (length : MaybeExpr)
  | interval (value : Expr) (units : IntervalUnits)
  | collate (operand : Expr) (collation : Path)
  | atTimeZone (operand zone : Expr)
  | subscript (operand index : Expr)
  | slice (operand : Expr) (lower upper stride : MaybeExpr)
  | field (operand : Expr) (name : Ident)
  | groupingSets (rows : Exprs)
  | cube (rows : Exprs)
  | rollup (rows : Exprs)

/-- An expression that may be left out. -/
inductive MaybeExpr where
  | none
  | some (expr : Expr)

/-- A query that may be left out. -/
inductive MaybeQuery where
  | none
  | some (query : Query)

/-- A sequence of expressions.  A row of several is a `tuple`. -/
inductive Exprs where
  | nil
  | cons (head : Expr) (tail : Exprs)

/-- The `WHEN … THEN …` branches of a `CASE`. -/
inductive Branches where
  | nil
  | cons (condition result : Expr) (tail : Branches)

/-- A function call; `braces` is the form written `\x7bfn …\x7d`. -/
structure Call where
  name : Path
  braces : Bool
  args : CallArgs
  withinGroup : OrderKeys
  filter : MaybeExpr
  nulls : Option NullTreatment
  window : Over

/-- What stands after the name of a call: nothing at all, a query, or a list in parentheses. -/
inductive CallArgs where
  | absent
  | subquery (query : Query)
  | list (duplicates : Option Duplicates) (leadingNulls : Option JsonNulls) (args : Exprs)
      (order : OrderKeys) (limit : MaybeExpr) (overflow : Overflow) (nulls : Option JsonNulls)

/-- What a call that joins texts does when the result is too long. -/
inductive Overflow where
  | unstated
  | error
  | truncate (filler : MaybeExpr) (counted : Bool)

/-- A window: none, one named elsewhere, or one in parentheses.  `distances` holds the distances
of the frame's ends in order. -/
inductive Over where
  | none
  | named (name : Ident)
  | window (base : Option Ident) (partition : Exprs) (order : OrderKeys) (frame : Option Frame)
      (distances : Exprs)

/-- A sequence of sort keys. -/
inductive OrderKeys where
  | nil
  | cons (expr : Expr) (ascending nullsFirst : Option Bool) (tail : OrderKeys)

/-- A query: a body with the clauses around it.  No tables before the body means no `WITH`, no
sort keys means no `ORDER BY`. -/
structure Query where
  recursive : Bool
  tables : CommonTables
  body : Body
  order : OrderKeys
  limit : MaybeExpr
  offset : MaybeExpr
  offsetWord : OffsetWord
  fetch : Option Fetch
  locks : List Lock
  form : Option ResultForm

/-- The common table expressions before a query. -/
inductive CommonTables where
  | nil
  | cons (label : TableAlias) (materialized : Materialized) (query : Query)
      (source : Option Ident) (tail : CommonTables)

/-- The body of a query. -/
inductive Body where
  | select (select : Select)
  | query (query : Query)
  | values (rowWord : Bool) (rows : Exprs)
  | table (schema : Option String) (name : String)
  | setOp (left : Body) (op : SetOp) (quantifier : SetQuantifier) (right : Body)
  | insert (shape : InsertShape) (partition : Exprs) (rows : MaybeQuery) (existing : OnExisting)
      (returning : SelectItems)
  | insertFiles (overwrite onHost : Bool) (directory : String) (format : Option String)
      (rows : Query)
  | update (rule : Option ConflictRule) (table : Table) (joins : Joins) (values : Assignments)
      (sources : Sources) (filter : MaybeExpr) (returning : SelectItems)

/-- What an `INSERT` does about rows that are there already. -/
inductive OnExisting where
  | unstated
  | skip (target : ConflictTarget)
  | update (target : ConflictTarget) (values : Assignments) (filter : MaybeExpr)
  | updateDuplicates (values : Assignments)

/-- Values assigned to columns. -/
inductive Assignments where
  | nil
  | cons (target : AssignmentTarget) (value : Expr) (tail : Assignments)

/-- A plain `SELECT`. -/
structure Select where
  distinct : DistinctWord
  distinctOn : Exprs
  top : Top
  topCount : MaybeExpr
  targets : SelectItems
  into : Option IntoTable
  sources : Sources
  lateralViews : LateralViews
  filter : MaybeExpr
  groupAll : Bool
  groupBy : Exprs
  clusterBy : Exprs
  distributeBy : Exprs
  sortBy : Exprs
  having : MaybeExpr
  windows : NamedWindows
  qualify : MaybeExpr
  windowsFirst : Bool

/-- A target list. -/
inductive SelectItems where
  | nil
  | cons (expr : Expr) (label : Option Ident) (tail : SelectItems)

/-- The views that a `SELECT` computes row by row, with names for their columns. -/
inductive LateralViews where
  | nil
  | cons (outer : Bool) (expr : Expr) (name : Path) (columns : List Ident) (tail : LateralViews)

/-- The windows that a `SELECT` names. -/
inductive NamedWindows where
  | nil
  | cons (name : Ident) (window : Over) (tail : NamedWindows)

/-- A `FROM` list: tables, each with what is joined to it. -/
inductive Sources where
  | nil
  | cons (table : Table) (joins : Joins) (tail : Sources)

/-- A sequence of joins; `matching` is the condition that an `asOf` join adds. -/
inductive Joins where
  | nil
  | cons (shape : JoinShape) (table : Table) (matching condition : MaybeExpr) (tail : Joins)

/-- Something a `FROM` list reads from. -/
inductive Table where
  | named (name : Path) (ordinality : Bool) (label : Option TableAlias) (hints : Exprs)
  | called (name : Path) (args : Exprs) (ordinality : Bool) (label : Option TableAlias)
      (hints : Exprs)
  | derived (lateral : Bool) (query : Query) (label : Option TableAlias)
  | lateralCall (name : Path) (args : Exprs) (label : Option TableAlias)
  | tableOf (expr : Expr) (label : Option TableAlias)
  | unnest (arrays : Exprs) (ordinality : Bool) (label : Option TableAlias) (offset : Bool)
      (offsetLabel : Option Ident)
  | nested (table : Table) (joins : Joins) (label : Option TableAlias)
  | jsonTable (value : Expr) (place : Literal) (columns : JsonColumns) (label : Option TableAlias)
  | openJson (value : Expr) (place : Option Literal) (columns : List OpenJsonColumn)
      (label : Option TableAlias)
  | pivot (table : Table) (aggregates : SelectItems) (column : Path) (values : PivotValues)
      (otherwise : MaybeExpr) (label : Option TableAlias)
  | unpivot (table : Table) (value name : Ident) (columns : List Ident)
      (label : Option TableAlias)

/-- The values that a `PIVOT` makes columns of. -/
inductive PivotValues where
  | any (order : OrderKeys)
  | query (query : Query)
  | list (values : SelectItems)

end

/-! ## Equality

Deriving equality for one type of the family compares the whole family, so it is derived once, for
expressions.  A value of another type is compared by what it is put into, which is an expression or
something that was put into one. -/

deriving instance DecidableEq for Expr

/-- Values compared by what they are put into. -/
@[reducible]
def decidableEqWithin {α β : Type} [DecidableEq β] (put : α → β)
    (h : ∀ a b, put a = put b → a = b) : DecidableEq α :=
  fun a b => decidable_of_decidable_of_iff ⟨h a b, congrArg put⟩

instance : DecidableEq MaybeExpr :=
  decidableEqWithin (Expr.case · .nil .none) fun _ _ h => (Expr.case.inj h).1

instance : DecidableEq Exprs := decidableEqWithin Expr.tuple fun _ _ => Expr.tuple.inj

instance : DecidableEq Branches :=
  decidableEqWithin (Expr.case .none · .none) fun _ _ h => (Expr.case.inj h).2.1

instance : DecidableEq Call := decidableEqWithin Expr.call fun _ _ => Expr.call.inj

instance : DecidableEq CallArgs :=
  decidableEqWithin (⟨[], false, ·, .nil, .none, none, .none⟩ : CallArgs → Call)
    fun _ _ => congrArg Call.args

instance : DecidableEq OrderKeys :=
  decidableEqWithin (⟨[], false, .absent, ·, .none, none, .none⟩ : OrderKeys → Call)
    fun _ _ => congrArg Call.withinGroup

instance : DecidableEq Over :=
  decidableEqWithin (⟨[], false, .absent, .nil, .none, none, ·⟩ : Over → Call)
    fun _ _ => congrArg Call.window

instance : DecidableEq Overflow :=
  decidableEqWithin (CallArgs.list none none .nil .nil .none · none)
    fun _ _ h => (CallArgs.list.inj h).2.2.2.2.2.1

instance : DecidableEq Query := decidableEqWithin Expr.subquery fun _ _ => Expr.subquery.inj

instance : DecidableEq CommonTables :=
  decidableEqWithin (⟨false, ·, .table none "", .nil, .none, .none, default, none, [], none⟩ :
    CommonTables → Query) fun _ _ => congrArg Query.tables

instance : DecidableEq Body :=
  decidableEqWithin (⟨false, .nil, ·, .nil, .none, .none, default, none, [], none⟩ : Body → Query)
    fun _ _ => congrArg Query.body

instance : DecidableEq Select := decidableEqWithin Body.select fun _ _ => Body.select.inj

instance : DecidableEq MaybeQuery :=
  decidableEqWithin (Body.insert default .nil · .unstated .nil) fun _ _ h => (Body.insert.inj h).2.2.1

instance : DecidableEq OnExisting :=
  decidableEqWithin (Body.insert default .nil .none · .nil) fun _ _ h => (Body.insert.inj h).2.2.2.1

instance : DecidableEq SelectItems :=
  decidableEqWithin (Body.insert default .nil .none .unstated)
    fun _ _ h => (Body.insert.inj h).2.2.2.2

instance : DecidableEq Assignments :=
  decidableEqWithin OnExisting.updateDuplicates fun _ _ => OnExisting.updateDuplicates.inj

instance : DecidableEq LateralViews :=
  decidableEqWithin (⟨default, .nil, default, .none, .nil, none, .nil, ·, .none, false, .nil, .nil,
    .nil, .nil, .none, .nil, .none, false⟩ : LateralViews → Select)
    fun _ _ => congrArg Select.lateralViews

instance : DecidableEq NamedWindows :=
  decidableEqWithin (⟨default, .nil, default, .none, .nil, none, .nil, .nil, .none, false, .nil, .nil,
    .nil, .nil, .none, ·, .none, false⟩ : NamedWindows → Select) fun _ _ => congrArg Select.windows

instance : DecidableEq Sources :=
  decidableEqWithin (Body.update none (.named [] false none .nil) .nil .nil · .none .nil)
    fun _ _ h => (Body.update.inj h).2.2.2.2.1

instance : DecidableEq Table :=
  decidableEqWithin (Sources.cons · .nil .nil) fun _ _ h => (Sources.cons.inj h).1

instance : DecidableEq Joins :=
  decidableEqWithin (Sources.cons (.named [] false none .nil) · .nil)
    fun _ _ h => (Sources.cons.inj h).2.1

instance : DecidableEq PivotValues :=
  decidableEqWithin (Table.pivot (.named [] false none .nil) .nil [] · .none none)
    fun _ _ h => (Table.pivot.inj h).2.2.2.1

end QueryReport.Sql
