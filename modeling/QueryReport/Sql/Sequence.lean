import QueryReport.Sql.Tree

/-!
# The sequences of a tree as lists

Each sequence in the family of trees is a list of entries.  `toList` and `ofList` go back and forth
without loss, so lists may be used wherever a sequence is taken apart or put together.
-/

namespace QueryReport.Sql

/-- A sort key: an expression, its direction and the place of nulls, as far as they are stated. -/
structure OrderKey where
  expr : Expr
  ascending : Option Bool
  nullsFirst : Option Bool
deriving DecidableEq

/-- A target entry: an expression and the name it is given. -/
structure SelectItem where
  expr : Expr
  label : Option Ident
deriving DecidableEq

/-- A branch of a `CASE`. -/
structure Branch where
  condition : Expr
  result : Expr
deriving DecidableEq

/-- A query that a `WITH` names. -/
structure CommonTable where
  label : TableAlias
  materialized : Materialized
  query : Query
  source : Option Ident
deriving DecidableEq

/-- A value assigned to columns. -/
structure Assignment where
  target : AssignmentTarget
  value : Expr
deriving DecidableEq

/-- A view that a `SELECT` computes row by row. -/
structure LateralView where
  outer : Bool
  expr : Expr
  name : Path
  columns : List Ident
deriving DecidableEq

/-- A window that a `SELECT` names. -/
structure NamedWindow where
  name : Ident
  window : Over
deriving DecidableEq

/-- A table and how it is joined to what stands before it. -/
structure Join where
  shape : JoinShape
  table : Table
  matching : MaybeExpr
  condition : MaybeExpr
deriving DecidableEq

/-- A table with what is joined to it. -/
structure Source where
  table : Table
  joins : Joins
deriving DecidableEq

def MaybeExpr.ofOption : Option Expr → MaybeExpr
  | Option.none => MaybeExpr.none
  | Option.some e => MaybeExpr.some e

def MaybeExpr.toOption : MaybeExpr → Option Expr
  | MaybeExpr.none => Option.none
  | MaybeExpr.some e => Option.some e

@[simp] theorem MaybeExpr.toOption_ofOption (e : Option Expr) :
    (MaybeExpr.ofOption e).toOption = e := by
  cases e <;> rfl

@[simp] theorem MaybeExpr.ofOption_toOption (e : MaybeExpr) :
    MaybeExpr.ofOption e.toOption = e := by
  cases e <;> rfl

def MaybeQuery.ofOption : Option Query → MaybeQuery
  | Option.none => MaybeQuery.none
  | Option.some q => MaybeQuery.some q

def Exprs.ofList : List Expr → Exprs
  | [] => .nil
  | e :: es => .cons e (ofList es)

def Exprs.toList : Exprs → List Expr
  | .nil => []
  | .cons e es => e :: es.toList

@[simp] theorem Exprs.toList_ofList (es : List Expr) : (Exprs.ofList es).toList = es := by
  induction es with
  | nil => rfl
  | cons e es ih => simp [ofList, toList, ih]

@[simp] theorem Exprs.ofList_toList : (es : Exprs) → Exprs.ofList es.toList = es
  | .nil => rfl
  | .cons _ es => by simp [ofList, toList, Exprs.ofList_toList es]

def Branches.ofList : List Branch → Branches
  | [] => .nil
  | b :: bs => .cons b.condition b.result (ofList bs)

def Branches.toList : Branches → List Branch
  | .nil => []
  | .cons condition result bs => ⟨condition, result⟩ :: bs.toList

@[simp] theorem Branches.toList_ofList (bs : List Branch) : (Branches.ofList bs).toList = bs := by
  induction bs with
  | nil => rfl
  | cons b bs ih => simp [ofList, toList, ih]

def OrderKeys.ofList : List OrderKey → OrderKeys
  | [] => .nil
  | k :: ks => .cons k.expr k.ascending k.nullsFirst (ofList ks)

def OrderKeys.toList : OrderKeys → List OrderKey
  | .nil => []
  | .cons e ascending nullsFirst ks => ⟨e, ascending, nullsFirst⟩ :: ks.toList

@[simp] theorem OrderKeys.toList_ofList (ks : List OrderKey) :
    (OrderKeys.ofList ks).toList = ks := by
  induction ks with
  | nil => rfl
  | cons k ks ih => simp [ofList, toList, ih]

@[simp] theorem OrderKeys.ofList_toList : (ks : OrderKeys) → OrderKeys.ofList ks.toList = ks
  | .nil => rfl
  | .cons _ _ _ ks => by simp [ofList, toList, OrderKeys.ofList_toList ks]

def SelectItems.ofList : List SelectItem → SelectItems
  | [] => .nil
  | i :: is => .cons i.expr i.label (ofList is)

def SelectItems.toList : SelectItems → List SelectItem
  | .nil => []
  | .cons e label is => ⟨e, label⟩ :: is.toList

@[simp] theorem SelectItems.toList_ofList (is : List SelectItem) :
    (SelectItems.ofList is).toList = is := by
  induction is with
  | nil => rfl
  | cons i is ih => simp [ofList, toList, ih]

@[simp] theorem SelectItems.ofList_toList :
    (is : SelectItems) → SelectItems.ofList is.toList = is
  | .nil => rfl
  | .cons _ _ is => by simp [ofList, toList, SelectItems.ofList_toList is]

def CommonTables.ofList : List CommonTable → CommonTables
  | [] => .nil
  | t :: ts => .cons t.label t.materialized t.query t.source (ofList ts)

def Assignments.ofList : List Assignment → Assignments
  | [] => .nil
  | a :: as => .cons a.target a.value (ofList as)

def LateralViews.ofList : List LateralView → LateralViews
  | [] => .nil
  | v :: vs => .cons v.outer v.expr v.name v.columns (ofList vs)

def NamedWindows.ofList : List NamedWindow → NamedWindows
  | [] => .nil
  | w :: ws => .cons w.name w.window (ofList ws)

def Joins.ofList : List Join → Joins
  | [] => .nil
  | j :: js => .cons j.shape j.table j.matching j.condition (ofList js)

def Joins.toList : Joins → List Join
  | .nil => []
  | .cons shape table matching condition js => ⟨shape, table, matching, condition⟩ :: js.toList

def Sources.ofList : List Source → Sources
  | [] => .nil
  | s :: ss => .cons s.table s.joins (ofList ss)

end QueryReport.Sql
