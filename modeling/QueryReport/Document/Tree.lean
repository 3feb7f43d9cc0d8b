import QueryReport.Decimal.Binary64

/-!
# Documents to write

A document as a tree of scalars, arrays and objects.  An object keeps its members in the order in
which they are written, repeated keys included.  Arrays and objects hold sequences of their own
types, so equality is decidable; `toList` and `ofList` relate them to lists.
-/

namespace QueryReport.Document

open Decimal

mutual

/-- A document. -/
inductive Tree where
  | null
  | bool (value : Bool)
  | int (value : Int)
  | float (value : Binary64)
  | text (value : String)
  | array (items : Trees)
  | object (members : Members)

/-- The items of an array. -/
inductive Trees where
  | nil
  | cons (head : Tree) (tail : Trees)

/-- The members of an object. -/
inductive Members where
  | nil
  | cons (key : String) (value : Tree) (tail : Members)

end

deriving instance DecidableEq, Repr for Tree, Trees, Members

instance : Inhabited Tree := ⟨.null⟩

def Trees.ofList : List Tree → Trees
  | [] => .nil
  | t :: ts => .cons t (ofList ts)

def Trees.toList : Trees → List Tree
  | .nil => []
  | .cons t ts => t :: ts.toList

def Members.ofList : List (String × Tree) → Members
  | [] => .nil
  | (k, t) :: ms => .cons k t (ofList ms)

def Members.toList : Members → List (String × Tree)
  | .nil => []
  | .cons k t ms => (k, t) :: ms.toList

@[simp] theorem Trees.toList_ofList (ts : List Tree) : (Trees.ofList ts).toList = ts := by
  induction ts with
  | nil => rfl
  | cons t ts ih => simp [ofList, toList, ih]

@[simp] theorem Members.toList_ofList (ms : List (String × Tree)) :
    (Members.ofList ms).toList = ms := by
  induction ms with
  | nil => rfl
  | cons m ms ih => simp [ofList, toList, ih]

/-- The members with a key set.  Members are in order of their keys; a member with the same key is
replaced. -/
def Members.insert (key : String) (value : Tree) : Members → Members
  | .nil => .cons key value .nil
  | .cons k v rest =>
    if key < k then .cons key value (.cons k v rest)
    else if key = k then .cons key value rest
    else .cons k v (rest.insert key value)

/-- An array of items. -/
def Tree.ofItems (items : List Tree) : Tree := .array (.ofList items)

/-- An object of members in order. -/
def Tree.ofMembers (members : List (String × Tree)) : Tree := .object (.ofList members)

end QueryReport.Document
