import QueryReport.Document.Tree

/-!
# Documents as read

A document that has been read but not yet given a meaning.  A scalar has the value it stands for by
itself and, where it was written so that it may also be taken for text, that text.  A tag may stand
before a node and say what it is.
-/

namespace QueryReport.Document

open Decimal

/-- What a scalar stands for by itself.  An `unusable` one is well formed but stands for nothing;
it does no harm where nobody asks for it. -/
inductive Scalar where
  | null
  | bool (value : Bool)
  | int (value : Int)
  | float (value : Binary64)
  | text (value : String)
  | unusable
deriving DecidableEq, Repr, Inhabited

/-- What a tag says about the node that it stands before.  It only counts where the kind of the
node is not known anyway. -/
structure Tag where
  /-- The name of a choice. -/
  choice : Option String
  /-- What the node stands for by itself. -/
  meaning : Scalar
  /-- Whether the node stands for something that is left out; nothing if the tag says so and the
  node does not. -/
  absent : Option Bool
deriving DecidableEq, Repr, Inhabited

mutual

/-- A document as read. -/
inductive Node where
  | scalar (value : Scalar) (written : Option String)
  | array (items : Nodes)
  | object (members : NodeMembers)
  | tagged (tag : Tag) (content : Node)

/-- The items of an array. -/
inductive Nodes where
  | nil
  | cons (head : Node) (tail : Nodes)

/-- The members of an object. -/
inductive NodeMembers where
  | nil
  | cons (key value : Node) (tail : NodeMembers)

end

instance : Inhabited Node := ⟨.scalar .null none⟩

def Nodes.ofList : List Node → Nodes
  | [] => .nil
  | n :: ns => .cons n (ofList ns)

def Nodes.toList : Nodes → List Node
  | .nil => []
  | .cons n ns => n :: ns.toList

def NodeMembers.ofList : List (Node × Node) → NodeMembers
  | [] => .nil
  | (k, n) :: ms => .cons k n (ofList ms)

def NodeMembers.toList : NodeMembers → List (Node × Node)
  | .nil => []
  | .cons k n ms => (k, n) :: ms.toList

@[simp] theorem Nodes.toList_ofList (ns : List Node) : (Nodes.ofList ns).toList = ns := by
  induction ns with
  | nil => rfl
  | cons n ns ih => simp [ofList, toList, ih]

@[simp] theorem NodeMembers.toList_ofList (ms : List (Node × Node)) :
    (NodeMembers.ofList ms).toList = ms := by
  induction ms with
  | nil => rfl
  | cons m ms ih => simp [ofList, toList, ih]

mutual

/-- How deeply arrays and objects nest. -/
def Node.depth : Node → Nat
  | .scalar _ _ => 0
  | .array items => items.depth + 1
  | .object members => members.depth + 1
  | .tagged _ n => n.depth

def Nodes.depth : Nodes → Nat
  | .nil => 0
  | .cons n ns => max n.depth ns.depth

def NodeMembers.depth : NodeMembers → Nat
  | .nil => 0
  | .cons k n ms => max (max k.depth n.depth) ms.depth

end

namespace Node

/-- A text that can be nothing else. -/
def ofText (s : String) : Node := .scalar (.text s) (some s)

/-- The node without its tag. -/
def untagged : Node → Node
  | .tagged _ n => n.untagged
  | n => n

/-- The text of a scalar that may be taken for text. -/
def text? (n : Node) : Option String :=
  match n.untagged with
  | .scalar .unusable _ => none
  | .scalar _ written => written
  | _ => none

def isNull (n : Node) : Bool :=
  match n.untagged with
  | .scalar .null _ => true
  | _ => false

/-- Whether the node stands for something that is left out, if that can be said. -/
def absent? : Node → Option Bool
  | .tagged tag _ => tag.absent
  | n => some n.isNull

/-- Whether nothing is written where the node stands. -/
def isEmpty (n : Node) : Bool :=
  match n.untagged with
  | .scalar .null (some "") => true
  | _ => false

/-- The items of an array; nothing written counts as no items. -/
def items? (n : Node) : Option (List Node) :=
  match n.untagged with
  | .array items => some items.toList
  | n => if n.isEmpty then some [] else none

/-- The members of an object; nothing written counts as no members. -/
def members? (n : Node) : Option (List (Node × Node)) :=
  match n.untagged with
  | .object members => some members.toList
  | n => if n.isEmpty then some [] else none

end Node

end QueryReport.Document
