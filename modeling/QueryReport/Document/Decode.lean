import QueryReport.Decimal.Read
import QueryReport.Document.Node

/-!
# Giving documents a meaning

Readers of numbers, names and records out of a document.  A record is an object whose members are
its fields, or in some formats an array of its fields in order.
-/

namespace QueryReport.Document

open Decimal

/-- Why a document does not have the meaning that was asked for. -/
inductive DecodeFault where
  | missing (field : String)
  | repeated (field : String)
  | mismatch (expected : String)
  | tooDeep
deriving DecidableEq, Repr

def DecodeFault.message : DecodeFault → String
  | .missing field => "missing field " ++ field
  | .repeated field => "repeated field " ++ field
  | .mismatch expected => "expected " ++ expected
  | .tooDeep => "too deeply nested"

/-- Whether a record may be an array of its fields. -/
inductive Positional where
  | never
  /-- The array has no more items than there are fields. -/
  | exact
  /-- What follows the last field is passed over. -/
  | loose
deriving DecidableEq, Repr

/-- Where document formats differ in what they admit. -/
structure Rules where
  /-- The values that may follow a name which is the only key of an object, if a name may be
  written so. -/
  keyed : Option (Node → Bool)
  positional : Positional
  /-- How deeply a free-form part may nest. -/
  depth : Nat

/-- The fields of a record that a document states. -/
abbrev Record := List (String × Node)

/-- The fields of a record among the members of an object.  Other members are passed over. -/
def recordOfMembers (fields : List String) : List (Node × Node) → Record →
    Except DecodeFault Record
  | [], found => .ok found
  | (key, value) :: rest, found =>
    match key.text? with
    | none => .error (.mismatch "a key")
    | some name =>
      if !fields.contains name then recordOfMembers fields rest found
      else if found.any (·.1 == name) then .error (.repeated name)
      else recordOfMembers fields rest ((name, value) :: found)

/-- The record that the items of an array state. -/
def recordOfItems (rules : Rules) (fields : List String) (items : List Node) :
    Except DecodeFault Record :=
  match rules.positional with
  | .never => .error (.mismatch "a record")
  | .exact =>
    if fields.length < items.length then .error (.mismatch "fewer items")
    else .ok (fields.zip items)
  | .loose => .ok (fields.zip items)

/-- The record that a document states. -/
def Node.record (rules : Rules) (fields : List String) (n : Node) : Except DecodeFault Record :=
  match n.members?, n.items? with
  | some members, _ => recordOfMembers fields members []
  | none, some items => recordOfItems rules fields items
  | none, none => .error (.mismatch "a record")

namespace Record

def find? (r : Record) (field : String) : Option Node := r.lookup field

/-- A field that has to be there. -/
def required {α : Type} (r : Record) (field : String) (decode : Node → Except DecodeFault α) :
    Except DecodeFault α :=
  match r.find? field with
  | some n => decode n
  | none => .error (.missing field)

/-- A field with a default. -/
def optional {α : Type} (r : Record) (field : String) (default : α)
    (decode : Node → Except DecodeFault α) : Except DecodeFault α :=
  match r.find? field with
  | some n => decode n
  | none => .ok default

end Record

/-- The meaning of a document unless it stands for something left out. -/
def maybe {α : Type} (decode : Node → Except DecodeFault α) (n : Node) :
    Except DecodeFault (Option α) :=
  match n.absent? with
  | some true => .ok none
  | some false => some <$> decode n
  | none => .error (.mismatch "null")

def decodeText (n : Node) : Except DecodeFault String :=
  match n.text? with
  | some s => .ok s
  | none => .error (.mismatch "a text")

def decodeBool (n : Node) : Except DecodeFault Bool :=
  match n.untagged with
  | .scalar (.bool b) _ => .ok b
  | _ => .error (.mismatch "a boolean")

/-- An integer between bounds, the upper one excluded. -/
def decodeInt (least limit : Int) (n : Node) : Except DecodeFault Int :=
  match n.untagged with
  | .scalar (.int i) _ =>
    if least ≤ i && i < limit then .ok i else .error (.mismatch "a smaller integer")
  | _ => .error (.mismatch "an integer")

/-- Whether a scalar is written with a minus sign, which may also stand before zero. -/
def Node.hasMinus (n : Node) : Bool := (n.text?.getD "").toList.head? == some '-'

/-- A natural number of at most so many bits, written without a minus sign. -/
def decodeNat (bits : Nat) (n : Node) : Except DecodeFault Nat :=
  if n.hasMinus then .error (.mismatch "a natural number")
  else Int.toNat <$> decodeInt 0 (Int.pow 2 bits) n

/-- The name that a document gives to a choice: its text, its only key, or its tag if nothing but
null follows. -/
def Node.choice (rules : Rules) (n : Node) : Except DecodeFault String :=
  match rules.keyed, n with
  | some admits, .object (.cons key value .nil) =>
    if admits value then decodeText key else .error (.mismatch "a name")
  | _, .tagged { choice := some name, .. } content =>
    if content.isNull then .ok name else .error (.mismatch "a name")
  | _, n => decodeText n

/-- One of several values by its name. -/
def decodeName {α : Type} (rules : Rules) (name : α → String) (all : List α) (n : Node) :
    Except DecodeFault α := do
  let written ← n.choice rules
  match all.find? fun a => name a == written with
  | some a => .ok a
  | none => .error (.mismatch "a known name")

/-- The items of an array. -/
def decodeItems {α : Type} (decode : Node → Except DecodeFault α) (n : Node) :
    Except DecodeFault (List α) :=
  match n.items? with
  | some items => items.mapM decode
  | none => .error (.mismatch "a list")

/-- A free-form scalar. -/
def Scalar.tree : Scalar → Except DecodeFault Tree
  | .null => .ok .null
  | .bool b => .ok (.bool b)
  | .int n =>
    if -Int.pow 2 63 ≤ n && n < Int.pow 2 64 then .ok (.int n)
    else .error (.mismatch "a smaller integer")
  | .float x => .ok (if x.isFinite then .float x else .null)
  | .text s => .ok (.text s)
  | .unusable => .error (.mismatch "a value")

mutual

/-- A free-form document, its objects in order of their keys. -/
def Node.tree : Node → Except DecodeFault Tree
  | .scalar value _ => value.tree
  | .tagged tag _ => tag.meaning.tree
  | .array items => do
    let items ← items.trees
    pure (.array items)
  | .object members => do
    let members ← members.treesInto .nil
    pure (.object members)

def Nodes.trees : Nodes → Except DecodeFault Trees
  | .nil => .ok .nil
  | .cons n ns => do
    let t ← n.tree
    let ts ← ns.trees
    pure (.cons t ts)

/-- The members of an object put in order of their keys; of members with one key the last stays. -/
def NodeMembers.treesInto : NodeMembers → Members → Except DecodeFault Members
  | .nil, found => .ok found
  | .cons key n rest, found => do
    let key ← decodeText key
    let t ← n.tree
    rest.treesInto (found.insert key t)

end

/-- A free-form document that does not nest too deeply. -/
def decodeTree (rules : Rules) (n : Node) : Except DecodeFault Tree :=
  if rules.depth < n.depth then .error .tooDeep else n.tree

end QueryReport.Document
