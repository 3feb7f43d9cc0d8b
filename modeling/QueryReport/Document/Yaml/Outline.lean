import QueryReport.Document.Node
import QueryReport.Document.Shape
import QueryReport.Document.Yaml.Core
import QueryReport.Document.Yaml.Token

/-!
# Documents with references

A YAML document whose values may be marked and referred to elsewhere, even from within themselves.
Only what somebody looks at is expanded, and neither deeper than `Yaml.deepest` nor by more
references than the document is long many times over.

* `Yaml.Outline.expand?` gives the document without references.
-/

namespace QueryReport.Document.Yaml

/-- A document as written. -/
inductive Outline where
  | text (tag : Option String) (form : TextForm) (content : String)
  | array (tag : Option String) (items : List Outline)
  | object (tag : Option String) (members : List (Outline × Outline))
  /-- A value that can be referred to by a number. -/
  | anchored (id : Nat) (content : Outline)
  | reference (id : Nat)
deriving Repr, Inhabited

/-! ## Tags -/

/-- The tag of a kind of scalar. -/
def scalarTag (kind : String) : String := "tag:yaml.org,2002:" ++ kind

/-- The choice that a tag names. -/
def choiceOf? (tag : String) : Option String :=
  match tag.toList with
  | ['!'] => some "!"
  | '!' :: name => some (String.ofList name)
  | _ => none

/-- What a text stands for by itself after a tag that names no choice. -/
def meaningAs (tag content : String) : Scalar :=
  let wanted (s : Option Scalar) : Scalar := s.getD .unusable
  if tag = scalarTag "null" then if nulls.contains content then .null else .unusable
  else if tag = scalarTag "bool" then wanted (.bool <$> bool? content)
  else if tag = scalarTag "int" then wanted (.int <$> integer? content.toList)
  else if tag = scalarTag "float" then wanted (.float <$> float? content.toList)
  else .text content

/-- Whether a text after such a tag stands for something left out. -/
def absentAs (tag : String) (form : TextForm) (content : String) : Option Bool :=
  if form = .plain && tag = scalarTag "null" then
    if nulls.contains content then some true else none
  else some false

/-- What a tag says about a text. -/
def tagOfText (tag : String) (form : TextForm) (content : String) : Tag :=
  match choiceOf? tag with
  | some name => ⟨some name, .unusable, some false⟩
  | none => ⟨none, meaningAs tag content, absentAs tag form content⟩

/-- Whether a text is read as what it spells where its kind is known. -/
def isSpelled (tag : Option String) (form : TextForm) (content : String) : Bool :=
  match form with
  | .plain => true
  | .other => false
  | .literal =>
    match plainScalar content with
    | .int _ => tag = some (scalarTag "int")
    | .bool _ => tag = some (scalarTag "bool")
    | _ => false

/-- The node of a text. -/
def textNode (tag : Option String) (form : TextForm) (content : String) : Node :=
  let node : Node :=
    if isSpelled tag form content then .scalar (plainScalar content) (some content)
    else .ofText content
  match tag with
  | none => node
  | some tag => .tagged (tagOfText tag form content) node

/-- The node of a collection.  Only a tag that names a choice matters. -/
def collectionNode (tag : Option String) (n : Node) : Node :=
  match tag.bind choiceOf? with
  | some name => .tagged ⟨some name, .unusable, some false⟩ n
  | none => n

/-- The node where nothing is written. -/
def emptyNode : Node := .scalar .null (some "")

namespace Outline

/-! ## The parts of an outline -/

mutual

/-- An outline and all that is written in it, in order. -/
def parts : Outline → List Outline
  | .array tag items => .array tag items :: itemParts items
  | .object tag members => .object tag members :: memberParts members
  | .anchored id content => .anchored id content :: content.parts
  | o => [o]

def itemParts : List Outline → List Outline
  | [] => []
  | o :: os => o.parts ++ itemParts os

def memberParts : List (Outline × Outline) → List Outline
  | [] => []
  | (key, value) :: ms => key.parts ++ (value.parts ++ memberParts ms)

end

/-- How much is written: collections count at both ends, marks not at all. -/
def size (o : Outline) : Nat :=
  (o.parts.map fun
    | .array _ _ | .object _ _ => 2
    | .anchored _ _ => 0
    | _ => 1).foldl (· + ·) 0

/-- The marked values by their numbers, the ones that begin last first. -/
def anchors (o : Outline) : List (Nat × Outline) :=
  (o.parts.filterMap fun
    | .anchored id content => some (id, content)
    | _ => none).reverse

/-! ## Expansion -/

/-- How deeply collections may nest where somebody looks. -/
def deepest : Nat := 128

/-- An expansion, which may still follow so many references. -/
abbrev Expansion := StateT Nat Option

/-- The value that stands where a reference is. -/
def follow (anchors : List (Nat × Outline)) : Outline → Expansion Outline
  | .anchored _ content => pure content
  | .reference id => do
    let left ← get
    if left = 0 then failure
    set (left - 1)
    match anchors.lookup id with
    | some o => pure o
    | none => failure
  | o => pure o

/-- The document without references, where collections may nest so deeply. -/
def expandIn (anchors : List (Nat × Outline)) (depth : Nat) (shape : Shape) (o : Outline) :
    Expansion Node := do
  match ← follow anchors o, depth with
  | .text tag form content, _ => pure (textNode tag form content)
  | .array tag items, depth + 1 => do
    let nodes ← items.mapM (expandIn anchors depth shape.item)
    pure (collectionNode tag (.array (.ofList nodes)))
  | .object tag members, depth + 1 => do
    let nodes ← members.mapM fun (key, value) => do
      let key ← expandIn anchors depth .whole key
      match shape.member key.text? with
      | some part => do
        let value ← expandIn anchors depth part value
        pure (key, value)
      | none => pure (key, emptyNode)
    pure (collectionNode tag (.object (.ofList nodes)))
  | _, _ => failure

/-- The document without references. -/
def expand? (shape : Shape) (o : Outline) : Option Node :=
  (expandIn o.anchors deepest shape o).run' (100 * o.size)

end Outline

end QueryReport.Document.Yaml
