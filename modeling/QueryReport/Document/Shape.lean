/-!
# The parts of a document that matter

Who reads a document looks only at parts of it.  Where the parts refer to one another, what nobody
looks at is never followed, so it may refer to itself or stand for more than could be written.
-/

namespace QueryReport.Document

/-- The parts of a document that are looked at. -/
inductive Shape where
  /-- All of it. -/
  | whole
  /-- These members of an object. -/
  | record (fields : List (String × Shape))
  /-- The same part of every item or member. -/
  | each (part : Shape)
deriving Repr, Inhabited

namespace Shape

/-- An object of the given fields.  They are looked at as a whole unless something else is said. -/
def ofFields (names : List String) (deeper : List (String × Shape)) : Shape :=
  .record (names.map fun name => (name, (deeper.lookup name).getD .whole))

/-- The part of an item that is looked at. -/
def item : Shape → Shape
  | .each part => part
  | _ => .whole

/-- The part of a member that is looked at, if it is; its key need not be text. -/
def member (key : Option String) : Shape → Option Shape
  | .whole => some .whole
  | .each part => some part
  | .record fields => key.bind fun name => fields.lookup name

end Shape

end QueryReport.Document
