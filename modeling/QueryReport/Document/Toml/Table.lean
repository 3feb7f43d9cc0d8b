import QueryReport.Document.Node

/-!
# Tables

The tables of a TOML document while it is read.  A table may be given in several places, but each
of them only once: a table with a header of its own cannot have another, and keys with dots extend
only tables that other such keys began.
-/

namespace QueryReport.Document.Toml

/-- How a table came to be. -/
inductive Origin where
  /-- It has a header. -/
  | header
  /-- It is on the path of a header. -/
  | implied
  /-- It is on the path of a key with dots. -/
  | dotted
deriving DecidableEq, Repr

mutual

/-- What a key of a table has. -/
inductive Entry where
  | value (node : Node)
  | table (origin : Origin) (entries : Entries)
  /-- A table that is given repeatedly: those before, newest first, and the last. -/
  | tables (before : Nodes) (last : Entries)

/-- The keys of a table with what they have. -/
inductive Entries where
  | nil
  | cons (key : String) (entry : Entry) (tail : Entries)

end

instance : Inhabited Entries := ⟨.nil⟩

mutual

/-- The document of an entry. -/
def Entry.node : Entry → Node
  | .value n => n
  | .table _ entries => .object entries.members
  | .tables before last =>
    .array (.ofList (Node.object last.members :: before.toList).reverse)

/-- The members of a table's document. -/
def Entries.members : Entries → NodeMembers
  | .nil => .nil
  | .cons key entry rest => .cons (.ofText key) entry.node rest.members

end

namespace Entries

def find? (key : String) : Entries → Option Entry
  | .nil => none
  | .cons k e rest => if k = key then some e else rest.find? key

/-- The table with the entry of a key replaced, or put at the end. -/
def set (key : String) (entry : Entry) : Entries → Entries
  | .nil => .cons key entry .nil
  | .cons k e rest => if k = key then .cons k entry rest else .cons k e (rest.set key entry)

/-- Changes the table at the end of a path.  Tables on the way are made if they are missing;
`dotted` says that the path is that of a key and not of a header. -/
def walk (dotted : Bool) (change : Entries → Option Entries) :
    List String → Entries → Option Entries
  | [], es => change es
  | key :: path, es =>
    match es.find? key with
    | none => do
      let inner ← walk dotted change path .nil
      some (es.set key (.table (if dotted then .dotted else .implied) inner))
    | some (.table origin inner) =>
      if dotted && origin = .header then none
      else do
        let inner ← walk dotted change path inner
        some (es.set key (.table origin inner))
    | some (.tables before last) =>
      if dotted then none
      else do
        let last ← walk dotted change path last
        some (es.set key (.tables before last))
    | some (.value _) => none

/-- Gives a value to a key, which must have none. -/
def define (path : List String) (key : String) (n : Node) (es : Entries) : Option Entries :=
  es.walk true (fun inner =>
    match inner.find? key with
    | none => some (inner.set key (.value n))
    | some _ => none) path

/-- Begins the table of a header. -/
def openTable (path : List String) (key : String) (es : Entries) : Option Entries :=
  es.walk false (fun inner =>
    match inner.find? key with
    | none => some (inner.set key (.table .header .nil))
    | some (.table .implied members) => some (inner.set key (.table .header members))
    | some _ => none) path

/-- Begins one more of the tables that are given repeatedly. -/
def openItem (path : List String) (key : String) (es : Entries) : Option Entries :=
  es.walk false (fun inner =>
    match inner.find? key with
    | none => some (inner.set key (.tables .nil .nil))
    | some (.tables before last) =>
      some (inner.set key (.tables (.cons (.object last.members) before) .nil))
    | some _ => none) path

end Entries

end QueryReport.Document.Toml
