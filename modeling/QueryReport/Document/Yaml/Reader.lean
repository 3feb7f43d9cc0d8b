import QueryReport.Document.Yaml.Lexer
import QueryReport.Document.Yaml.Outline

/-!
# Reading YAML

The document that tokens spell.  Where a value is missing, an empty text stands.

* `Yaml.ofTokens?` gives the document of a list of tokens.
* `Yaml.read?` reads a whole text, which has to hold one document.
-/

namespace QueryReport.Document.Yaml

/-- The outline where nothing is written. -/
def nothing : Outline := .text none .plain ""

/-! ## What stands before a value -/

/-- A mark and a tag that may stand before a value. -/
structure Properties where
  anchor : Option Nat := none
  tag : Option String := none
deriving Repr

namespace Properties

/-- What stands before a value, in either order, and the tokens after it. -/
def read : List Token → Properties × List Token
  | .anchor id :: .tag name :: rest => (⟨some id, some name⟩, rest)
  | .tag name :: .anchor id :: rest => (⟨some id, some name⟩, rest)
  | .anchor id :: rest => (⟨some id, none⟩, rest)
  | .tag name :: rest => (⟨none, some name⟩, rest)
  | ts => ({}, ts)

def isEmpty (p : Properties) : Bool := p.anchor.isNone && p.tag.isNone

/-- The value with its mark. -/
def mark (p : Properties) (o : Outline) : Outline :=
  match p.anchor with
  | some id => .anchored id o
  | none => o

/-- A text.  An exclamation mark alone is no tag of it. -/
def text (p : Properties) (form : TextForm) (content : String) : Outline :=
  p.mark (.text (p.tag.filter (· != "!")) form content)

def array (p : Properties) (items : List Outline) : Outline := p.mark (.array p.tag items)

def object (p : Properties) (members : List (Outline × Outline)) : Outline :=
  p.mark (.object p.tag members)

/-- A value of which nothing is written but what stands before it. -/
def alone (p : Properties) : Outline := p.mark (.text p.tag .plain "")

end Properties

/-! ## Values -/

/-- Whether a value is missing after a mark in a block: the next token belongs to what comes
after. -/
def endsEntry : List Token → Bool
  | .entry :: _ | .blockEnd :: _ => true
  | _ => false

/-- Whether a key or a value is missing in a block. -/
def endsMember : List Token → Bool
  | .key :: _ | .value :: _ | .blockEnd :: _ => true
  | _ => false

/-- Whether a key or a value is missing inside brackets. -/
def endsFlow : List Token → Bool
  | .value :: _ | .comma :: _ | .closeBracket :: _ | .closeBrace :: _ => true
  | _ => false

/-- The tokens after the comma that has to stand between two items in brackets. -/
def afterComma (first : Bool) (ts : List Token) : Option (List Token) :=
  if first then some ts
  else match ts with
    | .comma :: rest => some rest
    | _ => none

mutual

/-- A value, and the tokens after it.  `block` admits block collections, `indentless` also items
that stand no further in than the key. -/
def node (block indentless : Bool) : Nat → List Token → Option (Outline × List Token)
  | 0, _ => none
  | fuel + 1, ts =>
    match Properties.read ts with
    | (p, .text form content :: rest) => some (p.text form content, rest)
    | (p, .openBracket :: rest) => do
      let (items, rest) ← flowItems true fuel rest
      some (p.array items, rest)
    | (p, .openBrace :: rest) => do
      let (members, rest) ← flowMembers true fuel rest
      some (p.object members, rest)
    | (p, rest) =>
      match block, indentless, p.isEmpty, rest with
      | true, _, _, .sequenceStart :: rest => do
        let (items, rest) ← blockItems fuel rest
        some (p.array items, rest)
      | true, _, _, .mappingStart :: rest => do
        let (members, rest) ← blockMembers fuel rest
        some (p.object members, rest)
      | _, true, _, .entry :: _ => do
        let (items, rest) ← indentlessItems fuel rest
        some (p.array items, rest)
      -- A reference takes no tag and no anchor of its own.
      | _, _, true, .reference id :: rest => some (.reference id, rest)
      | _, _, true, _ => none
      | _, _, false, rest => some (p.alone, rest)

/-- The items of an indented block up to its end. -/
def blockItems : Nat → List Token → Option (List Outline × List Token)
  | 0, _ => none
  | fuel + 1, ts =>
    match ts with
    | .blockEnd :: rest => some ([], rest)
    | .entry :: rest => do
      let (item, rest) ←
        if endsEntry rest then some (nothing, rest) else node true false fuel rest
      let (items, rest) ← blockItems fuel rest
      some (item :: items, rest)
    | _ => none

/-- The items below a key that are not indented. -/
def indentlessItems : Nat → List Token → Option (List Outline × List Token)
  | 0, _ => none
  | fuel + 1, ts =>
    match ts with
    | .entry :: rest => do
      let (item, rest) ←
        if endsEntry rest || endsMember rest then some (nothing, rest)
        else node true false fuel rest
      let (items, rest) ← indentlessItems fuel rest
      some (item :: items, rest)
    | ts => some ([], ts)

/-- The members of a block up to its end. -/
def blockMembers : Nat → List Token → Option (List (Outline × Outline) × List Token)
  | 0, _ => none
  | fuel + 1, ts =>
    match ts with
    | .blockEnd :: rest => some ([], rest)
    | .key :: rest => do
      let (key, rest) ←
        if endsMember rest then some (nothing, rest) else node true true fuel rest
      let (value, rest) ← blockValue fuel rest
      let (members, rest) ← blockMembers fuel rest
      some ((key, value) :: members, rest)
    | _ => none

/-- The value of a key in a block. -/
def blockValue : Nat → List Token → Option (Outline × List Token)
  | 0, _ => none
  | fuel + 1, ts =>
    match ts with
    | .value :: rest =>
      if endsMember rest then some (nothing, rest) else node true true fuel rest
    | ts => some (nothing, ts)

/-- The items in brackets up to the closing one.  A key among them makes an object of one
member.  If that key is missing, the token that says so is passed over. -/
def flowItems (first : Bool) : Nat → List Token → Option (List Outline × List Token)
  | 0, _ => none
  | fuel + 1, ts =>
    match ts with
    | .closeBracket :: rest => some ([], rest)
    | ts => do
      match ← afterComma first ts with
      | .closeBracket :: rest => some ([], rest)
      | .key :: rest => do
        let (key, rest) ← match rest with
          | .value :: rest | .comma :: rest | .closeBracket :: rest => some (nothing, rest)
          | rest => node false false fuel rest
        let (value, rest) ← flowValue fuel rest
        let (items, rest) ← flowItems false fuel rest
        some (.object none [(key, value)] :: items, rest)
      | rest => do
        let (item, rest) ← node false false fuel rest
        let (items, rest) ← flowItems false fuel rest
        some (item :: items, rest)

/-- The members in braces up to the closing one. -/
def flowMembers (first : Bool) : Nat → List Token → Option (List (Outline × Outline) × List Token)
  | 0, _ => none
  | fuel + 1, ts =>
    match ts with
    | .closeBrace :: rest => some ([], rest)
    | ts => do
      match ← afterComma first ts with
      | .closeBrace :: rest => some ([], rest)
      | .key :: rest => do
        let (key, rest) ←
          if endsFlow rest then some (nothing, rest) else node false false fuel rest
        let (value, rest) ← flowValue fuel rest
        let (members, rest) ← flowMembers false fuel rest
        some ((key, value) :: members, rest)
      | rest => do
        let (key, rest) ← node false false fuel rest
        let (members, rest) ← flowMembers false fuel rest
        some ((key, nothing) :: members, rest)

/-- The value of a key inside brackets. -/
def flowValue : Nat → List Token → Option (Outline × List Token)
  | 0, _ => none
  | fuel + 1, ts =>
    match ts with
    | .value :: rest =>
      if endsFlow rest then some (nothing, rest) else node false false fuel rest
    | ts => some (nothing, ts)

end

/-! ## Documents -/

/-- The document that tokens spell.  A value takes at most two steps for each of its tokens. -/
def ofTokens? (ts : List Token) : Option Outline := do
  let fuel := 2 * ts.length + 2
  let (o, rest) ← match ts.dropWhile (· == .directive) with
    | [] => none
    | .documentStart :: rest =>
      match rest with
      | [] | .documentStart :: _ | .documentEnd :: _ | .directive :: _ => some (nothing, rest)
      | _ => node true false fuel rest
    | rest => if ts.head? = some .directive then none else node true false fuel rest
  if rest.all (· == .documentEnd) then some o else none

/-- The one document of a text, as far as somebody looks at it. -/
def read? (shape : Shape) (text : String) : Option Node := do
  let ts ← tokens text
  let o ← ofTokens? ts
  o.expand? shape

end QueryReport.Document.Yaml
