import QueryReport.Document.Yaml.Character
import QueryReport.Text.Digits

/-!
# Tags and directives

A tag says what kind of thing a value is.  It is written in full, or as a handle and a suffix, and
then the handle stands for a beginning that a directive at the start of the document may declare.

* `Yaml.readTag` reads a tag.
* `Yaml.readDirective` reads the line of a directive.
* `Yaml.isNameChar` says which characters names consist of.
-/

namespace QueryReport.Document.Yaml

/-- Whether a character may be in the name of an anchor, a handle or a directive. -/
def isNameChar (c : Char) : Bool := c.isAlphanum || c = '_' || c = '-'

/-- A name, and what follows it. -/
def nameOf (cs : List Char) : List Char × List Char := cs.span isNameChar

/-! ## Addresses -/

/-- Whether a character may be in a tag as it is.  Inside angle brackets more may. -/
def isAddressChar (inAngles : Bool) (c : Char) : Bool :=
  isNameChar c
    || [';', '/', '?', ':', '@', '&', '=', '+', '$', '.', '!', '~', '*', '\'', '(', ')'].contains c
    || (inAngles && [',', '[', ']'].contains c)

/-- How many more octets a first octet of a character announces, and its share of the code point. -/
def leadingOctet (octet : Nat) : Option (Nat × Nat) :=
  if octet < 0x80 then some (0, octet)
  else if 0xC0 ≤ octet && octet < 0xE0 then some (1, octet - 0xC0)
  else if 0xE0 ≤ octet && octet < 0xF0 then some (2, octet - 0xE0)
  else if 0xF0 ≤ octet && octet < 0xF8 then some (3, octet - 0xF0)
  else none

/-- The characters of a tag, and what follows them.  Octets may be written after percent signs;
`pending` of them are missing from the character that has the code point `code` so far. -/
def addressFrom (inAngles : Bool) (pending code : Nat) :
    List Char → Option (List Char × List Char)
  | '%' :: a :: b :: rest => do
    let octet ← Text.numberInBase? 16 [a, b]
    let (pending, code) ←
      if pending = 0 then leadingOctet octet
      else if 0x80 ≤ octet && octet < 0xC0 then some (pending - 1, code * 64 + (octet - 0x80))
      else none
    if pending = 0 then
      let c ← Text.charOfCode? code
      let (cs, rest) ← addressFrom inAngles 0 0 rest
      some (c :: cs, rest)
    else addressFrom inAngles pending code rest
  | c :: rest =>
    if pending ≠ 0 || c = '%' then none
    else if isAddressChar inAngles c then do
      let (cs, rest) ← addressFrom inAngles 0 0 rest
      some (c :: cs, rest)
    else some ([], c :: rest)
  | [] => if pending = 0 then some ([], []) else none

/-- An address of at least one character. -/
def readAddress (inAngles : Bool) (cs : List Char) : Option (String × List Char) := do
  let (address, rest) ← addressFrom inAngles 0 0 cs
  if address.isEmpty then none else some (String.ofList address, rest)

/-! ## Tags -/

/-- The beginnings that handles stand for, the ones declared last first. -/
abbrev Handles := List (String × String)

/-- The handles that need no directive. -/
def standardHandles : Handles := [("!", "!"), ("!!", "tag:yaml.org,2002:")]

/-- A tag that stands before a value: what it means, and what follows it. -/
def tagFrom (handles : Handles) : List Char → Option (String × List Char)
  | '!' :: '<' :: rest => do
    let (address, rest) ← readAddress true rest
    match rest with
    | '>' :: rest => some (address, rest)
    | _ => none
  | '!' :: rest => do
    let (name, rest) := nameOf rest
    match rest with
    | '!' :: rest =>
      let (suffix, rest) ← readAddress false rest
      let beginning ← handles.lookup (String.ofList ('!' :: (name ++ ['!'])))
      some (beginning ++ suffix, rest)
    | rest =>
      let (more, rest) ← addressFrom false 0 0 rest
      let suffix := name ++ more
      if suffix.isEmpty then some ("!", rest)
      else
        let beginning ← handles.lookup "!"
        some (beginning ++ String.ofList suffix, rest)
  | _ => none

/-- A tag, after which a separator has to stand, or a comma inside brackets. -/
def readTag (handles : Handles) (flow : Bool) (cs : List Char) : Option (String × List Char) := do
  let (tag, rest) ← tagFrom handles cs
  if endsWord rest || (flow && rest.head? = some ',') then some (tag, rest) else none

/-! ## Directives -/

/-- A directive. -/
inductive Directive where
  | version (major minor : Nat)
  | handle (name beginning : String)
deriving DecidableEq, Repr

/-- A part of a version: up to nine digits. -/
def versionPart (cs : List Char) : Option (Nat × List Char) := do
  let (digits, rest) := cs.span Char.isDigit
  if digits.length ≤ 9 then
    let n ← Text.numberInBase? 10 digits
    some (n, rest)
  else none

def versionFrom (cs : List Char) : Option (Directive × List Char) := do
  let (major, rest) ← versionPart (cs.dropWhile isBlank)
  match rest with
  | '.' :: rest =>
    let (minor, rest) ← versionPart rest
    some (.version major minor, rest)
  | _ => none

/-- The name of a handle in a directive: an exclamation mark alone, or two around a name. -/
def handleName : List Char → Option (List Char × List Char)
  | '!' :: rest =>
    match nameOf rest with
    | (name, '!' :: rest) => some ('!' :: (name ++ ['!']), rest)
    | ([], rest) => some (['!'], rest)
    | _ => none
  | _ => none

def handleFrom (cs : List Char) : Option (Directive × List Char) := do
  let (name, rest) ← handleName (cs.dropWhile isBlank)
  if rest.head?.any isBlank then
    let (beginning, rest) ← readAddress true (rest.dropWhile isBlank)
    if endsWord rest then some (.handle (String.ofList name) beginning, rest) else none
  else none

/-- What follows the line of a directive, which may end with a comment. -/
def endLine (cs : List Char) : Option (List Char) :=
  let rest := cs.dropWhile isBlank
  let rest := if rest.head? = some '#' then rest.dropWhile (!isBreak ·) else rest
  match rest with
  | [] => some []
  | c :: rest => if isBreak c then some rest else none

/-- A directive after its percent sign, and what follows its line. -/
def readDirective (cs : List Char) : Option (Directive × List Char) := do
  let (name, rest) := nameOf cs
  if !endsWord rest then none
  else
    let (directive, rest) ←
      if name = ['Y', 'A', 'M', 'L'] then versionFrom rest
      else if name = ['T', 'A', 'G'] then handleFrom rest
      else none
    let rest ← endLine rest
    some (directive, rest)

end QueryReport.Document.Yaml
