/-!
# Tokens of YAML

What a YAML text consists of.  Block collections are opened and closed by their indentation, so
they have tokens for that which no characters spell.  The names of anchors have become numbers, and
the handles of tags what they stand for.
-/

namespace QueryReport.Document.Yaml

/-- How a text is written. -/
inductive TextForm where
  /-- Without quotes, and no block. -/
  | plain
  /-- As a block that keeps its line breaks. -/
  | literal
  /-- In quotes, or as a block that does not. -/
  | other
deriving DecidableEq, Repr, Inhabited

/-- A token. -/
inductive Token where
  | directive
  | documentStart
  | documentEnd
  | sequenceStart
  | mappingStart
  | blockEnd
  | entry
  | key
  | value
  | openBracket
  | closeBracket
  | openBrace
  | closeBrace
  | comma
  /-- A mark that the value after it can be referred to. -/
  | anchor (id : Nat)
  /-- A reference to the value with a mark. -/
  | reference (id : Nat)
  | tag (name : String)
  | text (form : TextForm) (content : String)
deriving DecidableEq, Repr, Inhabited

end QueryReport.Document.Yaml
