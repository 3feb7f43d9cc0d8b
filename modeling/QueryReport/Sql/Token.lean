import QueryReport.Sql.Tree
import QueryReport.Text.Case

/-!
# Tokens of SQL text

The pieces that a query is read from.  A word keeps its name and the upper-case key by which it may
be a keyword; a quoted word has no key.  Blanks and comments are no tokens.
-/

namespace QueryReport.Sql

/-- A piece of SQL text.  `symbol` is an operator or a mark of punctuation, `customOp` an operator
made up of operator characters, `stray` a character that belongs to nothing. -/
inductive Token where
  | word (name : Ident) (key : String)
  | literal (value : Literal)
  | symbol (text : String)
  | customOp (text : String)
  | stray (char : Char)
deriving DecidableEq, Repr, Inhabited

namespace Token

/-- The token of a word that is not quoted. -/
def ofWord (value : String) : Token := word ⟨value, none⟩ (Text.upperKey value)

/-- The token of a quoted word. -/
def ofQuoted (value : String) : Token := word ⟨value, some '"'⟩ ""

/-- The token as it may be shown or named. -/
def text : Token → String
  | word ⟨value, none⟩ _ => value
  | word ⟨value, some q⟩ _ => q.toString ++ value ++ q.toString
  | literal (.string s) => "'" ++ s ++ "'"
  | literal (.number digits long) => digits ++ (if long then "L" else "")
  | literal (.escaped s) => "E'" ++ s ++ "'"
  | literal (.unicode s) => "U&'" ++ s ++ "'"
  | literal (.doubleQuoted s) => "\"" ++ s ++ "\""
  | literal (.national s) => "N'" ++ s ++ "'"
  | literal (.hex s) => "X'" ++ s ++ "'"
  | literal (.bits s) => "B'" ++ s ++ "'"
  | literal (.doubleBits s) => "B\"" ++ s ++ "\""
  | literal (.dollar none s) => "$$" ++ s ++ "$$"
  | literal (.dollar (some tag) s) => "$" ++ tag ++ "$" ++ s ++ "$" ++ tag ++ "$"
  | literal (.boolean b) => if b then "true" else "false"
  | literal .null => "NULL"
  | literal (.placeholder s) => s
  | symbol s => s
  | customOp s => s
  | stray c => c.toString

end Token

end QueryReport.Sql
