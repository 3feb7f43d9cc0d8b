/-!
# Faults in SQL text

Why a text cannot be read as SQL, or not as the one query that was asked for.
-/

namespace QueryReport.Sql

/-- A reason to refuse a text. -/
inductive Fault where
  /-- A quoted text or a comment has no end, or an escape in it means nothing. -/
  | unreadable (what : String)
  /-- Something else should stand where this was found. -/
  | unexpected (found : String)
  /-- The text nests too deeply. -/
  | tooDeep
  /-- The text reads as something other than a single query. -/
  | notAQuery (text : String)
deriving DecidableEq, Repr

def Fault.message : Fault → String
  | .unreadable what => "sql parser error: Unreadable " ++ what
  | .unexpected found => "sql parser error: Unexpected " ++ found
  | .tooDeep => "sql parser error: Too deeply nested"
  | .notAQuery text => s!"fragment \x60{text}\x60 did not parse to a single query"

end QueryReport.Sql
