import QueryReport.Error
import QueryReport.Text.Words

/-!
# Dialects

A query's text as another database takes it.  T-SQL has no quotes around names here, and limits
rows with `TOP` after `SELECT` instead of `LIMIT` at the end; it cannot skip rows.
-/

namespace QueryReport.Sql

open QueryReport.Text

/-- The dialects a query can be written in. -/
inductive Dialect where
  | postgres | tsql
deriving DecidableEq, Repr, Inhabited

namespace Dialect

def all : List Dialect := [postgres, tsql]

def name : Dialect → String
  | postgres => "postgres"
  | tsql => "tsql"

/-- The dialect of a name or one of its synonyms, in any case. -/
def ofName? (name : String) : Option Dialect :=
  match Text.lower name with
  | "postgres" | "postgresql" | "pg" => some postgres
  | "tsql" | "mssql" | "sqlserver" => some tsql
  | _ => none

/-! ## Quotes -/

/-- The text without double quotes outside of texts in single quotes.  `inside` says that such a
text is open; a single quote that has no partner opens none. -/
def stripQuotes (inside : Bool) : List Char → List Char
  | [] => []
  | c :: rest =>
    if inside then c :: stripQuotes (c ≠ '\'') rest
    else if c = '\'' then c :: stripQuotes (rest.contains '\'') rest
    else if c = '"' then stripQuotes false rest
    else c :: stripQuotes false rest

/-! ## Limits -/

/-- What stands before a word that ends the text and has a blank before it. -/
def beforeWord? (word : List Char) (reversed : List Char) : Option (List Char) :=
  match afterWord? word.reverse reversed with
  | some (c :: rest) => if isBlank c then some (dropBlanks rest) else none
  | _ => none

/-- The text before a `LIMIT` with digits at the end of it, and the digits. -/
def splitLimit? (cs : List Char) : Option (List Char × List Char) :=
  let reversed := dropBlanks cs.reverse
  let digits := reversed.takeWhile isDecimal
  match reversed.dropWhile isDecimal with
  | c :: rest =>
    if digits.isEmpty || !isBlank c then none
    else (beforeWord? "limit".toList (dropBlanks rest)).map fun before =>
      (before.reverse, digits.reverse)
  | [] => none

/-- How many characters the blanks at the start of a text are, if there are any. -/
def blanksLength? (cs : List Char) : Option Nat :=
  match (cs.takeWhile isBlank).length with
  | 0 => none
  | n => some n

/-- How many characters a word at the start of a text takes with the blanks that have to follow
it. -/
def wordLength? (word cs : List Char) : Option Nat := do
  let rest ← afterWord? word cs
  let blanks ← blanksLength? rest
  some (word.length + blanks)

/-- How many characters the keywords that a query begins with take, with the blanks around them. -/
def selectLength? (cs : List Char) : Option Nat := do
  let lead := (cs.takeWhile isBlank).length
  let select ← wordLength? "select".toList (cs.drop lead)
  let n := lead + select
  match wordLength? "distinct".toList (cs.drop n) with
  | some distinct => some (n + distinct)
  | none => some n

/-- The text with its limit moved to where `TOP` stands. -/
def limitToTop (cs : List Char) : List Char :=
  match splitLimit? cs with
  | none => cs
  | some (before, digits) =>
    match selectLength? before with
    | none => before
    | some n => before.take n ++ "TOP ".toList ++ digits ++ ' ' :: before.drop n

/-- The text of a query in the dialect.  `skips` says that the query skips rows. -/
def delimit (d : Dialect) (text : String) (skips : Bool) : Except Error String :=
  match d with
  | postgres => .ok text
  | tsql =>
    if skips then .error .offsetInTsql
    else .ok (String.ofList (limitToTop (stripQuotes false text.toList)))

end Dialect

end QueryReport.Sql
