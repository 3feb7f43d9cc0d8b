import QueryReport.Text.Case

/-!
# Comparison operators

The vocabulary of operators a filter may use, each with its token, its SQL spelling and the phrase
it is read out as.
-/

namespace QueryReport.Filter

/-- How a filter compares a column with its values. -/
inductive Operator where
  | eq | gte | lte | notEq | gt | lt
  | between | isIn | inOrNull | matchOrNull
  | startsWith | endsWith | contains
  | isNull | notNull
deriving DecidableEq, Repr, Inhabited

namespace Operator

def all : List Operator :=
  [eq, gte, lte, notEq, gt, lt, between, isIn, inOrNull, matchOrNull, startsWith, endsWith,
    contains, isNull, notNull]

/-- The word of the vocabulary. -/
def token : Operator → String
  | eq => "="
  | gte => ">="
  | lte => "<="
  | notEq => "<>"
  | gt => ">"
  | lt => "<"
  | between => "between"
  | isIn => "in"
  | inOrNull => "in_or_null"
  | matchOrNull => "match_or_null"
  | startsWith => "starts_with"
  | endsWith => "ends_with"
  | contains => "contains"
  | isNull => "is_null"
  | notNull => "not_null"

/-- The operator with a token, in any case and with blanks around it. -/
def ofToken? (token : String) : Option Operator :=
  let wanted := Text.lower (Text.trim token)
  all.find? fun op => op.token == wanted

/-- The SQL spelling. -/
def sql : Operator → String
  | startsWith | endsWith | contains => "~~"
  | isNull => "is"
  | notNull => "is not"
  | op => op.token

/-- The phrase the operator is read out as. -/
def phrase : Operator → String
  | eq => "equals"
  | gte => "greater than or equal to"
  | lte => "less than or equal to"
  | notEq => "not equal to"
  | gt => "greater than"
  | lt => "less than"
  | between => "between"
  | isIn => "is any of"
  | inOrNull => "is blank or any of"
  | matchOrNull => "is blank or equals"
  | startsWith => "starts with"
  | endsWith => "ends with"
  | contains => "contains"
  | isNull => "is blank"
  | notNull => "is not blank"

/-- Whether the operator matches its value as a pattern. -/
def isPattern : Operator → Bool
  | startsWith | endsWith | contains => true
  | _ => false

/-- Whether the operator only asks whether the column is null. -/
def isNullTest : Operator → Bool
  | isNull | notNull => true
  | _ => false

/-- Whether the operator takes a list of values of any length. -/
def isList : Operator → Bool
  | isIn | inOrNull => true
  | _ => false

end Operator

end QueryReport.Filter
