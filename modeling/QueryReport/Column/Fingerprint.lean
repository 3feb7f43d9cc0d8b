import QueryReport.Sql.Shape

/-!
# Fingerprints

The structure of an expression as one text: its names, constants and operators depth first, with
parentheses around what belongs together.  Two expressions with one fingerprint are taken for the
same column.  Kinds of expressions that are not told apart are kept as their whole text in braces.
-/

namespace QueryReport.Column

open Sql

/-- Atoms between parentheses. -/
def bracketed (atoms : List String) : List String := "(" :: (atoms ++ [")"])

/-- The atom of a constant: texts with their quotes, booleans in upper case. -/
def literalAtom : Literal → String
  | .number digits _ => digits
  | .string s => Text.quote s
  | .boolean b => if b then "TRUE" else "FALSE"
  | value => value.text

/-- An atom that is only there if its source is. -/
def atomIf {α : Type} (text : α → String) : Option α → List String
  | none => []
  | some a => [text a]

/-- The atoms of an argument that would have the given ones as an expression: a star counts by
itself, a name with its value as one text. -/
def argAtoms (e : Expr) (atoms : List String) : List String :=
  match e with
  | .star => ["*"]
  | .everyColumn relation => relation.map Ident.text ++ ["*"]
  | .named _ _ _ => [e.text]
  | _ => atoms

mutual

/-- The atoms of an expression. -/
def exprAtoms : Expr → List String
  | .column name => [name.text]
  | .path parts => parts.map Ident.text
  | .call c => callAtoms c
  | .literal value => [literalAtom value]
  | .case operand branches otherwise =>
    "CASE" :: (maybeAtoms operand
      ++ (branchAtoms branches ++ (elseAtoms otherwise ++ ["END"])))
  | .cast _ operand type _ => bracketed (exprAtoms operand) ++ ["::", type.text]
  | .binary left op right => bracketed (exprAtoms left ++ op.text :: exprAtoms right)
  | .unary op operand => op.text :: bracketed (exprAtoms operand)
  | .nullTest operand negated =>
    bracketed (exprAtoms operand) ++ [if negated then "IS NOT NULL" else "IS NULL"]
  | .inList operand negated items =>
    bracketed (exprAtoms operand) ++ (if negated then "NOT IN" else "IN") :: bracketed (itemAtoms items)
  | .between operand negated low high =>
    bracketed (exprAtoms operand)
      ++ (if negated then "NOT BETWEEN" else "BETWEEN")
      :: (bracketed (exprAtoms low) ++ "AND" :: bracketed (exprAtoms high))
  | .nested inner => bracketed (exprAtoms inner)
  | .subquery query => ["SUBQUERY", query.text]
  | .array _ items => "ARRAY" :: bracketed (itemAtoms items)
  -- What is not told apart any further is kept as its text.
  | e => ["\x7b" ++ e.text ++ "\x7d"]

/-- The atoms of the items of a list with commas between them. -/
def itemAtoms : Exprs → List String
  | .nil => []
  | .cons e .nil => exprAtoms e
  | .cons e es => exprAtoms e ++ "," :: itemAtoms es

def maybeAtoms : MaybeExpr → List String
  | .none => []
  | .some e => exprAtoms e

def elseAtoms : MaybeExpr → List String
  | .none => []
  | .some e => "ELSE" :: exprAtoms e

def branchAtoms : Branches → List String
  | .nil => []
  | .cons condition result rest =>
    "WHEN" :: (exprAtoms condition ++ "THEN" :: (exprAtoms result ++ branchAtoms rest))

def callAtoms : Call → List String
  | ⟨name, _, args, withinGroup, filter, nulls, window⟩ =>
    name.map Ident.text
      ++ bracketed (argsAtoms args)
      ++ filterAtoms filter
      ++ atomIf NullTreatment.text nulls
      ++ (match withinGroup.texts with
          | [] => []
          | keys => "WITHIN GROUP" :: keys)
      ++ (match window with
          | .none => []
          | window => ["OVER", window.text])

def filterAtoms : MaybeExpr → List String
  | .none => []
  | .some e => "FILTER" :: bracketed (exprAtoms e)

def argsAtoms : CallArgs → List String
  | .absent => []
  | .subquery query => [query.text]
  | .list duplicates leading args order limit overflow nulls =>
    atomIf Duplicates.text duplicates
      ++ argListAtoms args
      ++ argumentClauses leading order.texts limit.text? overflow.texts nulls

def argListAtoms : Exprs → List String
  | .nil => []
  | .cons e .nil => argAtoms e (exprAtoms e)
  | .cons e es => argAtoms e (exprAtoms e) ++ "," :: argListAtoms es

end

/-- The fingerprint of an expression; there is none if it has no atoms. -/
def fingerprint? (e : Expr) : Option String :=
  match exprAtoms e with
  | [] => none
  | atoms => some (".".intercalate atoms)

end QueryReport.Column
