import QueryReport.Text.Classes

/-!
# Variables in text

A dollar sign before a name stands for the value of a variable; the name may be put in braces.
Values are taken as they are: a dollar sign in a value stands for itself.

* `Variables.pieces` cuts a text into characters and variables.
* `Variables.expand` puts the values in place of the variables.
-/

namespace QueryReport.Variables

open QueryReport.Text

/-- A part of a text. -/
inductive Piece where
  | char (c : Char)
  | reference (name : List Char)
deriving DecidableEq, Repr

/-- A character of a name without braces. -/
def isNameChar (c : Char) : Bool := isAlphanumeric c || c = '_'

theorem length_dropWhile_le (p : Char → Bool) (cs : List Char) :
    (cs.dropWhile p).length ≤ cs.length := (List.dropWhile_suffix p).length_le

/-- The pieces of a text.  A name in braces ends at the closing one or with the text; a dollar sign
without a name stands for itself. -/
def pieces (cs : List Char) : List Piece :=
  match cs with
  | [] => []
  | '$' :: '\x7b' :: rest =>
    .reference (rest.takeWhile (· ≠ '\x7d')) :: pieces ((rest.dropWhile (· ≠ '\x7d')).drop 1)
  | '$' :: rest =>
    if (rest.takeWhile isNameChar).isEmpty then .char '$' :: pieces rest
    else .reference (rest.takeWhile isNameChar) :: pieces (rest.dropWhile isNameChar)
  | c :: rest => .char c :: pieces rest
termination_by cs.length
decreasing_by
  · have := length_dropWhile_le (fun c => decide (c ≠ '\x7d')) rest
    simp only [List.length_drop, List.length_cons]
    omega
  · simp
  · have := length_dropWhile_le isNameChar rest
    simp only [List.length_cons]
    omega
  · simp

/-- The characters of a piece, or the name of the variable that is not set. -/
def Piece.value (env : String → Option String) : Piece → Except String (List Char)
  | .char c => .ok [c]
  | .reference name =>
    match env (String.ofList name) with
    | some value => .ok value.toList
    | none => .error (String.ofList name)

/-- The names of the variables in a text. -/
def names (text : String) : List String :=
  (pieces text.toList).filterMap fun
    | .char _ => none
    | .reference name => some (String.ofList name)

/-- The text with the values of its variables, or the name of the first one that is not set. -/
def expand (env : String → Option String) (text : String) : Except String String := do
  let values ← (pieces text.toList).mapM (Piece.value env)
  pure (String.ofList values.flatten)

end QueryReport.Variables
