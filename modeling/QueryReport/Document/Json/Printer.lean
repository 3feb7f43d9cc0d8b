import QueryReport.Decimal.Layout
import QueryReport.Document.Tree

/-!
# Writing JSON

A document as compact JSON.  Members keep their order.  Only quotes, backslashes and control
characters are escaped.
-/

namespace QueryReport.Document.Json

open Decimal

/-- A number below 16 as a lower-case hexadecimal digit. -/
def hexDigit (n : Nat) : Char := Nat.digitChar n

/-- One character inside a string. -/
def escapedChar (c : Char) : List Char :=
  if c = '"' then ['\\', '"']
  else if c = '\\' then ['\\', '\\']
  else if c.toNat < 32 then
    if c = '\n' then ['\\', 'n']
    else if c = '\t' then ['\\', 't']
    else if c = '\r' then ['\\', 'r']
    else if c.toNat = 8 then ['\\', 'b']
    else if c.toNat = 12 then ['\\', 'f']
    else ['\\', 'u', '0', '0', hexDigit (c.toNat / 16), hexDigit (c.toNat % 16)]
  else [c]

/-- A string between quotes. -/
def stringChars (s : String) : List Char :=
  '"' :: (s.toList.flatMap escapedChar ++ ['"'])

mutual

/-- The characters of a document. -/
def treeChars : Tree → List Char
  | .null => "null".toList
  | .bool b => if b then "true".toList else "false".toList
  | .int n => (toString n).toList
  | .float x => (Layout.json.text x).toList
  | .text s => stringChars s
  | .array items => '[' :: (itemChars items ++ [']'])
  | .object members => '\x7b' :: (memberChars members ++ ['\x7d'])

/-- The items of an array with commas between them. -/
def itemChars : Trees → List Char
  | .nil => []
  | .cons t .nil => treeChars t
  | .cons t ts => treeChars t ++ ',' :: itemChars ts

/-- The members of an object with commas between them. -/
def memberChars : Members → List Char
  | .nil => []
  | .cons k t .nil => stringChars k ++ ':' :: treeChars t
  | .cons k t ms => stringChars k ++ ':' :: (treeChars t ++ ',' :: memberChars ms)

end

/-- A document as compact JSON. -/
def print (t : Tree) : String := String.ofList (treeChars t)

end QueryReport.Document.Json
