import QueryReport.Text.Classes
import QueryReport.Text.Table.CaseIgnorable
import QueryReport.Text.Table.Cased
import QueryReport.Text.Table.ToLower

/-!
# Letter case

* `lower` maps a text to lower case by the Unicode rules, the final sigma included.
* `upperKey` is the upper case of a word as far as it decides whether the word is a keyword: the
  keywords are ASCII, so characters whose upper case is not ASCII stay as they are.
-/

namespace QueryReport.Text

/-- The lower case of one character, in most cases one character. -/
def lowerChar (c : Char) : List Char :=
  let n := c.toNat
  if n < 128 then [c.toLower]
  else if n = 0x130 then ['i', '\u0307']
  else
    let run := Table.toLower.find? fun (first, last, step, _) =>
      first ≤ n && n ≤ last && (n - first) % step = 0
    match run with
    | some (_, _, _, distance) => [Char.ofNat ((n : Int) + distance).toNat]
    | none => [c]

/-- Whether, in the given direction, the first character that case mapping does not skip is cased. -/
def casedNext (cs : List Char) : Bool :=
  match cs.dropWhile fun c => inRanges Table.caseIgnorable c.toNat with
  | [] => false
  | c :: _ => inRanges Table.cased c.toNat

/-- The lower case of a text after `before`, which is held in reverse.  A capital sigma at the end
of a word has a lower case of its own. -/
def lowerAfter : List Char → List Char → List Char
  | _, [] => []
  | before, c :: rest =>
    (if c = 'Σ' then
      if casedNext before && !casedNext rest then ['ς'] else ['σ']
    else lowerChar c) ++ lowerAfter (c :: before) rest

/-- The lower case of a text. -/
def lower (s : String) : String := String.ofList (lowerAfter [] s.toList)

/-- The ASCII letters that the upper case of a character consists of, if it does. -/
def upperKeyChar (c : Char) : List Char :=
  if c.toNat < 128 then [c.toUpper]
  else match c with
    | 'ß' => ['S', 'S']
    | 'ı' => ['I']
    | 'ſ' => ['S']
    | 'ﬀ' => ['F', 'F']
    | 'ﬁ' => ['F', 'I']
    | 'ﬂ' => ['F', 'L']
    | 'ﬃ' => ['F', 'F', 'I']
    | 'ﬄ' => ['F', 'F', 'L']
    | 'ﬅ' => ['S', 'T']
    | 'ﬆ' => ['S', 'T']
    | c => [c]

/-- The text by which a word is looked up among the keywords. -/
def upperKey (s : String) : String := String.ofList (s.toList.flatMap upperKeyChar)

/-- The text with its ASCII letters in lower case. -/
def lowerAscii (c : Char) : Char := if c.toNat < 128 then c.toLower else c

/-- The character with an ASCII letter in upper case. -/
def upperAscii (c : Char) : Char := if c.toNat < 128 then c.toUpper else c

end QueryReport.Text
