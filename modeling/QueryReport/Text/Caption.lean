import QueryReport.Text.Case

/-!
# Captions

A name such as `user_name` or `userName` as a sentence: `User name`.
-/

namespace QueryReport.Text

/-- The sentence that the characters of a name spell.  `newWord` says that a separator or a number
came last, `firstWord` that no word has begun, `seen` that anything has been kept; `last` is the
last character inside a word. -/
def sentenceChars (newWord firstWord seen : Bool) (last : Char) : List Char → List Char
  | [] => []
  | c :: rest =>
    if !isAlphanumeric c then
      sentenceChars (newWord || seen) firstWord seen last rest
    else if isNumeric c then
      c :: sentenceChars true firstWord true last rest
    else if newWord || (isLower last && isUpper c) then
      (if firstWord then [upperAscii c] else [' ', lowerAscii c])
        ++ sentenceChars false false true last rest
    else
      lowerAscii c :: sentenceChars false firstWord true c rest

/-- A name in sentence case: separators and capitals begin words, only the first word is
capitalised. -/
def sentenceCase (name : String) : String :=
  let kept := (name.toList.reverse.dropWhile fun c => !isAlphanumeric c).reverse
  String.ofList (sentenceChars true true false ' ' kept)

/-- The caption that a column of this name gets: a trailing `_id` is not read out. -/
def caption (name : String) : String :=
  if name.endsWith "_id" then
    sentenceCase (String.ofList (name.toList.take (name.length - 3)))
  else sentenceCase name

end QueryReport.Text
