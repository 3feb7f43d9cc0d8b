import QueryReport.Text.Classes
import QueryReport.Text.Case

/-!
# Searching for words

Case-insensitive searches in running text.  Letters match by simple case folding, under which the
long s and the Kelvin sign are an `s` and a `k`.
-/

namespace QueryReport.Text

/-- Whether a character is the given lower-case ASCII letter in either case. -/
def isLetter (letter c : Char) : Bool :=
  lowerAscii c = letter || (letter = 's' && c = 'ſ') || (letter = 'k' && c = '\u212A')

/-- The rest of a text that begins with the word, in any case. -/
def afterWord? : List Char → List Char → Option (List Char)
  | [], cs => some cs
  | _ :: _, [] => none
  | letter :: word, c :: cs => if isLetter letter c then afterWord? word cs else none

/-- Whether a word stands at the start of the text and ends there. -/
def startsWithWholeWord (word cs : List Char) : Bool :=
  match afterWord? word cs with
  | none => false
  | some [] => true
  | some (c :: _) => !isWordChar c

/-- Whether the text holds one of the words as a whole word; `inWord` says that a word character
stands before the text. -/
def hasWholeWord (words : List (List Char)) (inWord : Bool) : List Char → Bool
  | [] => false
  | c :: rest =>
    (!inWord && words.any fun w => startsWithWholeWord w (c :: rest))
      || hasWholeWord words (isWordChar c) rest

/-- Whether the text begins with the first word, blanks and the second word. -/
def startsWithPair (first second cs : List Char) : Bool :=
  match afterWord? first cs with
  | none => false
  | some rest =>
    match rest with
    | [] => false
    | c :: _ => isBlank c && (afterWord? second (dropBlanks rest)).isSome

/-- Whether the first word, blanks and the second word follow one another somewhere in the text. -/
def hasPair (first second : List Char) : List Char → Bool
  | [] => false
  | c :: rest => startsWithPair first second (c :: rest) || hasPair first second rest

end QueryReport.Text
