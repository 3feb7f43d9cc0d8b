/-!
# Cutting text

A text cut at every occurrence of a character.
-/

namespace QueryReport.Text

/-- The parts of a text between the occurrences of a character; there is always one more of them
than of the character. -/
def splitOn (separator : Char) : List Char → List (List Char)
  | [] => [[]]
  | c :: rest =>
    match splitOn separator rest with
    | [] => [[c]]
    | part :: more => if c = separator then [] :: part :: more else (c :: part) :: more

end QueryReport.Text
