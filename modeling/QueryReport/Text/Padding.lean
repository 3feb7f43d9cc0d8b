/-!
# Padding

Texts that blanks fill up to a width.  A text that is longer than the width stays as it is.
-/

namespace QueryReport.Text

/-- Blanks that fill a text up to a width. -/
def filling (width : Nat) (s : String) : String :=
  String.ofList (List.replicate (width - s.length) ' ')

def padLeft (width : Nat) (s : String) : String := filling width s ++ s

def padRight (width : Nat) (s : String) : String := s ++ filling width s

/-- Lines of two columns.  The second column starts two blanks after the longest text of the
first. -/
def twoColumns (rows : List (String × String)) : List String :=
  let width := (rows.map fun row => row.1.length).foldl max 0
  rows.map fun row => "  " ++ padRight width row.1 ++ "  " ++ row.2

end QueryReport.Text
