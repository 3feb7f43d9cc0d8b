/-!
# Texts in the order in which they are met

A list of texts that were met so far, each once.
-/

namespace QueryReport.Text

/-- The texts met so far with one more, unless it was met before. -/
def addUnseen (seen : List String) (text : String) : List String :=
  if seen.contains text then seen else seen ++ [text]

end QueryReport.Text
