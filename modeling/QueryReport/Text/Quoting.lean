/-!
# Quoting

Two ways to write a text between quote characters.

* `doubled` writes every quote inside the text twice, so that the text can be read back.
* `printed` writes a text that may hold quotes which are escaped already: a pair of quotes is left
  as it is, and so is a quote right after a backslash.  Only a quote on its own is written twice.
-/

namespace QueryReport.Text

/-- The characters of a text with every `q` written twice. -/
def doubled (q : Char) : List Char → List Char
  | [] => []
  | c :: rest => if c = q then q :: q :: doubled q rest else c :: doubled q rest

/-- The characters of a text in which some `q` may be escaped already.  `escaped` says that the
last character other than `q` was a backslash with nothing but `q` after it. -/
def printed (q : Char) : Bool → List Char → List Char
  | _, [] => []
  | true, c :: rest => if c = q then c :: printed q true rest else c :: printed q (c == '\\') rest
  | false, [c] => if c = q then [q, q] else [c]
  | false, c :: d :: rest =>
    if c = q then
      if d = q then q :: q :: printed q false rest else q :: q :: printed q false (d :: rest)
    else c :: printed q (c == '\\') (d :: rest)

/-- A text between single quotes, each quote inside it doubled. -/
def quote (text : String) : String :=
  String.ofList ('\'' :: doubled '\'' text.toList ++ ['\''])

/-- A text between `q`s, quotes that are escaped already left alone. -/
def printQuoted (q : Char) (text : String) : String :=
  String.ofList (q :: printed q false text.toList ++ [q])

end QueryReport.Text
