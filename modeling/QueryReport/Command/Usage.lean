import QueryReport.Sql.Dialect
import QueryReport.Text.Padding

/-!
# How commands are used

The commands of the program with their operands and options, and the texts that tell a person about
them.

* `Usage.help` tells about one command.
* `Usage.overview` tells about all of them.
-/

namespace QueryReport

open Text

/-! ## Options -/

/-- An option that a command knows. -/
structure Switch where
  name : String
  letter : Option Char := none
  /-- What its value is called, if it takes one. -/
  value : Option String := none
  required : Bool := false
  about : String
  /-- The values it may take, if they are few. -/
  choices : List String := []
deriving DecidableEq, Repr

namespace Switch

/-- An option as it is written with its value. -/
def spelling (s : Switch) : String :=
  "--" ++ s.name ++ (match s.value with
    | some value => " <" ++ value ++ ">"
    | none => "")

/-- The row about an option. -/
def row (s : Switch) : String × String :=
  ((match s.letter with
      | some letter => "-" ++ letter.toString ++ ", "
      | none => "    ") ++ s.spelling,
    s.about ++ if s.choices.isEmpty then ""
      else " [possible values: " ++ ", ".intercalate s.choices ++ "]")

/-- The option that asks how a command is used. -/
def help : Switch := { name := "help", letter := some 'h', about := "Print help" }

/-- The option that asks which version of the program this is. -/
def version : Switch := { name := "version", letter := some 'V', about := "Print version" }

end Switch

/-! ## Commands -/

/-- How a command is used: it has one operand, and options. -/
structure Usage where
  name : String
  about : String
  operand : String
  aboutOperand : String
  switches : List Switch
deriving DecidableEq, Repr

namespace Usage

def create : Usage where
  name := "import"
  about := "Create a report file from a SQL file"
  operand := "<FILE>"
  aboutOperand := "Path to the .sql file"
  switches := [
    { name := "output", letter := some 'o', value := some "OUTPUT", required := true,
      about := "Report file to write" },
    { name := "caption", letter := some 'c', value := some "CAPTION", about := "Report caption" },
    .help]

def columns : Usage where
  name := "columns"
  about := "List the columns of a report"
  operand := "<FILE>"
  aboutOperand := "Path to the report file"
  switches := [.help]

def tables : Usage where
  name := "tables"
  about := "List the tables a report reads from"
  operand := "<FILE>"
  aboutOperand := "Path to the report file"
  switches := [.help]

def render : Usage where
  name := "sql"
  about := "Render runnable SQL for a report"
  operand := "<FILE>"
  aboutOperand := "Path to the report file"
  switches := [
    { name := "dialect", letter := some 'd', value := some "DIALECT",
      about := "SQL dialect to render (defaults to the configured dialect)",
      choices := Sql.Dialect.all.map Sql.Dialect.name },
    { name := "limit", letter := some 'l', value := some "LIMIT",
      about := "Row limit (0 removes it)" },
    { name := "offset", value := some "OFFSET", about := "Row offset (0 removes it)" },
    { name := "order", value := some "ORDER", about := "ORDER BY list, e.g. \"name DESC, id\"" },
    { name := "param", letter := some 'p', value := some "PARAMS",
      about := "Filter as column:operator[:value,value...]" },
    { name := "replace-where",
      about := "Drop the report's own WHERE clause before applying filters" },
    { name := "count", about := "Render the row-count query instead" },
    .help]

/-- The command that tells about the others has no options, and takes the name of a command. -/
def guide : Usage where
  name := "help"
  about := "Print this message or the help of the given subcommand(s)"
  operand := "[COMMAND]..."
  aboutOperand := "Print help for the subcommand(s)"
  switches := []

def all : List Usage := [create, columns, tables, render, guide]

/-! ## Texts -/

/-- The name that the program is called by. -/
def program : String := "dataminer"

def version : String := program ++ " 0.1.0"

/-- What follows the name of a command: that there are options, those that have to be given, and the
operand. -/
def operands (u : Usage) : List String :=
  let others := u.switches.filter (· ≠ .help)
  (if others.any (!·.required) then ["[OPTIONS]"] else [])
    ++ (others.filter (·.required)).map Switch.spelling ++ [u.operand]

def optionLines (switches : List Switch) : List String :=
  if switches.isEmpty then [] else ["", "Options:"] ++ twoColumns (switches.map Switch.row)

/-- What is told about a command. -/
def help (u : Usage) : List String :=
  [u.about, "", "Usage: " ++ " ".intercalate (program :: u.name :: u.operands), "", "Arguments:"]
    ++ twoColumns [(u.operand, u.aboutOperand)] ++ optionLines u.switches

/-- What is told about the program. -/
def overview : List String :=
  ["Dataminer - parameterizable SELECT reports", "", "Usage: " ++ program ++ " <COMMAND>", "",
      "Commands:"]
    ++ twoColumns (all.map fun u => (u.name, u.about)) ++ optionLines [.help, .version]

end Usage

end QueryReport
