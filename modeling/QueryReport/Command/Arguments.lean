import QueryReport.Command.Usage
import QueryReport.Decimal.Read

/-!
# Commands

What the command line can ask for, and how arguments spell it.  Options may stand anywhere after
the name of the command; two dashes by themselves end them.

* `Arguments.read` tells options from operands.
* `Request.read` gives what arguments ask for.
-/

namespace QueryReport

/-! ## Options and operands -/

/-- Arguments as options with their values, and operands. -/
structure Arguments where
  operands : List String := []
  options : List (String × String) := []
  /-- Whether help is asked for after them. -/
  help : Bool := false
deriving DecidableEq, Repr

namespace Arguments

def addOperand (a : Arguments) (operand : String) : Arguments :=
  { a with operands := operand :: a.operands }

def addOption (a : Arguments) (name value : String) : Arguments :=
  { a with options := (name, value) :: a.options }

/-- Whether an argument is an option rather than a value.  A dash alone is a value. -/
def isOption : List Char → Bool
  | '-' :: _ :: _ => true
  | _ => false

/-- The text before an equals sign, and the text after it if there is one. -/
def splitEquals (cs : List Char) : List Char × Option (List Char) :=
  (cs.takeWhile (· ≠ '='),
    match cs.dropWhile (· ≠ '=') with
    | [] => none
    | _ :: value => some value)

/-- The value that follows the letter of an option in the same argument.  An equals sign may stand
before it. -/
def attachedValue : List Char → Option String
  | [] => none
  | '=' :: value => some (String.ofList value)
  | value => some (String.ofList value)

/-- The option that an argument spells, and the value that is written in the same argument.  After
the letter of an option without a value other letters may follow; the only such letter asks for help,
so that they do not matter. -/
def splitOption (switches : List Switch) : List Char → Option (Switch × Option String)
  | '-' :: '-' :: cs => do
    let (name, value) := splitEquals cs
    let switch ← switches.find? fun s => s.name.toList == name
    some (switch, value.map String.ofList)
  | '-' :: letter :: cs => do
    let switch ← switches.find? fun s => s.letter == some letter
    some (switch, if switch.value.isSome then attachedValue cs else none)
  | _ => none

/-- Options and operands in order, up to an option that asks for help. -/
def read (switches : List Switch) : List String → Option Arguments
  | [] => some {}
  | "--" :: operands => some { operands }
  | argument :: rest =>
    if isOption argument.toList then
      match splitOption switches argument.toList with
      | none => none
      | some (switch, some value) =>
        if switch.value.isSome then (read switches rest).map (·.addOption switch.name value)
        else none
      | some (switch, none) =>
        if switch = .help then some { help := true }
        else if switch.value.isSome then
          match rest with
          | value :: rest =>
            if isOption value.toList then none
            else (read switches rest).map (·.addOption switch.name value)
          | [] => none
        else (read switches rest).map (·.addOption switch.name "")
    else (read switches rest).map (·.addOperand argument)

/-- The values of an option in order. -/
def all (a : Arguments) (name : String) : List String :=
  (a.options.filter (·.1 == name)).map Prod.snd

/-- What `f` reads from the only text of a list, if it has one. -/
def only {α : Type} (f : String → Option α) : List String → Option (Option α)
  | [] => some none
  | [value] => (f value).map some
  | _ => none

/-- The value of an option that may be given once, read by `f`. -/
def once {α : Type} (a : Arguments) (name : String) (f : String → Option α) : Option (Option α) :=
  only f (a.all name)

/-- Whether an option without a value is given; it may be given once. -/
def flag (a : Arguments) (name : String) : Option Bool :=
  (a.once name fun _ => some ()).map Option.isSome

/-- A path, which is not empty. -/
def path? (s : String) : Option String := if s.isEmpty then none else some s

/-- The operand, a path that may be given once. -/
def operand (a : Arguments) : Option (Option String) := only path? a.operands

end Arguments

/-! ## Commands -/

/-- How the SQL of a report is to be rendered. -/
structure RenderOptions where
  dialect : Option Sql.Dialect := none
  limit : Option Nat := none
  offset : Option Nat := none
  order : Option String := none
  params : List String := []
  replaceFilter : Bool := false
  count : Bool := false
deriving DecidableEq, Repr

/-- What can be done with files. -/
inductive Command where
  /-- To make a report file from a file with SQL. -/
  | create (source target : String) (caption : Option String)
  /-- To list the columns of a report. -/
  | columns (file : String)
  /-- To list the names a report reads from. -/
  | tables (file : String)
  /-- To render the SQL of a report. -/
  | render (file : String) (options : RenderOptions)
deriving DecidableEq, Repr

/-- What the command line can ask for. -/
inductive Request where
  /-- To run a command. -/
  | run (command : Command)
  /-- To tell how a command is used. -/
  | help (usage : Usage)
  /-- To tell which commands there are. -/
  | overview
  /-- To tell the version of the program. -/
  | version
deriving DecidableEq, Repr

namespace Request

open Arguments (path?)

def readDialect (s : String) : Option Sql.Dialect := Sql.Dialect.all.find? fun d => d.name == s

def readCount (s : String) : Option Nat := Decimal.nat64? s.toList

def readCreate (arguments : List String) : Option Request := do
  let a ← Arguments.read Usage.create.switches arguments
  let source ← a.operand
  let target ← a.once "output" path?
  let caption ← a.once "caption" some
  if a.help then some (help Usage.create)
  else some (run (.create (← source) (← target) caption))

def readRender (arguments : List String) : Option Request := do
  let a ← Arguments.read Usage.render.switches arguments
  let file ← a.operand
  let dialect ← a.once "dialect" readDialect
  let limit ← a.once "limit" readCount
  let offset ← a.once "offset" readCount
  let order ← a.once "order" some
  let replaceFilter ← a.flag "replace-where"
  let count ← a.flag "count"
  if a.help then some (help Usage.render)
  else some (run (.render (← file)
    { dialect, limit, offset, order, params := a.all "param", replaceFilter, count }))

/-- A command that takes a file and no options. -/
def readFile (usage : Usage) (command : String → Command) (arguments : List String) :
    Option Request := do
  let a ← Arguments.read usage.switches arguments
  let file ← a.operand
  if a.help then some (help usage) else some (run (command (← file)))

/-- What help is asked for by the names of commands. -/
def readTopic : List String → Option Request
  | [] => some overview
  | [name] => (Usage.all.find? fun u => u.name == name).map help
  | _ => none

/-- What an option asks for that stands before any command.  More letters may follow a letter. -/
def readOption : List Char → Option Request
  | '-' :: 'h' :: _ => some overview
  | '-' :: 'V' :: _ => some version
  | cs =>
    match String.ofList cs with
    | "--help" => some overview
    | "--version" => some version
    | _ => none

/-- What arguments ask for, if they ask for something. -/
def read : List String → Option Request
  | [] => none
  | first :: rest =>
    match first with
    | "import" => readCreate rest
    | "columns" => readFile Usage.columns .columns rest
    | "tables" => readFile Usage.tables .tables rest
    | "sql" => readRender rest
    | "help" => readTopic rest
    | _ => readOption first.toList

end Request

end QueryReport
