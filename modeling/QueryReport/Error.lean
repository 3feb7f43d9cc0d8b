import QueryReport.DataType
import QueryReport.Sql.Fault

/-!
# Errors

What can go wrong with a report, by cause.  Each cause has one wording and belongs to one kind.
-/

namespace QueryReport

/-- Why a file could not be read or written. -/
inductive AccessFault where
  | missing
  | directory
  | notDirectory
  | nameTooLong
  /-- The path has a character that no path can have. -/
  | badName
  | denied
  | badText
deriving DecidableEq, Repr

/-- Why a file could not be read or written, in words. -/
def AccessFault.message : AccessFault → String
  | .missing => "No such file or directory (os error 2)"
  | .directory => "Is a directory (os error 21)"
  | .notDirectory => "Not a directory (os error 20)"
  | .nameTooLong => "File name too long (os error 36)"
  | .badName => "file name contained an unexpected NUL byte"
  | .denied => "Permission denied (os error 13)"
  | .badText => "stream did not contain valid UTF-8"

/-- A fault in storing a report or in reading it back. -/
inductive StoreError where
  | blankPath
  | access (path : String) (fault : AccessFault)
  | document (reason : String)
deriving DecidableEq, Repr

def StoreError.message : StoreError → String
  | .blankPath => "Pathname cannot be blank"
  | .access path fault => s!"Failed to access {path}: {fault.message}"
  | .document reason => "Invalid report document: " ++ reason

/-- The causes of failure. -/
inductive Error where
  /-- SQL text cannot be read. -/
  | sql (fault : Sql.Fault)
  /-- The dialect has no way to skip rows. -/
  | offsetInTsql
  | unknownDataType (name : String)
  | unknownOperator (token : String)
  | unknownDialect (name : String)
  | nullInList
  | noValue
  | noBounds
  | boundsReversed
  | notOfType (value : String) (type : DataType)
  | listChangesData (column sql : String)
  | starColumn
  | unnamedColumn (number : Nat) (kind : String)
  | emptyName (number : Nat)
  | duplicateName (name : String)
  | manyStatements
  | notASelect
  | notACount (clause expr : String)
  | unknownColumn (name : String)
  | duplicateDefinition (column : String)
  | settingsNotAMap
  | columnNotInSql (name : String)
  | malformedParameter (spec : String)
  /-- A list of options comes from a query that nobody ran. -/
  | listNeedsResolver (column : String)
  /-- Whoever ran the list query failed. -/
  | resolver (message : String)
  | sqlNotSet
  | store (error : StoreError)
deriving DecidableEq, Repr

/-- What a failure has to do with: SQL text, an argument, the state of the report, or storage. -/
inductive ErrorKind where
  | sql | argument | state | store
deriving DecidableEq, Repr

namespace Error

def kind : Error → ErrorKind
  | sql _ | offsetInTsql => .sql
  | listNeedsResolver _ | resolver _ | sqlNotSet => .state
  | store _ => .store
  | _ => .argument

def message : Error → String
  | sql fault => "SQL syntax error: " ++ fault.message
  | offsetInTsql => "SQL syntax error: OFFSET is not supported for the tsql dialect"
  | unknownDataType name => "Unknown data type: " ++ Text.lower name
  | unknownOperator token => s!"Invalid operator - \"{token}\""
  | unknownDialect name => "Unsupported dialect: " ++ Text.lower name
  | nullInList => "IN values cannot be null"
  | noValue => "Parameter must have a value"
  | noBounds => "Must have from and to values for BETWEEN operator"
  | boundsReversed =>
    "End of date range cannot be less than start of range for BETWEEN operator"
  | notOfType value type => s!"Value \"{value}\" is not a valid {type.name}"
  | listChangesData column text =>
    s!"List definition for {column} must not modify data: {text}"
  | starColumn => "Cannot have * as a column selector"
  | unnamedColumn number kind =>
    s!"Unable to name column {number} ({kind}) - give it an alias"
  | emptyName number => s!"Column {number} has an empty name"
  | duplicateName name => "SQL has duplicate column names: " ++ name
  | manyStatements => "Only a single SELECT statement is allowed"
  | notASelect => "Only SELECT is allowed"
  | notACount clause expr => s!"{clause} must be an integer literal, got {expr}"
  | unknownColumn name => "Unknown column: " ++ name
  | duplicateDefinition column => "Duplicate parameter definition for " ++ column
  | settingsNotAMap => "External settings must be a map"
  | columnNotInSql name => s!"Saved column {name} is not in the report SQL"
  | malformedParameter spec =>
    "Parameter must be column:operator[:values], got " ++ spec
  | listNeedsResolver column =>
    s!"List definition for {column} is a query and needs a resolver"
  | resolver message => message
  | sqlNotSet => "SQL string has not yet been set"
  | store error => error.message

end Error

end QueryReport
