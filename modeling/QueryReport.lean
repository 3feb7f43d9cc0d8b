import QueryReport.Column.Basic
import QueryReport.Column.CaseValues
import QueryReport.Column.Fingerprint
import QueryReport.Command.Arguments
import QueryReport.Command.Listing
import QueryReport.Command.Render
import QueryReport.Command.Run
import QueryReport.Command.Usage
import QueryReport.DataType
import QueryReport.Decimal.Binary64
import QueryReport.Decimal.Layout
import QueryReport.Decimal.Read
import QueryReport.Decimal.Shortest
import QueryReport.Document.Decode
import QueryReport.Document.Json.Number
import QueryReport.Document.Json.Printer
import QueryReport.Document.Json.Reader
import QueryReport.Document.Node
import QueryReport.Document.Shape
import QueryReport.Document.Toml.Content
import QueryReport.Document.Toml.Number
import QueryReport.Document.Toml.Reader
import QueryReport.Document.Toml.Table
import QueryReport.Document.Tree
import QueryReport.Document.Yaml.Character
import QueryReport.Document.Yaml.Content
import QueryReport.Document.Yaml.Core
import QueryReport.Document.Yaml.Lexer
import QueryReport.Document.Yaml.Outline
import QueryReport.Document.Yaml.Printer
import QueryReport.Document.Yaml.Reader
import QueryReport.Document.Yaml.Tag
import QueryReport.Document.Yaml.Token
import QueryReport.Error
import QueryReport.Filter.Condition
import QueryReport.Filter.Definition
import QueryReport.Filter.Operator
import QueryReport.Filter.Parameter
import QueryReport.Main
import QueryReport.Proofs.Column.Build
import QueryReport.Proofs.Column.CaseValues
import QueryReport.Proofs.Column.Identity
import QueryReport.Proofs.Column.Rebuild
import QueryReport.Proofs.Column.Recast
import QueryReport.Proofs.Column.Signature.Calls
import QueryReport.Proofs.Column.Signature.Forms
import QueryReport.Proofs.Column.Signature.Legible
import QueryReport.Proofs.Column.Signature.Marks
import QueryReport.Proofs.Column.Signature.Reader
import QueryReport.Proofs.Command.Parameter
import QueryReport.Proofs.Command.Rendering
import QueryReport.Proofs.Decimal.Numeral
import QueryReport.Proofs.Decimal.Rounding
import QueryReport.Proofs.Decimal.Shortest
import QueryReport.Proofs.Decimal.Whole
import QueryReport.Proofs.Document.Decode
import QueryReport.Proofs.Document.Json
import QueryReport.Proofs.Except
import QueryReport.Proofs.Filter.Constant
import QueryReport.Proofs.Filter.Definition
import QueryReport.Proofs.Filter.IntegerLiteral
import QueryReport.Proofs.Filter.Lifecycle
import QueryReport.Proofs.Filter.ListQuery
import QueryReport.Proofs.Filter.Meaning
import QueryReport.Proofs.Filter.Options
import QueryReport.Proofs.Filter.Pattern
import QueryReport.Proofs.Filter.Predicate
import QueryReport.Proofs.Filter.Printing
import QueryReport.Proofs.Filter.Rendering
import QueryReport.Proofs.Filter.Shown
import QueryReport.Proofs.Report.Adoption
import QueryReport.Proofs.Report.Agreement
import QueryReport.Proofs.Report.ArrayColumn
import QueryReport.Proofs.Report.Binding
import QueryReport.Proofs.Report.Commit
import QueryReport.Proofs.Report.Counting
import QueryReport.Proofs.Report.Definitions
import QueryReport.Proofs.Report.Delimiting
import QueryReport.Proofs.Report.Filtering
import QueryReport.Proofs.Report.Independence
import QueryReport.Proofs.Report.Inheritance
import QueryReport.Proofs.Report.Keys
import QueryReport.Proofs.Report.Literal
import QueryReport.Proofs.Report.Outcome
import QueryReport.Proofs.Report.Refiltering
import QueryReport.Proofs.Report.Reload
import QueryReport.Proofs.Report.Removal
import QueryReport.Proofs.Report.Rendering
import QueryReport.Proofs.Report.Repaging
import QueryReport.Proofs.Report.Replay
import QueryReport.Proofs.Report.RowWindow
import QueryReport.Proofs.Report.Surgery
import QueryReport.Proofs.Report.Tables
import QueryReport.Proofs.Report.Viewing
import QueryReport.Proofs.Saved.Form
import QueryReport.Proofs.Saved.Json
import QueryReport.Proofs.Settings.Variables
import QueryReport.Proofs.Sql.Counting
import QueryReport.Proofs.Sql.Dialect.Bare
import QueryReport.Proofs.Sql.Dialect.Closing
import QueryReport.Proofs.Sql.Dialect.Ending
import QueryReport.Proofs.Sql.Dialect.Laid
import QueryReport.Proofs.Sql.Dialect.LaidQuery
import QueryReport.Proofs.Sql.Dialect.Quotes
import QueryReport.Proofs.Sql.Dialect.Top
import QueryReport.Proofs.Sql.Leaves
import QueryReport.Proofs.Sql.Lexing.Blank
import QueryReport.Proofs.Sql.Lexing.Breaks
import QueryReport.Proofs.Sql.Lexing.Locality
import QueryReport.Proofs.Sql.Lexing.Numeral
import QueryReport.Proofs.Sql.Lexing.Pieces
import QueryReport.Proofs.Sql.Lexing.Progress
import QueryReport.Proofs.Sql.Lexing.Takes
import QueryReport.Proofs.Sql.Paging
import QueryReport.Proofs.Sql.Reading.Around
import QueryReport.Proofs.Sql.Reading.Array
import QueryReport.Proofs.Sql.Reading.Basic
import QueryReport.Proofs.Sql.Reading.Expression
import QueryReport.Proofs.Sql.Reading.Fragment
import QueryReport.Proofs.Sql.Reading.Lifting
import QueryReport.Proofs.Sql.Reading.Operand
import QueryReport.Proofs.Sql.Reading.Selected
import QueryReport.Proofs.Sql.Reading.Surroundings
import QueryReport.Proofs.Sql.References
import QueryReport.Proofs.Sql.Rows
import QueryReport.Proofs.Sql.Tables
import QueryReport.Proofs.Sql.Targets
import QueryReport.Proofs.Sql.Truth
import QueryReport.Proofs.Storage.ReportFile
import QueryReport.Proofs.Text.Dotted
import QueryReport.Proofs.Text.Like
import QueryReport.Proofs.Text.Quoting
import QueryReport.Proofs.Text.Seen
import QueryReport.Proofs.Text.Split
import QueryReport.Proofs.Text.Template
import QueryReport.Report.Basic
import QueryReport.Report.Change
import QueryReport.Report.Saving
import QueryReport.Saved.Decode
import QueryReport.Saved.Encode
import QueryReport.Saved.Form
import QueryReport.Saved.Same
import QueryReport.Settings.Basic
import QueryReport.Settings.Lookup
import QueryReport.Settings.Variables
import QueryReport.Sql.Count
import QueryReport.Sql.Dialect
import QueryReport.Sql.Edit
import QueryReport.Sql.Fault
import QueryReport.Sql.Keyword
import QueryReport.Sql.Lexer
import QueryReport.Sql.Parser.Basic
import QueryReport.Sql.Parser.Call
import QueryReport.Sql.Parser.Change
import QueryReport.Sql.Parser.Expression
import QueryReport.Sql.Parser.Grammar
import QueryReport.Sql.Parser.Operand
import QueryReport.Sql.Parser.QueryBody
import QueryReport.Sql.Parser.Select
import QueryReport.Sql.Parser.Source
import QueryReport.Sql.Parser.Statement.Alter
import QueryReport.Sql.Parser.Statement.Column
import QueryReport.Sql.Parser.Statement.Create
import QueryReport.Sql.Parser.Statement.Part
import QueryReport.Sql.Parser.Statement.Privilege
import QueryReport.Sql.Parser.Statement.Rows
import QueryReport.Sql.Parser.Statement.Session
import QueryReport.Sql.Parser.Statement.Transaction
import QueryReport.Sql.Parser.TypeName
import QueryReport.Sql.Render
import QueryReport.Sql.Sequence
import QueryReport.Sql.Shape
import QueryReport.Sql.Statement
import QueryReport.Sql.Tables
import QueryReport.Sql.Token
import QueryReport.Sql.Tree
import QueryReport.Storage.Folder
import QueryReport.Storage.Host
import QueryReport.Storage.Location
import QueryReport.Storage.ReportFile
import QueryReport.Text.Caption
import QueryReport.Text.Case
import QueryReport.Text.Classes
import QueryReport.Text.Digits
import QueryReport.Text.Padding
import QueryReport.Text.Quoting
import QueryReport.Text.Seen
import QueryReport.Text.Split
import QueryReport.Text.Table.Alphabetic
import QueryReport.Text.Table.CaseIgnorable
import QueryReport.Text.Table.Cased
import QueryReport.Text.Table.Decimal
import QueryReport.Text.Table.Lowercase
import QueryReport.Text.Table.Numeric
import QueryReport.Text.Table.ToLower
import QueryReport.Text.Table.Uppercase
import QueryReport.Text.Table.Word
import QueryReport.Text.Words
import QueryReport.Value
