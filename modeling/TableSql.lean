import TableSql.Accessor
import TableSql.Calendar
import TableSql.Catalog.Basic
import TableSql.Catalog.Sync
import TableSql.Clash
import TableSql.ColumnType.Basic
import TableSql.ColumnType.Parse
import TableSql.CommandLine.Arguments
import TableSql.CommandLine.Failure
import TableSql.CommandLine.Help
import TableSql.CommandLine.Run
import TableSql.CommandLine.Template
import TableSql.CompiledTable
import TableSql.Config.Basic
import TableSql.Config.Checked
import TableSql.Config.Reader
import TableSql.Config.Variables
import TableSql.Crud
import TableSql.Ddl
import TableSql.Decimal.Binary
import TableSql.Decimal.Layout
import TableSql.Decimal.Shortest
import TableSql.Encoding
import TableSql.Error
import TableSql.Files.Access
import TableSql.Files.Failure
import TableSql.Files.Fault
import TableSql.Files.Path
import TableSql.Files.Tree
import TableSql.Integer
import TableSql.Json.Basic
import TableSql.Json.Printer
import TableSql.Json.Reader
import TableSql.Main
import TableSql.Options
import TableSql.Power
import TableSql.Proofs.Accessor
import TableSql.Proofs.Crud.Binding
import TableSql.Proofs.Crud.Generated
import TableSql.Proofs.Crud.Placeholders
import TableSql.Proofs.Crud.Skeleton
import TableSql.Proofs.Crud.Tokens
import TableSql.Proofs.Except
import TableSql.Proofs.Registry
import TableSql.Proofs.Registry.Clients
import TableSql.Proofs.Row
import TableSql.Proofs.Schema.Built
import TableSql.Proofs.Sql.Reading
import TableSql.Proofs.Statement.Resolution
import TableSql.Proofs.Statement.Tokens
import TableSql.Proofs.Text.Trim
import TableSql.Proofs.Value.Storage
import TableSql.Record.Basic
import TableSql.Record.Samples
import TableSql.Registry
import TableSql.Registry.Calls
import TableSql.Row
import TableSql.Schema.Basic
import TableSql.Schema.ColumnRef
import TableSql.Schema.Draft
import TableSql.Sql.Delimited
import TableSql.Sql.Nesting
import TableSql.Sql.Quoted
import TableSql.Sql.Token
import TableSql.Statement.Basic
import TableSql.Statement.Template
import TableSql.Text.Blank
import TableSql.Text.CaseIgnorable
import TableSql.Text.Cased
import TableSql.Text.Digit
import TableSql.Text.Extending
import TableSql.Text.Ignorable
import TableSql.Text.Invisible
import TableSql.Text.Lower
import TableSql.Text.LowerTable
import TableSql.Text.Quoted
import TableSql.Text.Ranges
import TableSql.Text.Utf8
import TableSql.Timestamp
import TableSql.Toml.Basic
import TableSql.Toml.Quoted
import TableSql.Toml.Reader
import TableSql.Toml.Scalar
import TableSql.Toml.Section
import TableSql.TypeMap
import TableSql.Value.Basic
import TableSql.Value.Extract
import TableSql.Value.Storage
import TableSql.Value.Text
import TableSql.Wire
import TableSql.Proofs.Position
import TableSql.Proofs.Row.Wire
import TableSql.Proofs.Schema.Groups
import TableSql.Proofs.Schema.Declared
import TableSql.Proofs.Accessor.Lookup
import TableSql.Proofs.Files.Path
import TableSql.Proofs.Files.Walk
import TableSql.Proofs.Files.Tree
import TableSql.Proofs.Files.Access
import TableSql.Proofs.Catalog.Names
import TableSql.Proofs.Catalog.Plan
import TableSql.Proofs.Catalog.Apply
import TableSql.Proofs.Catalog.Sync
import TableSql.Proofs.Catalog.Modes
import TableSql.Proofs.Catalog.Kept
import TableSql.Proofs.Ddl
import TableSql.Proofs.Sql.Lines
import TableSql.Proofs.Catalog.Contents
import TableSql.Proofs.Sql.Nesting
import TableSql.Proofs.Ddl.Items
import TableSql.Proofs.Row.Fields
import TableSql.Proofs.Row.Failures
import TableSql.Proofs.Schema.Uniques
import TableSql.Proofs.Catalog.Clashes
import TableSql.Proofs.Catalog.Failed
import TableSql.Proofs.Config.Tables
import TableSql.Proofs.CommandLine.Gen
import TableSql.Proofs.Ddl.RawLines
import TableSql.Proofs.Crud.Conditions
import TableSql.Proofs.Catalog.Recognised
import TableSql.Proofs.Ddl.ColumnTypes
import TableSql.Proofs.ColumnType.Names
import TableSql.Proofs.TypeMap.Entries
import TableSql.Proofs.Wire.Sending
import TableSql.Proofs.ColumnType.Precision
import TableSql.Proofs.Config.Variables
import TableSql.Proofs.CommandLine.Arguments
import TableSql.Proofs.Statement.Allocation
import TableSql.Proofs.Sql.Delimited
import TableSql.Proofs.Text.Utf8
import TableSql.Proofs.Lists
