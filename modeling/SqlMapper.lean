import SqlMapper.Calendar.Date
import SqlMapper.Calendar.Instant
import SqlMapper.Calendar.Reader
import SqlMapper.CommandLine.Arguments
import SqlMapper.CommandLine.Help
import SqlMapper.CommandLine.Log
import SqlMapper.CommandLine.Options
import SqlMapper.CommandLine.Session
import SqlMapper.CompileError
import SqlMapper.Condition
import SqlMapper.Database
import SqlMapper.Decimal.Binary
import SqlMapper.Decimal.Integer
import SqlMapper.Decimal.Notation
import SqlMapper.Decimal.Shortest
import SqlMapper.Dialect
import SqlMapper.Dialogue
import SqlMapper.Entries
import SqlMapper.FileTree
import SqlMapper.Filter.Basic
import SqlMapper.Filter.Document
import SqlMapper.Fragment
import SqlMapper.Json.Basic
import SqlMapper.Json.Fields
import SqlMapper.Json.Numeral
import SqlMapper.Json.Printer
import SqlMapper.Json.Token
import SqlMapper.Json.Written
import SqlMapper.Main
import SqlMapper.Model.Basic
import SqlMapper.Model.Direction
import SqlMapper.Model.Document
import SqlMapper.Model.Field
import SqlMapper.Model.Index
import SqlMapper.Model.Registry
import SqlMapper.Operand
import SqlMapper.Order
import SqlMapper.Parameters
import SqlMapper.Parameters.Document
import SqlMapper.Prepared
import SqlMapper.Proofs.Binding.Content
import SqlMapper.Proofs.Binding.Distinct
import SqlMapper.Proofs.Binding.Documents
import SqlMapper.Proofs.Binding.Growth
import SqlMapper.Proofs.Binding.Numbering
import SqlMapper.Proofs.Binding.Outcome
import SqlMapper.Proofs.Binding.Shape
import SqlMapper.Proofs.Calendar.Civil
import SqlMapper.Proofs.Calendar.Reading
import SqlMapper.Proofs.Calendar.Stored
import SqlMapper.Proofs.Decimal.Padded
import SqlMapper.Proofs.Entries
import SqlMapper.Proofs.Model.IndexNames
import SqlMapper.Proofs.Model.Settled
import SqlMapper.Proofs.Schema.Applying
import SqlMapper.Proofs.Schema.Converging
import SqlMapper.Proofs.Schema.Creating
import SqlMapper.Proofs.Schema.Executing
import SqlMapper.Proofs.Schema.Grouping
import SqlMapper.Proofs.Schema.IndexedColumns
import SqlMapper.Proofs.Schema.KeyColumn
import SqlMapper.Proofs.Schema.Listing
import SqlMapper.Proofs.Schema.Partition
import SqlMapper.Proofs.Schema.Planning
import SqlMapper.Proofs.Schema.Script
import SqlMapper.Proofs.Schema.TableScript
import SqlMapper.Proofs.Schema.UpToDate
import SqlMapper.Proofs.Search.Meaning
import SqlMapper.Proofs.Search.Predicate
import SqlMapper.Proofs.Search.Tokens
import SqlMapper.Proofs.Sharing
import SqlMapper.Proofs.Statement.Columns
import SqlMapper.Proofs.Statement.Declared
import SqlMapper.Proofs.Statement.Parts
import SqlMapper.Proofs.Statement.Placeholders
import SqlMapper.Proofs.Statement.References
import SqlMapper.Proofs.Statement.Shape
import SqlMapper.Proofs.Statement.Symbols
import SqlMapper.Proofs.Statement.Wording
import SqlMapper.Proofs.Store.Changing
import SqlMapper.Proofs.Store.Decoding
import SqlMapper.Proofs.Store.Following
import SqlMapper.Proofs.Store.Mirroring
import SqlMapper.Proofs.Store.Refreshing
import SqlMapper.Proofs.Store.Run
import SqlMapper.Proofs.Store.Saving
import SqlMapper.Proofs.Text.Blank
import SqlMapper.Proofs.Text.Names
import SqlMapper.Record
import SqlMapper.Row
import SqlMapper.Schema.Catalog
import SqlMapper.Schema.ColumnType
import SqlMapper.Schema.Ddl
import SqlMapper.Schema.Diff
import SqlMapper.Schema.Error
import SqlMapper.Schema.Facts
import SqlMapper.Schema.Sync
import SqlMapper.SortedTable
import SqlMapper.Sql
import SqlMapper.Statement
import SqlMapper.Store
import SqlMapper.Text.Ascii
import SqlMapper.Text.Blank
import SqlMapper.Text.Case
import SqlMapper.Text.CaseTable
import SqlMapper.Value
import SqlMapper.Proofs.Dialogue.Interleaving
import SqlMapper.Proofs.Store.Failing
import SqlMapper.Proofs.Model.Registering
import SqlMapper.Proofs.Schema.DryRun
import SqlMapper.Proofs.Schema.Independence
import SqlMapper.Proofs.Schema.Creations
import SqlMapper.Proofs.Schema.Reported
import SqlMapper.Proofs.Schema.ReadBack
import SqlMapper.Proofs.Search.Membership
import SqlMapper.Proofs.Model.Runs
import SqlMapper.Proofs.Schema.TableOwners
import SqlMapper.Proofs.Model.Rereading
import SqlMapper.Proofs.Binding.Single
import SqlMapper.Proofs.Calendar.Succession
import SqlMapper.Proofs.Decimal.Ordered
import SqlMapper.Proofs.Calendar.Ordered
import SqlMapper.Proofs.Search.Nested
import SqlMapper.Proofs.Decimal.Equality
import SqlMapper.Proofs.Json.Sameness
import SqlMapper.Proofs.Search.Documents
import SqlMapper.Proofs.Schema.Shuffled
import SqlMapper.Proofs.Order.Reading
import SqlMapper.Proofs.Statement.Assigned
import SqlMapper.Proofs.Statement.SavePlans
import SqlMapper.Proofs.Text.Quoting
import SqlMapper.Proofs.Order.Lists
import SqlMapper.Proofs.Schema.Guards
import SqlMapper.Proofs.Search.Drafts
