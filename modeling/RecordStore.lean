import RecordStore.FieldMap
import RecordStore.Number.Double
import RecordStore.Number.Shortest
import RecordStore.Text.Blank
import RecordStore.Text.Search
import RecordStore.Number.Integer
import RecordStore.Number.Decimal
import RecordStore.Number.DecimalText
import RecordStore.Time.Timestamp
import RecordStore.Time.Reader
import RecordStore.Json.Basic
import RecordStore.Json.Writer
import RecordStore.Json.Reader
import RecordStore.Schema.Kind
import RecordStore.Value.Basic
import RecordStore.Value.Coercion
import RecordStore.Value.Order
import RecordStore.Value.Arithmetic
import RecordStore.Record
import RecordStore.Schema.Entity
import RecordStore.Schema.Declaration
import RecordStore.Schema.Registry
import RecordStore.Schema.Catalog
import RecordStore.Text.CodeRanges
import RecordStore.Text.Combining
import RecordStore.Text.Invisible
import RecordStore.Text.Debug
import RecordStore.Request.Shape
import RecordStore.Error
import RecordStore.Condition.Predicate
import RecordStore.Condition.Test
import RecordStore.Condition.Reader
import RecordStore.Aggregate.Selector
import RecordStore.Aggregate.Selection
import RecordStore.Aggregate.Having
import RecordStore.Mutation.Change
import RecordStore.Mutation.Reader
import RecordStore.Query.Order
import RecordStore.Query.Plan
import RecordStore.Query.Window
import RecordStore.Aggregate.Groups
import RecordStore.Request.Lifecycle
import RecordStore.Request.Operation
import RecordStore.Sql.Cell
import RecordStore.Sql.Clause
import RecordStore.Sql.Definition
import RecordStore.Sql.Narrowing
import RecordStore.Sql.Quoted
import RecordStore.Sql.Scalar
import RecordStore.Sql.Scan
import RecordStore.Store.Interface
import RecordStore.Store.Table
import RecordStore.Store.Memory
import RecordStore.Store.Columns
import RecordStore.Store.Rows
import RecordStore.Store.Database
import RecordStore.Request.Execution
import RecordStore.Request.Retry
import RecordStore.Json.Skip
import RecordStore.Request.Text
import RecordStore.Text.Lines
import RecordStore.Program.Config
import RecordStore.Program.Options
import RecordStore.Program.Server
import RecordStore.Program.Run
import RecordStore.Main
import RecordStore.Proofs.Comparison.Values
import RecordStore.Proofs.Comparison.Numbers
import RecordStore.Proofs.Comparison.Rows
import RecordStore.Proofs.Comparison.Moments
import RecordStore.Proofs.RoundTrip.Digits
import RecordStore.Proofs.RoundTrip.Moments
import RecordStore.Proofs.RoundTrip.Decimals
import RecordStore.Proofs.Typing.Values
import RecordStore.Proofs.Typing.Entities
import RecordStore.Proofs.Typing.Rows
import RecordStore.Proofs.Typing.Mutations
import RecordStore.Proofs.Typing.Filters
import RecordStore.Proofs.Typing.Plans
import RecordStore.Proofs.Typing.Admission
import RecordStore.Proofs.Typing.Completeness
import RecordStore.Proofs.Request.Execution
import RecordStore.Proofs.Query.Windows
import RecordStore.Proofs.Query.Paging
import RecordStore.Proofs.Memory.Addresses
import RecordStore.Proofs.Memory.Tables
import RecordStore.Proofs.Memory.Stores
import RecordStore.Proofs.Memory.Uniqueness
import RecordStore.Proofs.Memory.Failure
import RecordStore.Proofs.Memory.Completeness
import RecordStore.Proofs.Memory.Paging
import RecordStore.Proofs.Database.Cells
import RecordStore.Proofs.Database.Tests
import RecordStore.Proofs.Database.Narrowing
import RecordStore.Proofs.Database.Matching
import RecordStore.Proofs.Database.Cursor
import RecordStore.Proofs.Database.Scan
import RecordStore.Proofs.Database.Window
import RecordStore.Proofs.Database.Columns
import RecordStore.Proofs.Database.Addressing
import RecordStore.Proofs.Database.Stores
import RecordStore.Proofs.Database.Writing
import RecordStore.Proofs.Database.Transactions
import RecordStore.Proofs.Request.Calls
import RecordStore.Proofs.Memory.StorageOrder
import RecordStore.Proofs.Aggregate.Reductions
import RecordStore.Proofs.Aggregate.Groups
import RecordStore.Proofs.Program.Answers
import RecordStore.Proofs.RoundTrip.Values
import RecordStore.Proofs.Database.Binding
import RecordStore.Proofs.Database.Builder
import RecordStore.Proofs.RoundTrip.Records
import RecordStore.Proofs.Memory.Clients
import RecordStore.Proofs.Memory.Creation
import RecordStore.Proofs.Database.Batches
import RecordStore.Proofs.Memory.Batches
import RecordStore.Proofs.RoundTrip.FixedWidth
import RecordStore.Proofs.Condition.Grammar
import RecordStore.Proofs.Condition.Reading
import RecordStore.Proofs.Query.Duplicates
import RecordStore.Proofs.Aggregate.Sums
import RecordStore.Proofs.Memory.Numbering
import RecordStore.Proofs.RoundTrip.Addresses
import RecordStore.Proofs.Memory.SingleRows
import RecordStore.Proofs.Memory.Upserts
import RecordStore.Proofs.Memory.OneByOne
import RecordStore.Proofs.Query.Mirror
import RecordStore.Proofs.Arithmetic.Decimals
import RecordStore.Proofs.Arithmetic.Changes
import RecordStore.Proofs.Condition.Trees
import RecordStore.Proofs.Condition.Groups
import RecordStore.Proofs.Query.Bounds
import RecordStore.Proofs.RoundTrip.Integers
import RecordStore.Proofs.Request.Retries
import RecordStore.Proofs.Request.Phases
import RecordStore.Proofs.Database.Tokens
import RecordStore.Proofs.Database.Fragments
import RecordStore.Proofs.Database.Writable
import RecordStore.Proofs.Database.Definitions
