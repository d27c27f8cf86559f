import DocStore.CharSet
import DocStore.CharSet.Break
import DocStore.CharSet.Encoded
import DocStore.CharSet.Named
import DocStore.CharSet.Property
import DocStore.CharSet.Spans
import DocStore.Client
import DocStore.Config
import DocStore.Config.Naming
import DocStore.Config.Toml
import DocStore.Connection
import DocStore.Cursor
import DocStore.Cursor.Open
import DocStore.Document.Projection
import DocStore.Document.Sort
import DocStore.Document.Update
import DocStore.Error
import DocStore.Error.Store
import DocStore.Execute
import DocStore.Execute.Blob
import DocStore.Execute.Params
import DocStore.Filter
import DocStore.Filter.Compile
import DocStore.Filter.Operator
import DocStore.Filter.Spec
import DocStore.Json
import DocStore.Json.Fields
import DocStore.Json.Number
import DocStore.Json.Text
import DocStore.Log
import DocStore.Number.Decimal128
import DocStore.Number.Double
import DocStore.Number.DoubleText
import DocStore.Number.Integer
import DocStore.OrderedMap
import DocStore.Pipeline
import DocStore.Pipeline.Group
import DocStore.Query
import DocStore.Query.Aggregate
import DocStore.Query.Command
import DocStore.Query.Stage
import DocStore.Record
import DocStore.Regex
import DocStore.Regex.Class
import DocStore.Regex.Error
import DocStore.Regex.Escape
import DocStore.Regex.Memory
import DocStore.Regex.Mode
import DocStore.Regex.Pattern
import DocStore.Regex.Property
import DocStore.Regex.Run
import DocStore.Selector
import DocStore.Selector.Test
import DocStore.Store
import DocStore.Store.Blob
import DocStore.Store.Call
import DocStore.Store.Collection
import DocStore.Store.Command
import DocStore.Store.Stream
import DocStore.Text.AgeData
import DocStore.Text.Blank
import DocStore.Text.Bytes
import DocStore.Text.Case
import DocStore.Text.CaseData
import DocStore.Text.CaseSpans
import DocStore.Text.Category
import DocStore.Text.CategoryData
import DocStore.Text.PropertyData
import DocStore.Text.Runs
import DocStore.Text.ScriptData
import DocStore.Text.Spans
import DocStore.Text.Table
import DocStore.Time.Calendar
import DocStore.Time.Timestamp
import DocStore.Value
import DocStore.Value.Display
import DocStore.Value.Equality
import DocStore.Value.Extended
import DocStore.Value.Json
import DocStore.Value.Order
import DocStore.Value.Path
import DocStore.Watcher
import DocStore.Proofs.Execute.Guard
import DocStore.Proofs.Filter.Truth
import DocStore.Proofs.Store.Atomicity
import DocStore.Proofs.Filter.Compile
import DocStore.Proofs.Client
import DocStore.Proofs.Query
import DocStore.Proofs.Selector.Unconditional
import DocStore.Proofs.Record.RoundTrip
import DocStore.Proofs.Record.Dates
import DocStore.Proofs.Collection.Identifier
import DocStore.Proofs.Store.Identifier
import DocStore.Proofs.Store.Session
import DocStore.Proofs.Store.Isolation
import DocStore.Proofs.Store.Transaction
import DocStore.Proofs.Store.LastCommit
import DocStore.Proofs.Filter.Prune
import DocStore.Proofs.Filter.ElementMatch
import DocStore.Proofs.Document.Sort
import DocStore.Proofs.Connection.LifeCycle
import DocStore.Proofs.Collection.Selection
import DocStore.Proofs.Store.Read
import DocStore.Proofs.Store.Selection
import DocStore.Proofs.Store.Distinct
import DocStore.Proofs.Collection.Emptying
import DocStore.Proofs.Store.Listing
import DocStore.Proofs.Selector.EqualityTerms
import DocStore.Proofs.Document.Seed
import DocStore.Proofs.Collection.Upsert
import DocStore.Proofs.Store.Upsert
import DocStore.Proofs.Document.Stable
import DocStore.Proofs.Store.Paging
import DocStore.Proofs.Filter.Equality
import DocStore.Proofs.Value.NaN
import DocStore.Proofs.Collection.Log
import DocStore.Proofs.Store.ChangeLog
import DocStore.Proofs.Cursor.Fetch
import DocStore.Proofs.Cursor.Open
import DocStore.Proofs.Cursor.LifeCycle
import DocStore.Proofs.Pipeline.Accumulate
import DocStore.Proofs.Pipeline.Partition
import DocStore.Proofs.Pipeline.Group
import DocStore.Proofs.Cursor.Aggregate
import DocStore.Proofs.Query.GroupStage
import DocStore.Proofs.Execute.Call
import DocStore.Proofs.Execute.Refusal
import DocStore.Proofs.Store.Blob
import DocStore.Proofs.Execute.Blob
import DocStore.Proofs.Execute.BlobHistory
import DocStore.Proofs.Store.Publication
import DocStore.Proofs.Watcher.Delivery
import DocStore.Proofs.Number.Rounding
import DocStore.Proofs.Selector.Integer
import DocStore.Proofs.Document.BelowId
import DocStore.Proofs.Collection.Update
import DocStore.Proofs.Store.Write
import DocStore.Proofs.Execute.Write
import DocStore.Proofs.Execute.Update
import DocStore.Proofs.Selector.Lookup
import DocStore.Proofs.Store.Lookup
import DocStore.Proofs.Collection.Save
import DocStore.Proofs.Execute.Save
import DocStore.Proofs.Document.Locality
import DocStore.Proofs.Selector.Trichotomy
import DocStore.Proofs.Document.Projection
import DocStore.Proofs.Cursor.Select
import DocStore.Proofs.Filter.Pattern
import DocStore.Proofs.Document.Edit
import DocStore.Proofs.Document.Removal
import DocStore.Proofs.Document.Renaming
import DocStore.Proofs.Text.Case
import DocStore.Proofs.Time.Calendar
import DocStore.Proofs.Time.Timestamp
import DocStore.Proofs.Config.Naming
import DocStore.Proofs.Value.Saturation
import DocStore.Proofs.Pipeline.Sum
import DocStore.Proofs.Document.Increment
import DocStore.Proofs.Filter.Conjunction
import DocStore.Proofs.Query.Grouping
import DocStore.Proofs.Filter.Rejection
import DocStore.Proofs.Document.Field
import DocStore.Proofs.Execute.AllowList
import DocStore.Proofs.Document.Lead
import DocStore.Proofs.Store.Lead
import DocStore.Proofs.Document.Change
import DocStore.Proofs.Collection.Modified
import DocStore.Proofs.Store.Modified
