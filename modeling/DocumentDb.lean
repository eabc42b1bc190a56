import DocumentDb.Accessors.Declaration
import DocumentDb.Accessors.Generated
import DocumentDb.Accessors.Renaming
import DocumentDb.Accessors.WireName
import DocumentDb.Assoc
import DocumentDb.Backend
import DocumentDb.Backend.Interrupted
import DocumentDb.Binary64
import DocumentDb.Binary64.Shortest
import DocumentDb.Binary64.Text
import DocumentDb.Change
import DocumentDb.Codec.Converter
import DocumentDb.Codec.Decode
import DocumentDb.Codec.Encode
import DocumentDb.Codec.Extended
import DocumentDb.Error
import DocumentDb.Expression
import DocumentDb.Expression.Arithmetic
import DocumentDb.Expression.Evaluate
import DocumentDb.Expression.Operator
import DocumentDb.Expression.Render
import DocumentDb.Failure
import DocumentDb.Fault
import DocumentDb.Field
import DocumentDb.Filter
import DocumentDb.Filter.Match
import DocumentDb.Filter.Render
import DocumentDb.Fragment
import DocumentDb.Id
import DocumentDb.Memory.Backend
import DocumentDb.Memory.Collection
import DocumentDb.Memory.Outline
import DocumentDb.Memory.Store
import DocumentDb.Pipeline
import DocumentDb.Pipeline.Group
import DocumentDb.Pipeline.Render
import DocumentDb.Pipeline.Run
import DocumentDb.Pipeline.Shape
import DocumentDb.Pipeline.Sort
import DocumentDb.Proofs.Memory.Collection
import DocumentDb.Proofs.Value.Order
import DocumentDb.Proofs.Value.Same
import DocumentDb.Records.Contact
import DocumentDb.Records.Person
import DocumentDb.Records.Report
import DocumentDb.Records.Settings
import DocumentDb.Remote.ClientError
import DocumentDb.Remote.Connection
import DocumentDb.Remote.Database
import DocumentDb.Remote.Session
import DocumentDb.Text.Bytes
import DocumentDb.Text.Casing
import DocumentDb.Text.Casing.Table
import DocumentDb.Text.Invisible
import DocumentDb.Text.Mark
import DocumentDb.Text.Numeral
import DocumentDb.Text.Quoted
import DocumentDb.Text.Ranges
import DocumentDb.Text.Split
import DocumentDb.Text.Words
import DocumentDb.Typed.Aggregation
import DocumentDb.Typed.Batch
import DocumentDb.Typed.Collection
import DocumentDb.Typed.Store
import DocumentDb.Value
import DocumentDb.Value.Display
import DocumentDb.Value.Json
import DocumentDb.Value.Order
import DocumentDb.Value.Path
import DocumentDb.Value.Same
import DocumentDb.Write
import DocumentDb.Proofs.Memory.Call
import DocumentDb.Proofs.Memory.WellFormed
import DocumentDb.Proofs.Filter.Render
import DocumentDb.Proofs.Memory.Prefix
import DocumentDb.Proofs.Memory.Replay
import DocumentDb.Proofs.Value.Path
import DocumentDb.Proofs.Filter.Reading
import DocumentDb.Proofs.Value.Measured
import DocumentDb.Proofs.Expression.Render
import DocumentDb.Proofs.Expression.Reading
import DocumentDb.Proofs.Expression.Constant
import DocumentDb.Proofs.Result
import DocumentDb.Proofs.Expression.Operator
import DocumentDb.Proofs.Memory.History
import DocumentDb.Proofs.Pipeline.Group
import DocumentDb.Proofs.Expression.Meaning
import DocumentDb.Proofs.Pipeline.Sort
import DocumentDb.Proofs.Filter.Boolean
import DocumentDb.Proofs.Filter.Bound
import DocumentDb.Proofs.Memory.Single
import DocumentDb.Proofs.Typed.Writes
import DocumentDb.Proofs.Filter.Refusal
import DocumentDb.Proofs.Binary64.Nearest
import DocumentDb.Proofs.Value.Integer
import DocumentDb.Proofs.Value.Keyed
import DocumentDb.Proofs.Value.NaN
import DocumentDb.Proofs.Typed.Upserts
import DocumentDb.Proofs.Remote.ById
import DocumentDb.Proofs.Memory.Account
import DocumentDb.Proofs.Memory.Delivery
import DocumentDb.Proofs.Typed.Results
import DocumentDb.Proofs.Remote.Codes
import DocumentDb.Proofs.Filter.Inclusive
import DocumentDb.Proofs.Pipeline.SortDocument
import DocumentDb.Proofs.Expression.Paths
import DocumentDb.Proofs.Value.Rearranged
import DocumentDb.Proofs.Pipeline.AddFields
import DocumentDb.Proofs.Codec.Record
import DocumentDb.Proofs.Records.Person
import DocumentDb.Proofs.Pipeline.Unwind
import DocumentDb.Proofs.Filter.Containment
import DocumentDb.Proofs.Value.Canonical
import DocumentDb.Proofs.Memory.Modified
import DocumentDb.Proofs.Codec.Message
import DocumentDb.Proofs.Codec.Located
import DocumentDb.Proofs.Records.Located
import DocumentDb.Proofs.Pipeline.Inclusion
import DocumentDb.Proofs.Value.Removal
import DocumentDb.Proofs.Pipeline.Exclusion
import DocumentDb.Proofs.Pipeline.Accumulator
import DocumentDb.Proofs.Expression.Arithmetic
import DocumentDb.Proofs.Pipeline.Reordered
import DocumentDb.Proofs.Memory.Counting
import DocumentDb.Proofs.Memory.UniqueIndex
import DocumentDb.Proofs.Typed.Sampling
import DocumentDb.Proofs.Text.Numeral
import DocumentDb.Proofs.Expression.Invalid
import DocumentDb.Proofs.Pipeline.Merge
import DocumentDb.Proofs.Remote.Requests
import DocumentDb.Proofs.Text.Separators
import DocumentDb.Proofs.Value.Spacing
import DocumentDb.Proofs.Typed.EncodedFirst
import DocumentDb.Proofs.Accessors.WireName
import DocumentDb.Proofs.Value.Lens
import DocumentDb.Proofs.IdFirst
import DocumentDb.Proofs.Accessors.Renaming
