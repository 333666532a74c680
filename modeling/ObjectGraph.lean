import ObjectGraph.Binder
import ObjectGraph.Class.Builder
import ObjectGraph.Value.Equality
import ObjectGraph.Value.Json
import ObjectGraph.Path.Scan
import ObjectGraph.Proofs.Path.RoundTrip
import ObjectGraph.Proofs.Access.Lens
import ObjectGraph.Proofs.Class.Cache
import ObjectGraph.Proofs.Class.Introspection
import ObjectGraph.Proofs.Record.Runs
import ObjectGraph.Proofs.Convert.Policy
import ObjectGraph.Proofs.Binder.Snapshot
import ObjectGraph.Proofs.Object.Questions
import ObjectGraph.Proofs.Record.Redeclaration
import ObjectGraph.Proofs.Record.Agreement
import ObjectGraph.Proofs.Convert.Growth
import ObjectGraph.Proofs.Binder.Storage
import ObjectGraph.Proofs.Object.Outcome
import ObjectGraph.Proofs.Binder.Skipping
import ObjectGraph.Proofs.Access.MapCopy
import ObjectGraph.Proofs.Class.Accessibility
import ObjectGraph.Proofs.Binder.Atomicity
import ObjectGraph.Proofs.Value.Assignability
import ObjectGraph.Proofs.Binder.Conformity
import ObjectGraph.Proofs.Access.Conformity
import ObjectGraph.Proofs.Convert.Sharing
import ObjectGraph.Proofs.Access.Adapter
import ObjectGraph.Proofs.Access.Asking
import ObjectGraph.Proofs.Binder.Adapter
import ObjectGraph.Proofs.Class.Inheritance
import ObjectGraph.Proofs.Class.KeyedDiscovery
import ObjectGraph.Proofs.Path.Grammar
import ObjectGraph.Proofs.Object.Purity
import ObjectGraph.Proofs.Record.Filling
import ObjectGraph.Proofs.Access.Describing
import ObjectGraph.Proofs.Access.Description
import ObjectGraph.Proofs.Data.Memo
import ObjectGraph.Proofs.Record.Installing
import ObjectGraph.Proofs.Record.Readying
import ObjectGraph.Proofs.Record.Lengthening
import ObjectGraph.Proofs.Access.Subscripts
import ObjectGraph.Proofs.Path.Cutting
import ObjectGraph.Proofs.Path.Mirror
import ObjectGraph.Proofs.Path.FirstSegment
import ObjectGraph.Proofs.Path.Faults
import ObjectGraph.Proofs.Record.Writing
import ObjectGraph.Proofs.Convert.Delimited
import ObjectGraph.Proofs.Convert.Integers
import ObjectGraph.Proofs.Convert.Booleans
import ObjectGraph.Proofs.Access.BulkCopy
import ObjectGraph.Proofs.Binder.Clone
import ObjectGraph.Proofs.Binder.Spellings
import ObjectGraph.Proofs.Class.Naming
import ObjectGraph.Proofs.Class.Declaration
import ObjectGraph.Proofs.Text.ByteOrder
import ObjectGraph.Proofs.Data.Dict
import ObjectGraph.Proofs.Value.Unfolding
import ObjectGraph.Proofs.Value.Serialization
import ObjectGraph.Proofs.Value.SameTree
import ObjectGraph.Proofs.Record.Furnishing
import ObjectGraph.Proofs.Access.Finding
import ObjectGraph.Proofs.Access.Rereading
import ObjectGraph.Proofs.Record.Widening
import ObjectGraph.Proofs.Binder.PlainWrite
