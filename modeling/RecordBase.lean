import RecordBase.Schema.Builder
import RecordBase.Proofs.Connection.Synchronization
import RecordBase.Proofs.Query.PrimaryOrder
import RecordBase.Proofs.Storage.Alignment
import RecordBase.Proofs.Storage.Refusal
import RecordBase.Proofs.Storage.Versions
import RecordBase.Proofs.Store.Generator
import RecordBase.Proofs.Store.Patch
import RecordBase.Proofs.Traversal.Delete
import RecordBase.Proofs.Traversal.Update
import RecordBase.Proofs.Walk.Stability
import RecordBase.Proofs.Connection.Requests
import RecordBase.Proofs.Connection.Paging
import RecordBase.Proofs.Connection.Single
import RecordBase.Proofs.Document.Value
import RecordBase.Proofs.Schema.Codec
import RecordBase.Proofs.Index.History
import RecordBase.Proofs.Index.Walk
import RecordBase.Proofs.Index.Position
import RecordBase.Proofs.Query.KeyRange
import RecordBase.Proofs.Traversal.Failure
import RecordBase.Proofs.Record.Sorting
import RecordBase.Proofs.Value.Number
import RecordBase.Proofs.Traversal.Course
import RecordBase.Proofs.Connection.Repetition
import RecordBase.Proofs.Record.Defaults
import RecordBase.Proofs.Connection.Lookup
import RecordBase.Proofs.Connection.Insertion
import RecordBase.Proofs.Query.Limits
import RecordBase.Proofs.Query.Candidates
import RecordBase.Proofs.Schema.Acceptance
import RecordBase.Proofs.Connection.Generation
