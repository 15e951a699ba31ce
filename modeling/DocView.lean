import DocView.Query
import DocView.Store.Http
import DocView.Store.Memory
import DocView.Store.Scripted
import DocView.Proofs.Materializer.Session
import DocView.Proofs.Materializer.Discipline
import DocView.Proofs.Materializer.Writing
import DocView.Proofs.Store.Revision
import DocView.Proofs.Store.Operation
import DocView.Proofs.Store.Waiting
import DocView.Proofs.DesignDocument
import DocView.Proofs.Race
import DocView.Proofs.Race.Merge
import DocView.Proofs.Text.Percent
import DocView.Proofs.ViewPath
import DocView.Proofs.Store.Views
import DocView.Proofs.Race.Convergence
import DocView.Proofs.Json.Quoted
import DocView.Proofs.Json.Whole
import DocView.Proofs.Json.RoundTrip
import DocView.Proofs.Json.Collation
import DocView.Proofs.QueryString
import DocView.Proofs.KeyRange
import DocView.Proofs.Scan
import DocView.Proofs.Store.RowOrder
import DocView.Proofs.Selection
import DocView.Proofs.Answer
import DocView.Proofs.Materializer.Ending
import DocView.Proofs.ViewName
import DocView.Proofs.ViewDefinition
import DocView.Proofs.FirstFetch
import DocView.Proofs.Store.Version
import DocView.Proofs.ClauseOrder
import DocView.Proofs.Store.Contention
import DocView.Proofs.ContendedFetch
import DocView.Proofs.ClauseText
import DocView.Proofs.MapSource
import DocView.Proofs.Store.Segment
import DocView.Proofs.Double.Exact
import DocView.Proofs.Json.SameValue
import DocView.Proofs.Store.ExactKey
import DocView.Proofs.EventLog
import DocView.Proofs.RepeatedFetch
import DocView.Proofs.Store.Http
import DocView.Proofs.Materializer.Addressing
import DocView.Proofs.Store.Lookup
import DocView.Proofs.Explanation
import DocView.Proofs.Json.Decode
import DocView.Proofs.ViewResponse
