import ResultFlow.Log.Filter
import ResultFlow.ResultSet
import ResultFlow.Http.Query
import ResultFlow.Http.Server
import ResultFlow.Http.Download
import ResultFlow.Http.Redirect
import ResultFlow.Proofs.Cursor.Rows
import ResultFlow.Proofs.Cursor.End
import ResultFlow.Proofs.Cursor.Loop
import ResultFlow.Proofs.Stream.Reading
import ResultFlow.Proofs.Stream.Session
import ResultFlow.Proofs.Stream.Exact
import ResultFlow.Proofs.Stream.Demand
import ResultFlow.Proofs.Stream.Transfer
import ResultFlow.Proofs.Stream.Accounting
import ResultFlow.Proofs.Stream.Capacity
import ResultFlow.Proofs.Cursor.Paging
import ResultFlow.Proofs.Cursor.Operations
import ResultFlow.Proofs.Cursor.Failure
import ResultFlow.Proofs.Occurrence
import ResultFlow.Proofs.Cursor.Uses
import ResultFlow.Proofs.Cursor.Requests
import ResultFlow.Proofs.Cursor.Forward
import ResultFlow.Proofs.Cursor.Access
import ResultFlow.Proofs.Cursor.Numbering
import ResultFlow.Proofs.Stream.Outcome
import ResultFlow.Proofs.Stream.Release
import ResultFlow.Proofs.Stream.Progress
import ResultFlow.Proofs.Http.Attempts
import ResultFlow.Proofs.Http.Secrecy
import ResultFlow.Proofs.Http.Retrieval
import ResultFlow.Proofs.Options
import ResultFlow.Proofs.Http.Failure
import ResultFlow.Proofs.Http.Arithmetic
import ResultFlow.Proofs.OptionOrder
import ResultFlow.Proofs.Stream.Limit
import ResultFlow.Proofs.Stream.Handoff
import ResultFlow.Proofs.Page.Layout
import ResultFlow.Proofs.Cursor.Relative
import ResultFlow.Proofs.Cursor.Closing
import ResultFlow.Proofs.Cursor.LastCell
import ResultFlow.Proofs.Page.Request
import ResultFlow.Proofs.Cursor.Coherence
import ResultFlow.Proofs.Http.Dispenser
import ResultFlow.Proofs.Calendar.Dates
import ResultFlow.Proofs.Number.Word
import ResultFlow.Proofs.Calendar.Fields
