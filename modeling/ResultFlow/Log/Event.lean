import ResultFlow.Error
import ResultFlow.Text

/-!
# Log events

What the library reports about its own work. An event has a level and comes from one part of the
library, its source; `Event.text` words it.
-/

namespace ResultFlow.Log

/-- How much attention an event asks for. -/
inductive Level
  | error
  | warn
  | info
  | debug
  | trace
  deriving DecidableEq

namespace Level

/-- The levels in order: an error has rank 1. -/
def rank : Level → Nat
  | error => 1
  | warn => 2
  | info => 3
  | debug => 4
  | trace => 5

def name : Level → String
  | error => "ERROR"
  | warn => "WARN"
  | info => "INFO"
  | debug => "DEBUG"
  | trace => "TRACE"

end Level

/-- The part of the library that reports. -/
inductive Source
  | pages
  | cursor
  | flow
  | bridge
  | transport
  | queries
  | objects
  deriving DecidableEq

/-- The name of a source, by which filters choose. -/
def Source.target : Source → String
  | pages => "athena_results::result::page_fetcher"
  | cursor => "athena_results::result::cursor"
  | flow => "athena_results::stream::flow_control"
  | bridge => "athena_results::stream::bridge"
  | transport => "athena_results::client::http"
  | queries => "athena_results::client::query_results"
  | objects => "athena_results::client::object_store"

/-- Something that the library reports. -/
inductive Event
  | pageRequested (query : String) (token : Option String) (maxRows : Nat)
  | pageFailed (query : String) (cause : Error)
  /-- The request ended without an answer of any kind. -/
  | pageLost (query : String) (cause : Error)
  | pageTimedOut (query : String) (limit : Duration)
  | pageInterrupted (query : String)
  | pageLoaded (query : String) (rows : Nat) (more : Bool)
  | cursorClosing (query : String)
  | wholeObjectRequested (length : Nat)
  | firstBatchRequested (length : Option Nat) (batch : Nat)
  | batchRequested (batch : Nat) (outstanding buffered : Int)
  | objectOpening (url : String)
  | objectAnswered (length : Option Nat) (type : Option String)
  | subscribedTooLate
  | streamCompleted
  | streamFailed (cause : Error)
  | failureIgnored (cause : Error)
  | subscriptionCancelled
  | openingDropped
  | endReached
  | streamClosed (discarded : Nat)
  | attempt (method url : String) (number limit : Nat)
  | statusRetried (status : String) (number limit : Nat)
  | faultRetried (fault : String) (number limit : Nat)
  | retryDelayed (delay : Duration)
  | querySent (query : String) (token : Option String) (maxRows : Nat)
  | queryAnswered (query : String) (rows : Nat) (more : Bool)
  | objectNotOpened (url : String) (cause : Error)
  | objectDownloaded (bytes : Nat) (url : String) (elapsed : Duration)
  | downloadCancelled (url : String)
  | downloadFailed (url : String) (cause : Error)
  deriving DecidableEq

namespace Event

def source : Event → Source
  | pageRequested .. | pageFailed .. | pageLost .. | pageTimedOut .. | pageInterrupted .. => .pages
  | pageLoaded .. | cursorClosing .. => .cursor
  | wholeObjectRequested .. | firstBatchRequested .. | batchRequested .. => .flow
  | objectOpening .. | objectAnswered .. | subscribedTooLate | streamCompleted | streamFailed ..
  | failureIgnored .. | subscriptionCancelled | openingDropped | endReached | streamClosed .. =>
    .bridge
  | attempt .. | statusRetried .. | faultRetried .. | retryDelayed .. => .transport
  | querySent .. | queryAnswered .. => .queries
  | objectNotOpened .. | objectDownloaded .. | downloadCancelled .. | downloadFailed .. => .objects

def level : Event → Level
  | pageFailed .. | pageLost .. => .error
  | pageTimedOut .. | streamFailed .. | statusRetried .. | faultRetried .. | objectNotOpened ..
  | downloadFailed .. => .warn
  | wholeObjectRequested .. | firstBatchRequested .. | batchRequested .. => .trace
  | _ => .debug

/-- An attempt among those allowed. -/
def count (number limit : Nat) : String :=
  "(attempt " ++ toString number ++ "/" ++ toString limit ++ ")"

/-- A page request by its token and its number of rows. -/
def request (token : Option String) (maxRows : Nat) : String :=
  "(token=" ++ Text.quoted? token ++ ", max_results=" ++ toString maxRows ++ ")"

/-- The wording of an event. -/
def text : Event → String
  | pageRequested query token maxRows =>
    "Requesting page of query " ++ query ++ " " ++ request token maxRows
  | pageFailed query cause => "Page request for query " ++ query ++ " failed: " ++ cause.message
  | pageLost query cause =>
    "Page request task for query " ++ query ++ " did not complete: " ++ cause.message
  | pageTimedOut query limit =>
    "Page request for query " ++ query ++ " timed out after " ++ limit.text
  | pageInterrupted query => "Interrupted waiting for page of query " ++ query
  | pageLoaded query rows more =>
    "Loaded page of query " ++ query ++ " with " ++ toString rows ++ " rows (more=" ++
      toString more ++ ")"
  | cursorClosing query => "Closing cursor for query " ++ query
  | wholeObjectRequested length =>
    "Object of " ++ toString length ++ " bytes fits the buffer, requesting all"
  | firstBatchRequested length batch =>
    "Object length " ++ Text.optional toString length ++ " at or above target, requesting " ++
      toString batch ++ " chunks"
  | batchRequested batch outstanding buffered =>
    "Requesting " ++ toString batch ++ " more chunks (outstanding " ++ toString outstanding ++
      ", buffered " ++ toString buffered ++ ")"
  | objectOpening url => "Opening object stream for " ++ url
  | objectAnswered length type =>
    "Object response: content_length=" ++ Text.optional toString length ++ ", content_type=" ++
      Text.quoted? type
  | subscribedTooLate => "Subscription arrived after release, cancelling"
  | streamCompleted => "Object stream complete"
  | streamFailed cause => "Object stream failed: " ++ cause.message
  | failureIgnored cause => "Ignoring secondary stream error: " ++ cause.message
  | subscriptionCancelled => "Cancelling upstream subscription"
  | openingDropped => "Prepared stream dropped before resolving"
  | endReached => "Reached end of stream"
  | streamClosed discarded =>
    "Closing unfinished stream, discarded " ++ toString discarded ++ " bytes"
  | attempt method url number limit =>
    "Executing " ++ method ++ " " ++ url ++ " " ++ count number limit
  | statusRetried status number limit =>
    "Request failed with " ++ status ++ " " ++ count number limit ++ ", retrying..."
  | faultRetried fault number limit =>
    "Request failed with error " ++ count number limit ++ ": " ++ fault ++ ", retrying..."
  | retryDelayed delay => "Waiting " ++ delay.text ++ " before retry"
  | querySent query token maxRows =>
    "GetQueryResults for " ++ query ++ " " ++ request token maxRows
  | queryAnswered query rows more =>
    "GetQueryResults for " ++ query ++ " returned " ++ toString rows ++ " rows (more=" ++
      toString more ++ ")"
  | objectNotOpened url cause => "Failed to open object " ++ url ++ ": " ++ cause.message
  | objectDownloaded bytes url elapsed =>
    "Downloaded " ++ toString bytes ++ " bytes from " ++ url ++ " in " ++ elapsed.hundredths
  | downloadCancelled url => "Download of " ++ url ++ " cancelled"
  | downloadFailed url cause => "Download of " ++ url ++ " failed: " ++ cause.message

end Event

end ResultFlow.Log
