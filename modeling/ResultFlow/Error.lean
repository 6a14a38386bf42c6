import ResultFlow.Duration

/-!
# Failures

Every way in which reading a result or a stream can fail. Each failure keeps its cause, and its
wording is in one place, `Error.message`. The named failures after it are the ones that several
parts of the library raise.
-/

namespace ResultFlow

/-- What went wrong. -/
inductive Error
  /-- A remote call did not end within its limit. -/
  | timeout (operation : String) (limit : Duration)
  /-- A page request failed because of `cause`; `context` is the failure that was seen around it. -/
  | queryFailed (cause : Error) (context : Option String)
  /-- The producer of an object stream failed; the stream is over. -/
  | stream (cause : Error)
  | closed (what : String)
  | outOfPosition (reason : String)
  | invalidColumn (reason : String)
  | configuration (reason : String)
  | notSupported (reason : String)
  /-- A cell that is not the text of a `target`. -/
  | conversion (value target : String)
  | interrupted (activity : String)
  /-- An answer with a status other than success, and its body. -/
  | http (status : Nat) (body : String)
  /-- A failure of the transport or of its protocol. -/
  | service (reason : String)
  /-- A failure that a collaborator reports in its own words. -/
  | foreign (text : String)
  deriving DecidableEq, Inhabited

namespace Error

/-- The text of a failure. -/
def message : Error → String
  | timeout operation limit => "Timed out after " ++ limit.text ++ " waiting for " ++ operation
  | queryFailed cause _ => "Query failed: " ++ cause.message
  | stream cause => "Stream error: " ++ cause.message
  | closed what => what ++ " is closed"
  | outOfPosition reason => reason
  | invalidColumn reason => reason
  | configuration reason => "Invalid configuration: " ++ reason
  | notSupported reason => reason
  | conversion value target => "Cannot convert \"" ++ value ++ "\" to " ++ target
  | interrupted activity => "Interrupted while " ++ activity
  | http status body => "HTTP " ++ toString status ++ " - " ++ body
  | service reason => "Service error: " ++ reason
  | foreign text => text

def isTimeout : Error → Bool
  | timeout .. => true
  | _ => false

def isInterrupted : Error → Bool
  | interrupted .. => true
  | _ => false

/-- The failure that was seen around the cause of a failed query. -/
def context? : Error → Option String
  | queryFailed _ context => context
  | _ => none

/-! ## Columns and rows -/

/-- Columns are counted from 1. -/
def columnZero : Error := invalidColumn "Invalid column index 0"

def columnBeyond (index count : Nat) : Error :=
  invalidColumn ("Column index out of bounds (" ++ toString index ++ " > " ++ toString count ++ ")")

def cellMissing (index cells : Nat) : Error :=
  invalidColumn ("Column index " ++ toString index ++ " not in current row of " ++ toString cells ++
    " cells")

def labelUnknown (label : String) : Error :=
  invalidColumn ("Result set does not contain any column with label \"" ++ label ++ "\"")

def noCurrentRow : Error := outOfPosition "No current row"

def beforeFirstRow : Error :=
  outOfPosition "Cannot read from a result set positioned before the first row"

def afterLastRow : Error :=
  outOfPosition "Cannot read from a result set positioned after the last row"

def notForward : Error := outOfPosition "Only forward relative movement is supported"

def forwardOnly : Error :=
  notSupported "Result set movements other than forward are not supported"

/-! ## Settings -/

def fetchSizeTooLarge (got max : Int) : Error :=
  configuration ("Fetch size too large (got " ++ toString got ++ ", max is " ++ toString max ++ ")")

def fetchSizeNotPositive (got : Int) : Error :=
  configuration ("Fetch size must be positive (got " ++ toString got ++ ")")

def invalidOption (key value : String) : Error :=
  configuration ("Invalid value '" ++ value ++ "' for option '" ++ key ++ "'")

def unknownOption (key : String) : Error := configuration ("Unknown option '" ++ key ++ "'")

def emptyToken : Error := configuration "bearer token is empty"

/-! ## Pages and streams -/

/-- The failure of a page request, around its cause. -/
def pageFailed (query : String) (cause : Error) : Error :=
  queryFailed cause (some (service ("Page request for query " ++ query ++ " failed")).message)

def pageTimedOut (query : String) (limit : Duration) : Error :=
  timeout ("a page of query " ++ query) limit

def pageInterrupted (query : String) : Error :=
  interrupted ("waiting for a page of query " ++ query)

def metadataUnavailable : Error := service "Result metadata unavailable"

def cursorClosed : Error := closed "Result cursor"

def resultSetClosed : Error := closed "Result set"

def streamClosed : Error := closed "stream"

def streamInterrupted : Error := interrupted "waiting for stream data"

end Error

/-- How a failed blocking read is classified for callers that know only files: a time-out is told
apart, and an interruption is not, so that such callers do not repeat the read for ever. -/
inductive ReadErrorKind
  | timedOut
  | other
  | unexpectedEnd
  deriving DecidableEq

/-- The failure of a blocking read. -/
inductive ReadError
  | failed (cause : Error)
  /-- The stream ended before the bytes that were asked for. -/
  | endOfStream
  deriving DecidableEq

namespace ReadError

def kind : ReadError → ReadErrorKind
  | failed cause => if cause.isTimeout then .timedOut else .other
  | endOfStream => .unexpectedEnd

def message : ReadError → String
  | failed cause => cause.message
  | endOfStream => "failed to fill whole buffer"

end ReadError

end ResultFlow
