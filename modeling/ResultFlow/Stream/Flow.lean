import ResultFlow.Log.Event
import ResultFlow.Number.Binary
import ResultFlow.Number.Shortest
import ResultFlow.Settings

/-!
# Flow control

Demand for the chunks of a stream. The controller counts the chunks asked for and not yet delivered
and the bytes delivered and not yet consumed, and keeps a running mean of the chunk size. After each
arrival and each consumption it may ask for another batch: while the bytes buffered and the bytes
expected stay below the target, or when nothing is buffered and nothing is on its way. An object
that is known to fit the buffer is asked for as a whole.
-/

namespace ResultFlow

/-- The counters of a stream. -/
structure Flow where
  settings : StreamSettings
  /-- Chunks asked for and not yet delivered. -/
  outstanding : Int := 0
  /-- Bytes delivered and not yet consumed. -/
  buffered : Int := 0
  /-- The running mean of the chunk size. -/
  mean : Float32
  /-- Whether the whole object was asked for. -/
  unbounded : Bool := false

namespace Flow

/-- The demand that stands for all chunks. -/
def allChunks : Nat := 0xFFFFFFFFFFFFFFFF

/-- The count of outstanding chunks once all are asked for. -/
def allOutstanding : Int := 0x7FFFFFFF

/-- The counters before a producer is there. -/
def start (settings : StreamSettings) : Flow := { settings, mean := settings.initialMean }

/-- Whether an object of a declared length fits the buffer. -/
def fitsWhole (f : Flow) : Option Nat → Bool
  | none => false
  | some length => length < f.settings.targetBuffer

/-- The first demand, for an object of a declared length. -/
def subscribe (f : Flow) (length : Option Nat) : Nat × Flow :=
  if f.fitsWhole length then
    (allChunks, { f with unbounded := true, outstanding := allOutstanding })
  else (f.settings.batch, { f with outstanding := f.settings.batch })

/-- The event that reports the first demand. -/
def subscribed (f : Flow) (length : Option Nat) : Log.Event :=
  if f.fitsWhole length then .wholeObjectRequested (length.getD 0)
  else .firstBatchRequested length f.settings.batch

/-- Whether the buffer has reached its target, as doubles compare. -/
def atTarget (f : Flow) : Bool :=
  decide ((Binary.wholeDouble f.settings.targetBuffer : Int) ≤ Binary.integerDouble f.buffered)

/-- Whether the bytes expected from `requested` chunks fit beside those buffered. -/
def fits (f : Flow) (requested : Int) : Bool :=
  Binary.toDouble requested * f.mean.toFloat + Binary.toDouble f.buffered <
    Binary.toDouble f.settings.targetBuffer

/-- Whether nothing is buffered and nothing is on its way. -/
def idle (f : Flow) : Bool := f.outstanding ≤ 0 && f.buffered ≤ 0

/-- Whether another batch is asked for. -/
def wantsMore (f : Flow) : Bool :=
  let requested := f.outstanding + f.settings.batch
  !f.unbounded && !f.atTarget && decide (requested < f.settings.maxOutstanding) &&
    (f.fits requested || f.idle)

/-- Asks for another batch if it is wanted. -/
def grant (f : Flow) : Option Nat × Flow :=
  if f.wantsMore then
    (some f.settings.batch, { f with outstanding := f.outstanding + f.settings.batch })
  else (none, f)

/-- The events that report a demand after the first. -/
def granted (f : Flow) (demand : Option Nat) : List Log.Event :=
  match demand with
  | none => []
  | some n => [.batchRequested n f.outstanding f.buffered]

/-- The mean after a chunk. An empty chunk leaves it as it is. -/
def meanAfter (f : Flow) (size : Nat) : Float32 :=
  if size = 0 then f.mean
  else f.settings.weight * Binary.toSingle size + (1 - f.settings.weight) * f.mean

/-- The counters after a chunk was delivered. -/
def arrive (f : Flow) (size : Nat) : Flow :=
  { f with
    mean := f.meanAfter size
    outstanding := if f.unbounded then f.outstanding else f.outstanding - 1
    buffered := f.buffered + size }

/-- Accounts for a chunk that was delivered, and gives the demand that follows. -/
def chunk (f : Flow) (size : Nat) : Option Nat × Flow := (f.arrive size).grant

/-- The counters after bytes were handed to the reader. -/
def leave (f : Flow) (size : Nat) : Flow := { f with buffered := f.buffered - size }

/-- Accounts for bytes handed to the reader, and gives the demand that follows. -/
def consumed (f : Flow) (size : Nat) : Option Nat × Flow := (f.leave size).grant

/-- What a report says of the counters. -/
def text (f : Flow) : String :=
  "FlowSnapshot \x7b outstanding_requests: " ++ toString f.outstanding ++ ", buffered_bytes: " ++
    toString f.buffered ++ ", mean_chunk_size: " ++ Shortest.singleText f.mean ++ " \x7d"

end Flow

end ResultFlow
