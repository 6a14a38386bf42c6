import ResultFlow.Stream.Bridge

/-!
# Readers

A stream that is being opened becomes a reader once the store answered. The reader hands out the
bytes of one chunk after the other. A failure goes before data and before the end. A reading that
finds nothing waits, and whenever it wakes it looks for a failure, then for an interruption, and then
into the queue: it may end interrupted although a chunk came meanwhile. The chunk is not lost.
-/

namespace ResultFlow

/-- The bytes of a stream, for one caller. -/
structure Reader where
  info : ObjectInfo
  /-- Whether a reading that waits ends when the caller is interrupted. -/
  watching : Bool := false
  /-- The rest of the chunk that is being read. -/
  head : Bytes := []
  /-- Whether the end was reached. -/
  finished : Bool := false
  closed : Bool := false

/-- The outcome of one reading. -/
inductive Reading
  /-- Bytes; none at the end of the stream. -/
  | bytes (bytes : Bytes)
  | failed (cause : Error)
  /-- Nothing can be read yet. -/
  | blocked
  deriving DecidableEq

namespace Reader

/-- Hands out at most `n` bytes of the chunk that is being read. -/
def split (r : Reader) (n : Nat) : Reading × Reader :=
  (.bytes (r.head.take n), { r with head := r.head.drop n })

/-- The end of the stream is reached. -/
def reachEnd (r : Reader) (b : Bridge) : Reader × Bridge :=
  ({ r with finished := true }, b.log .endReached)

/-- Reads from the next item of the queue. -/
def readNext (r : Reader) (b : Bridge) (n : Nat) : Reading × Reader × Bridge :=
  match b.take with
  | (none, b) => (.blocked, r, b)
  | (some (.chunk c), b) =>
    let (x, r) := { r with head := c.val }.split n
    (x, r, b.consume c.val.length)
  | (some .finish, b) => (.bytes [], r.reachEnd b)

/-- Begins to read at most `n` bytes. The reading that is blocked waits from now on. -/
def tryRead (r : Reader) (b : Bridge) (n : Nat) : Reading × Reader × Bridge :=
  if r.closed then (.bytes [], r, b)
  else match b.streamFailure with
    | some e => (.failed e, r, b)
    | none =>
      if n = 0 then (.bytes [], r, b)
      else if r.head ≠ [] then
        let (x, r) := r.split n
        (x, r, b)
      else if r.finished then (.bytes [], r, b)
      else r.readNext b n

/-- Begins to read a single byte; at the end of the stream there is none. -/
def readByte (r : Reader) (b : Bridge) : Reading × Reader × Bridge := r.tryRead b 1

/-- Wakes a reading of at most `n` bytes that waits. -/
def wake (r : Reader) (b : Bridge) (n : Nat) (interrupted : Bool) : Reading × Reader × Bridge :=
  match b.streamFailure with
  | some e => (.failed e, r, b)
  | none =>
    if r.watching && interrupted then (.failed .streamInterrupted, r, b)
    else r.readNext b n

/-- Reads at most `n` bytes, and looks once more if there is nothing to read. -/
def read (r : Reader) (b : Bridge) (n : Nat) (interrupted : Bool) : Reading × Reader × Bridge :=
  match r.tryRead b n with
  | (.blocked, r, b) => r.wake b n interrupted
  | x => x

/-- The number of bytes that the next reading hands out for certain. -/
def available (r : Reader) (b : Bridge) : Except Error Nat :=
  match b.streamFailure with
  | some e => .error e
  | none => .ok (if r.closed then 0 else r.head.length)

/-- Ends the reading. Before the end of the stream this discards the chunks that wait and cancels
the subscription. -/
def close (r : Reader) (b : Bridge) : Reader × Bridge :=
  if r.closed then (r, b)
  else
    let closed := { r with closed := true, head := [], finished := true }
    if b.complete || r.finished then (closed, b)
    else
      let (discarded, queue) := b.queue.drain
      (closed, ({ b with queue }.log (.streamClosed discarded)).release)

/-- What a report says of a reader. -/
def text (r : Reader) (b : Bridge) : String :=
  "BridgeReader \x7b bridge: " ++ b.text ++ ", head_remaining: " ++ toString r.head.length ++
    ", finished: " ++ toString r.finished ++ ", closed: " ++ toString r.closed ++ " \x7d"

end Reader

/-- A stream that is being opened. -/
structure Prepared where
  /-- Whether it was found to have opened or failed. -/
  resolved : Bool := false
  deriving DecidableEq, Inhabited

namespace Prepared

/-- Asks for the reader; `none` while it is open how the stream opens. What is found is handed out
once. -/
def poll (p : Prepared) (b : Bridge) (watching : Bool) : Option (Except Error Reader) × Prepared :=
  if p.resolved then (some (.error .streamClosed), p)
  else match b.opening with
    | none => (none, p)
    | some outcome => (some (outcome.map fun info => { info, watching }), ⟨true⟩)

/-- Gives up the stream. If its reader was not asked for, the subscription is cancelled. -/
def drop (p : Prepared) (b : Bridge) : Bridge :=
  if p.resolved then b else (b.log .openingDropped).release

/-- What a report says of a stream that is being opened. -/
def text (p : Prepared) (b : Bridge) : String :=
  "PreparedStream \x7b bridge: " ++ b.text ++ ", resolved: " ++ toString p.resolved ++ " \x7d"

end Prepared

end ResultFlow
