/-!
# Chunk queues

A queue hands chunks from a producer to one receiver, first in, first out, and after them an end
marker. It never refuses a chunk for its size; empty chunks and chunks after the end are dropped.
The receiver may close the queue, and the producer may go away: then an empty queue reads as ended.
-/

namespace ResultFlow

/-- Bytes, in order. -/
abbrev Bytes := List UInt8

/-- A piece of a stream, of at least one byte. -/
abbrev Chunk := { bytes : Bytes // bytes ≠ [] }

/-- What a receiver takes from a queue. -/
inductive Item
  | chunk (chunk : Chunk)
  | finish
  deriving DecidableEq

namespace Item

/-- The bytes of an item. -/
def bytes : Item → Bytes
  | chunk c => c.val
  | finish => []

end Item

/-- The items that were put in and not yet taken. -/
structure Queue where
  items : List Item := []
  /-- Whether the end was offered. -/
  finished : Bool := false
  /-- Whether the producer went away. -/
  abandoned : Bool := false
  /-- Whether the receiver refuses further items. -/
  closed : Bool := false

namespace Queue

/-- The number of bytes in the queue. -/
def size (q : Queue) : Nat := (q.items.flatMap (·.bytes)).length

/-- Puts a chunk at the end, and says whether it was accepted. -/
def push (q : Queue) (bytes : Bytes) : Bool × Queue :=
  if h : bytes ≠ [] ∧ q.finished = false ∧ q.closed = false then
    (true, { q with items := q.items ++ [.chunk ⟨bytes, h.1⟩] })
  else (false, q)

/-- Offers the end, and says whether it is offered for the first time. -/
def finish (q : Queue) : Bool × Queue :=
  if q.finished then (false, q)
  else (true, { q with
    finished := true
    items := if q.closed then q.items else q.items ++ [.finish] })

/-- Takes the first item; `none` when there is nothing to take yet. -/
def take (q : Queue) : Option Item × Queue :=
  match q.items with
  | i :: rest => (some i, { q with items := rest })
  | [] => (if q.abandoned || q.closed then some .finish else none, q)

/-- Refuses further items and discards those in the queue; gives the number of bytes discarded. -/
def drain (q : Queue) : Nat × Queue := (q.size, { q with items := [], closed := true })

/-- The producer goes away. -/
def abandon (q : Queue) : Queue := { q with abandoned := true }

end Queue

end ResultFlow
