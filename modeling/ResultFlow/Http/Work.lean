import ResultFlow.Log.Event

/-!
# Work

A piece of work for a request: it has a state, it reports and waits on the way, and it comes to a
value, to a failure, or to a panic. A failure is for the caller to see. A panic is an operation on
numbers whose result does not fit, and ends the task in which the work is done.
-/

namespace ResultFlow.Http

/-- An operation whose result does not fit. -/
inductive Panic
  | addition
  | multiplication
  deriving DecidableEq

/-- The words of a panic. -/
def Panic.message : Panic → String
  | addition => "attempt to add with overflow"
  | multiplication => "overflow when multiplying duration by scalar"

/-- What a piece of work comes to. -/
inductive Outcome (α : Type)
  | ok (value : α)
  | error (cause : Error)
  | panic (cause : Panic)
  deriving DecidableEq

namespace Outcome

variable {α : Type}

/-- The outcome of work that does not panic. -/
def ofExcept : Except Error α → Outcome α
  | .ok a => ok a
  | .error e => error e

/-- The outcome with its failure seen in another way. -/
def mapError (f : Error → Error) : Outcome α → Outcome α
  | error e => error (f e)
  | outcome => outcome

end Outcome

/-- What is done on the way. -/
inductive Act
  | report (event : Log.Event)
  | wait (delay : Duration)
  deriving DecidableEq

namespace Act

def event? : Act → Option Log.Event
  | report event => some event
  | wait _ => none

def delay? : Act → Option Duration
  | report _ => none
  | wait delay => some delay

end Act

/-- Work that is done: its outcome, the state after it, and what was done on the way. -/
structure Done (τ α : Type) where
  outcome : Outcome α
  state : τ
  trace : List Act := []

namespace Done

variable {τ α : Type}

/-- The reports, in order. -/
def events (d : Done τ α) : List Log.Event := d.trace.filterMap Act.event?

/-- The pauses, in order. -/
def pauses (d : Done τ α) : List Duration := d.trace.filterMap Act.delay?

/-- The work with what was done before. -/
def after (d : Done τ α) (trace : List Act) : Done τ α := { d with trace := trace ++ d.trace }

end Done

/-- A piece of work, from any state. -/
structure Work (τ α : Type) where
  run : τ → Done τ α

namespace Work

variable {τ α β : Type}

/-- Work and then more, unless it fails or panics. -/
def bind (w : Work τ α) (next : α → Work τ β) : Work τ β where
  run s :=
    let d := w.run s
    match d.outcome with
    | .ok a => ((next a).run d.state).after d.trace
    | .error e => ⟨.error e, d.state, d.trace⟩
    | .panic p => ⟨.panic p, d.state, d.trace⟩

/-- Work that is over, with an outcome. -/
def finish (outcome : Outcome α) : Work τ α := ⟨fun s => ⟨outcome, s, []⟩⟩

instance : Monad (Work τ) where
  pure a := finish (.ok a)
  bind := bind

def fail (e : Error) : Work τ α := finish (.error e)

def ofExcept (x : Except Error α) : Work τ α := finish (.ofExcept x)

/-- The result of an operation, which panics if there is none. -/
def checked (p : Panic) : Option α → Work τ α
  | some a => finish (.ok a)
  | none => finish (.panic p)

/-- A step of the state. -/
def step (f : τ → α × τ) : Work τ α := ⟨fun s => ⟨.ok (f s).1, (f s).2, []⟩⟩

def act (a : Act) : Work τ Unit := ⟨fun s => ⟨.ok (), s, [a]⟩⟩

def report (event : Log.Event) : Work τ Unit := act (.report event)

def wait (delay : Duration) : Work τ Unit := act (.wait delay)

/-- The work with its failure seen in another way. -/
def mapError (f : Error → Error) (w : Work τ α) : Work τ α where
  run s := { w.run s with outcome := (w.run s).outcome.mapError f }

end Work

end ResultFlow.Http
