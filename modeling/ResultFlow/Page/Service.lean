import ResultFlow.Log.Event
import ResultFlow.Page

/-!
# Page services

A service answers page requests. It has a state of its own, so its answers may depend on everything
that it was asked before, and it may fail, break down or never answer. The services given by a
script answer in a fixed order.
-/

namespace ResultFlow

/-- How a call of a service ends. -/
inductive CallOutcome
  | page (page : Page)
  | failure (cause : Error)
  /-- The service broke down, with a message or without. -/
  | breakdown (message : Option String)
  /-- The call does not end. -/
  | silence
  deriving DecidableEq, Inhabited

/-- What a service makes of a request. -/
structure Answer (σ : Type) where
  outcome : CallOutcome
  /-- Whether the reader is told to stop waiting while the service works. -/
  interrupts : Bool := false
  events : List Log.Event := []
  next : σ

/-- A service with states `σ`. -/
structure Service (σ : Type) where
  answer : PageRequest → σ → Answer σ

namespace Service

/-- One entry of a script: an outcome, and whether the reader is interrupted. -/
structure Reply where
  outcome : CallOutcome
  interrupts : Bool := false
  deriving DecidableEq, Inhabited

/-- The service that gives the replies of a script in order and then fails. -/
def script : Service (List Reply) where
  answer _ replies :=
    match replies with
    | [] => { outcome := .failure (.service "no more replies"), next := [] }
    | r :: rest => { outcome := r.outcome, interrupts := r.interrupts, next := rest }

end Service

end ResultFlow
