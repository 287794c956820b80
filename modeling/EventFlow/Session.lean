import EventFlow.Endpoint
import EventFlow.Message
import EventFlow.Session.Error
import EventFlow.Signal.Wait

/-!
# Sessions

What a worker asks of a backend, and everything that answers it.

A worker meets the world outside in three ways: it connects, it makes calls on the session that a
connect gave it, and it waits. `Outside` says for each of them what comes back and what others do
meanwhile, so a worker's run is a function of it. It has a state of its own, and picks endpoints
from the worker's rotation when it needs one.

## Main definitions

* `Call`, `Call.Answer`: what a session can be asked, and what answers it.
* `Reply`: an answer, and what happened before it came.
* `Outside`: everything that answers a worker.
-/

namespace EventFlow

/-- The flow and the worker that a session is for. -/
structure Identity where
  flowId : String
  workerId : String
  deriving DecidableEq, Repr, Inhabited

/-- What a session can be asked. -/
inductive Call where
  /-- Claim the next unit of work, and do not take longer than the budget. -/
  | claim (budget : Option Span)
  /-- Fetch an event of the flow. -/
  | fetch (eventId : EventId)
  /-- Settle a claimed unit of work. -/
  | acknowledge (ackId : String) (acknowledgment : Acknowledgment)
  /-- Reserve the identifier of a new event. -/
  | reserve
  /-- Store an event under a reserved identifier. -/
  | submit (eventId : EventId) (message : Message)
  deriving DecidableEq, Repr, Inhabited

/-- What answers a call. -/
abbrev Call.Answer : Call → Type
  | .claim _ => Reference
  | .fetch _ => Message
  | .acknowledge _ _ => Unit
  | .reserve => EventId
  | .submit _ _ => Unit

/-- An answer, and what happened before it came. -/
structure Reply (α : Type) where
  result : Except SessionError α
  /-- What others did meanwhile, and the time that passed. -/
  during : List Happening

/-- A session is known by the number of the successful connect that gave it, the first one being
    one. -/
abbrev SessionId := Nat

/-- Everything that answers a worker, with a state of its own. -/
structure Outside (σ : Type) where
  /-- A connect. -/
  connect : σ → Endpoints → Reply Unit × Endpoints × σ
  /-- A call on a session. -/
  answer : SessionId → (call : Call) → σ → Endpoints → Reply call.Answer × Endpoints × σ
  /-- What others do during a wait that begins and ends at these moments. -/
  wait : Moment → Moment → σ → List Happening × σ

end EventFlow
