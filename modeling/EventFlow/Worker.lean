import EventFlow.Session
import EventFlow.Worker.Error

/-!
# Workers

A worker, and its calls on the session it holds.

A worker keeps one session and shares it between all operations. When a call reports that the
session is lost, the session is dropped, unless another one has taken its place meanwhile, and the
next call connects anew. Any other error leaves the session alone.

A run of a worker is a `World`: the worker, the clock and the signals, the state of everything
outside, and the trace of what was done, the latest first.

## Main definitions

* `Worker`: a worker.
* `Event`, `World`: a run.
* `World.lookUp`: the session of the worker, by connecting if there is none.
* `World.call`: a call on the session of the worker.
-/

namespace EventFlow

/-- A worker. -/
structure Worker where
  config : Config
  /-- The rotation of the endpoints. -/
  endpoints : Endpoints
  /-- The signal that is cancelled when the worker is shut down. -/
  shutdown : SignalId
  /-- The session in use. -/
  slot : Option SessionId
  /-- The number of successful connects. -/
  connects : Nat
  /-- The number of successful claims. It is counted in 64 bits; no run makes as many claims as
      they have room for, at a claim a nanosecond not in five hundred years. -/
  intake : Nat
  /-- The number of successful claims and of those that may still succeed, where it is limited. The
      limit has 64 bits, and this is never above it: a claim begins by taking a place, and it takes
      none when as many are taken. -/
  reserved : Nat
  deriving DecidableEq

namespace Worker

/-- The flow and the worker that the sessions are for. -/
def identity (worker : Worker) : Identity :=
  ⟨worker.config.flowId, worker.config.workerId⟩

/-- The worker with the session of one more successful connect. -/
def connected (worker : Worker) : Worker :=
  { worker with slot := some (worker.connects + 1), connects := worker.connects + 1 }

/-- The worker without a session that was lost; one that has taken its place stays. -/
def dropSession (worker : Worker) (lost : SessionId) : Worker :=
  if worker.slot = some lost then { worker with slot := none } else worker

/-- How a worker is shown. -/
def describe (worker : Worker) : String :=
  "Worker \x7b identity: Identity \x7b flow_id: " ++ Text.quoted worker.config.flowId ++
    ", worker_id: " ++ Text.quoted worker.config.workerId ++ " \x7d, endpoints: " ++
    toString worker.endpoints.size ++ ", intake: " ++ toString worker.intake ++ ", .. \x7d"

end Worker

/-- Something that a worker did. -/
inductive Event where
  /-- It connected. -/
  | connect (began : Moment) (result : Except SessionError Unit)
  /-- It made a call on a session. -/
  | call (began : Moment) (session : SessionId) (call : Call)
    (result : Except SessionError call.Answer)
  /-- It began to count the attempts of an operation. -/
  | start (operation : Operation)
  /-- It asked how long to wait before the next attempt. -/
  | interval (interval : Option Span)

/-- A run of a worker. -/
structure World (σ : Type) where
  worker : Worker
  /-- The clock and the signals. -/
  scene : Scene
  /-- The state of everything outside. -/
  outside : σ
  /-- What the worker did, latest first. -/
  trace : List Event

namespace World

variable {σ : Type}

/-- Adds to the trace. -/
def record (w : World σ) (event : Event) : World σ :=
  { w with trace := event :: w.trace }

/-- Lets happenings take place. -/
def pass (w : World σ) (happenings : List Happening) : World σ :=
  { w with scene := w.scene.pass happenings }

/-- Connects, and keeps the session. -/
def connect (b : Outside σ) (w : World σ) : Except SessionError SessionId × World σ :=
  let (reply, endpoints, outside) := b.connect w.outside w.worker.endpoints
  let after : World σ :=
    { w with outside, worker := { w.worker with endpoints } }
  let after := (after.record (.connect w.scene.now reply.result)).pass reply.during
  match reply.result with
  | .error e => (.error e, after)
  | .ok () =>
    (.ok (w.worker.connects + 1), { after with worker := after.worker.connected })

/-- The session of the worker, by connecting if there is none. -/
def lookUp (b : Outside σ) (w : World σ) : Except SessionError SessionId × World σ :=
  match w.worker.slot with
  | some session => (.ok session, w)
  | none => w.connect b

/-- Makes a call on a session. -/
def ask (b : Outside σ) (session : SessionId) (call : Call) (w : World σ) :
    Except SessionError call.Answer × World σ :=
  let (reply, endpoints, outside) := b.answer session call w.outside w.worker.endpoints
  let after : World σ :=
    { w with outside, worker := { w.worker with endpoints } }
  (reply.result, (after.record (.call w.scene.now session call reply.result)).pass reply.during)

/-- Drops a session if the result of a call on it says that it is lost. -/
def settle {α : Type} (session : SessionId) (result : Except SessionError α) (w : World σ) :
    World σ :=
  match result with
  | .ok _ => w
  | .error e =>
    if e.isConnectionLost then { w with worker := w.worker.dropSession session } else w

/-- Makes a call on the session of the worker. -/
def call (b : Outside σ) (call : Call) (w : World σ) :
    Except SessionError call.Answer × World σ :=
  match w.lookUp b with
  | (.error e, w) => (.error e, w)
  | (.ok session, w) =>
    let (result, w) := w.ask b session call
    (result, w.settle session result)

end World

end EventFlow
