import EventFlow.Config
import EventFlow.Message.Codec
import EventFlow.Session

/-!
# Sessions over HTTP

How the calls of a session become requests, and answers to them become results.

| call        | request                                             |
|-------------|-----------------------------------------------------|
| claim       | `GET workers/⟨worker⟩/work`, 204 and 404: no work   |
| fetch       | `GET flow/⟨flow⟩/events/⟨event⟩`                    |
| acknowledge | `PUT workers/⟨worker⟩/ack/⟨ack⟩`                    |
| reserve     | `POST flow/⟨flow⟩/events`, answered by the event id |
| submit      | `PUT flow/⟨flow⟩/events/⟨event⟩`                    |

Every request goes to the endpoint whose turn it is, and is limited by the time limit for requests;
a claim also by what is left of its budget, rounded up to whole milliseconds, since a transport that
cuts the rest off would give up just before the budget does. HTTP needs no handshake, so connecting
always succeeds and takes no time.

A body that cannot be written is an error before any endpoint is picked. A user agent with a NUL
and a limit of more than 63 bits are errors of the transport before anything is sent.

## Main definitions

* `Http.Request`, `Http.Response`: what is sent and what answers it.
* `Http.checkStatus`: what a status means.
* `Http.Transport`: what carries requests.
* `Http.outside`: the outside of a worker over a transport.
-/

namespace EventFlow

namespace Http

/-- The method of a request. -/
inductive Method where
  | get
  | post
  | put
  deriving DecidableEq, Repr, Inhabited

/-- The word for a method. -/
def Method.text : Method → String
  | .get => "GET"
  | .post => "POST"
  | .put => "PUT"

/-- A request. -/
structure Request where
  method : Method
  url : Url
  userAgent : String
  /-- The body; only requests that get something have none. -/
  body : Option Bytes
  /-- The time limit in milliseconds. -/
  timeoutMillis : Nat
  deriving DecidableEq

/-- The headers of a request, by name. -/
def Request.headers (r : Request) : List (String × String) :=
  [("accept", "application/json")] ++
    (match r.body with
      | some body => [("content-length", toString body.length)]
      | none => []) ++
    [("content-type", "application/json"), ("user-agent", r.userAgent)]

/-- An answer to a request. -/
structure Response where
  status : Nat
  body : Bytes
  deriving DecidableEq, Repr, Inhabited

/-- What came of a request, and what happened before that. -/
structure Exchange where
  result : Except TransferFailure Response
  during : List Happening

/-- What carries requests. -/
structure Transport (τ : Type) where
  exchange : Request → τ → Exchange × τ
  /-- What others do during a wait. -/
  wait : Moment → Moment → τ → List Happening × τ

/-- A transport that reaches nobody. -/
def Transport.unreachable : Transport Unit where
  exchange := fun _ _ => (⟨.error .unreachable, []⟩, ())
  wait := fun _ _ _ => ([], ())

/-- A client of a backend. -/
structure Client where
  identity : Identity
  /-- The time limit for requests. -/
  timeout : Span
  userAgent : String
  deriving DecidableEq

/-- The client that a configuration describes. -/
def Client.ofConfig (config : Config) : Client :=
  ⟨⟨config.flowId, config.workerId⟩, config.httpTimeout, config.userAgent⟩

/-- Whether a status says that all went well. -/
def isSuccess (status : Nat) : Bool := 200 ≤ status && status ≤ 299

/-- What a status means: nothing for success, and otherwise an error. -/
def checkStatus (method : Method) (url : Url) (status : Nat) : Option SessionError :=
  if status = 204 then some .noContent
  else if status = 404 then some .notFound
  else if status = 500 then some .internalServerError
  else if isSuccess status then none
  else some (.status method.text url.text status)

/-- The longest time limit that a transport takes, in milliseconds. -/
def maxTimeoutMillis : Nat := 0x7fff_ffff_ffff_ffff

/-- The time limit of a request in nanoseconds: that for all requests, and the budget in whole
    milliseconds if there is one and it is less, but at least a millisecond. -/
def limitNanos (limit : Span) (budget : Option Span) : Nat :=
  let nanos := match budget with
    -- Whole milliseconds are rounded up, or the request would end just before the budget does.
    | some budget => min (min budget.ceilMillis 0xffff_ffff_ffff_ffff * 1_000_000) limit.nanos
    | none => limit.nanos
  max nanos 1_000_000

/-- Why a request cannot even be sent, if it cannot. -/
def refusal (r : Request) : Option TransferFailure :=
  if maxTimeoutMillis < r.timeoutMillis then some .badParameter
  else if r.userAgent.toList.contains '\x00' then some .badText
  else none

/-- What is to be sent: a method, segments below the endpoint, and a body. -/
structure Task where
  method : Method
  segments : List String
  body : Option Bytes
  budget : Option Span
  deriving DecidableEq, Repr

/-- What a call asks to be sent; an error if its body cannot be written. -/
def Client.task (c : Client) : Call → Except SessionError Task
  | .claim budget => .ok ⟨.get, ["workers", c.identity.workerId, "work"], none, budget⟩
  | .fetch eventId => .ok ⟨.get, ["flow", c.identity.flowId, "events", eventId], none, none⟩
  | .acknowledge ackId acknowledgment =>
    match acknowledgment.body? with
    | some body => .ok ⟨.put, ["workers", c.identity.workerId, "ack", ackId], some body, none⟩
    | none => .error .nonUtf8Content
  | .reserve => .ok ⟨.post, ["flow", c.identity.flowId, "events"], some [], none⟩
  | .submit eventId message =>
    match message.body? with
    | some body => .ok ⟨.put, ["flow", c.identity.flowId, "events", eventId], some body, none⟩
    | none => .error .nonUtf8Content

/-- The request that sends something to a URL. -/
def Client.request (c : Client) (url : Url) (task : Task) : Request where
  method := task.method
  url := url
  userAgent := c.userAgent
  body := task.body
  timeoutMillis := limitNanos c.timeout task.budget / 1_000_000

/-- The body of an answer to a request, unless its status is an error. -/
def bodyOf (r : Request) (response : Response) : Except SessionError Bytes :=
  match checkStatus r.method r.url response.status with
  | some e => .error e
  | none => .ok response.body

/-- A result that must be there. -/
def decoded {α : Type} (what : String) : Option α → Except SessionError α
  | some a => .ok a
  | none => .error (.decode ("not " ++ what))

/-- What the body of an answer, or the error in its place, means to a call. -/
def interpret : (call : Call) → Except SessionError Bytes → Except SessionError call.Answer
  | .claim _, .ok body => decoded "a reference" (Reference.ofBody? body)
  -- An empty queue is not a failure of the exchange, but it is one of the claim.
  | .claim _, .error .noContent => .error .noWork
  | .claim _, .error .notFound => .error .noWork
  | .claim _, .error e => .error e
  | .fetch _, .ok body => decoded "a message" (Message.ofBody? body)
  | .fetch _, .error e => .error e
  | .acknowledge _ _, .ok _ => .ok ()
  | .acknowledge _ _, .error e => .error e
  | .reserve, .ok body =>
    match EventId.ofBody? body with
    | some id => .ok id
    | none => .error .emptyEventId
  | .reserve, .error e => .error e
  | .submit _ _, .ok _ => .ok ()
  | .submit _ _, .error e => .error e

/-- A request that was sent, and what came of it. -/
structure Sent where
  request : Request
  result : Except TransferFailure Response

/-- The state of everything outside a worker over a transport. -/
structure State (τ : Type) where
  transport : τ
  /-- What was sent, latest first. -/
  sent : List Sent

variable {τ : Type}

/-- Sends a request, if it can be sent. -/
def send (t : Transport τ) (r : Request) (s : State τ) : Exchange × State τ :=
  match refusal r with
  | some failure => (⟨.error failure, []⟩, s)
  | none =>
    let (exchange, transport) := t.exchange r s.transport
    (exchange, ⟨transport, ⟨r, exchange.result⟩ :: s.sent⟩)

/-- The body, or the error in its place, that came of a request. -/
def Exchange.body (r : Request) (exchange : Exchange) : Except SessionError Bytes :=
  match exchange.result with
  | .error failure => .error (.transport failure)
  | .ok response => bodyOf r response

/-- Makes a call. -/
def Client.call (c : Client) (t : Transport τ) (call : Call) (s : State τ) (e : Endpoints) :
    Reply call.Answer × Endpoints × State τ :=
  match c.task call with
  -- What cannot be written takes no turn in the rotation.
  | .error error => (⟨.error error, []⟩, e, s)
  | .ok task =>
    let (url, e) := e.target task.segments
    let r := c.request url task
    let (exchange, s) := send t r s
    (⟨interpret call (exchange.body r), exchange.during⟩, e, s)

/-- The outside of a worker over a transport. -/
def outside (c : Client) (t : Transport τ) : Outside (State τ) where
  connect := fun s e => (⟨.ok (), []⟩, e, s)
  answer := fun _ call s e => c.call t call s e
  wait := fun start finish s =>
    let (happenings, transport) := t.wait start finish s.transport
    (happenings, { s with transport })

end Http

end EventFlow
