import EventFlow.Proofs.Endpoint.Rotation
import EventFlow.Proofs.Worker.Run
import EventFlow.Session.Http

/-!
# Calls over HTTP

What a call on a session over HTTP does to the rotation and to the record of
what was sent.

Connecting over HTTP asks nothing of anybody, and what becomes of a session
changes neither endpoints nor record. So a call of a worker is a call of its
client, made with the endpoints and the outside as they are, and `call_outside`
says so for what it answers, picks and sends. The client in turn either cannot
write the body, and then takes no turn in the rotation, or takes one and sends
a single request, unless that cannot be sent at all. `Asked` has a constructor
for each of these.

Waiting between attempts sends nothing and picks nothing (`sent_of_idled`).

## Main definitions

* `Client.Asked`: What a call of a client can do.
* `outcomeAt`: What comes of a call at an endpoint.
* `Url.ofHost`, `Endpoints.single`, `Config.retrying`, `Client.plain`: A worker to try
  things on.

## Theorems

* `asked_call`: A call of a client does nothing else.
* `call_outside`: A call of a worker is one of its client.
* `result_call`, `endpoints_call`: Whose turn it is, and whose turn it is next.
* `sent_of_idled`: Nothing is sent between attempts.
-/

namespace EventFlow

namespace Http

variable {τ : Type} {c : Client} {t : Transport τ}

/-! ## The client -/

/-- What a call can do that begins with the endpoints `e` and the state `s`. A turn
    is taken as soon as there is a body, whether or not the request can be sent
    then. -/
inductive Client.Asked (c : Client) (t : Transport τ) (call : Call) (s : State τ)
    (e : Endpoints) : Reply call.Answer × Endpoints × State τ → Prop where
  /-- Its body cannot be written. -/
  | unwritten (error : SessionError) (task : c.task call = .error error) :
      Asked c t call s e (⟨.error error, []⟩, e, s)
  /-- Its request cannot be sent. -/
  | refused (task : Task) (failure : TransferFailure) (written : c.task call = .ok task)
      (refused : refusal (c.request (e.current.extend task.segments) task) = some failure) :
      Asked c t call s e
        (⟨interpret call (.error (.transport failure)), []⟩, e.advance, s)
  /-- Its request is sent. -/
  | sent (task : Task) (request : Request) (written : c.task call = .ok task)
      (addressed : request = c.request (e.current.extend task.segments) task) :
      Asked c t call s e
        (⟨interpret call ((t.exchange request s.transport).1.body request),
            (t.exchange request s.transport).1.during⟩, e.advance,
          ⟨(t.exchange request s.transport).2,
            ⟨request, (t.exchange request s.transport).1.result⟩ :: s.sent⟩)

/-- A call does nothing else. In what follows calls are taken apart by this, and
    never by unfolding the client. -/
theorem asked_call (c : Client) (t : Transport τ) (call : Call) (s : State τ) (e : Endpoints) :
    c.Asked t call s e (c.call t call s e) := by
  rw [Client.call]
  -- The body is written before an endpoint is picked, so without one there is no turn to take.
  cases hw : c.task call with
  | error error => exact .unwritten error hw
  | ok task =>
      simp only [Endpoints.target, send]
      cases hr : refusal (c.request (e.current.extend task.segments) task) with
      | some failure => exact .refused task failure hw hr
      | none => exact .sent task _ hw rfl

/-- A call whose body can be written sends it to the endpoint whose turn it is. -/
theorem call_of_task {call : Call} {task : Task} (written : c.task call = .ok task)
    (s : State τ) (e : Endpoints) :
    c.call t call s e =
      (let request := c.request (e.current.extend task.segments) task
      (⟨interpret call ((send t request s).1.body request), (send t request s).1.during⟩,
        e.advance, (send t request s).2)) := by
  rw [Client.call, written]
  rfl

/-! ## The worker -/

/-- Over HTTP there is always a session to be had, and getting one touches neither
    the endpoints nor the outside. -/
theorem lookUp_outside (c : Client) (t : Transport τ) (w : World (State τ)) :
    ∃ session w', w.lookUp (outside c t) = (.ok session, w') ∧
      w'.worker.endpoints = w.worker.endpoints ∧ w'.outside = w.outside := by
  rw [World.lookUp]
  cases w.worker.slot with
  | some session => exact ⟨session, w, rfl, rfl, rfl⟩
  | none => exact ⟨_, _, rfl, rfl, rfl⟩

/-- A call of a worker over HTTP answers, picks and sends what the call of its
    client does. What a lost session would be dropped for does not concern any of
    these. -/
theorem call_outside (c : Client) (t : Transport τ) (call : Call) (w : World (State τ)) :
    (w.call (outside c t) call).1 = (c.call t call w.outside w.worker.endpoints).1.result ∧
    (w.call (outside c t) call).2.worker.endpoints =
      (c.call t call w.outside w.worker.endpoints).2.1 ∧
    (w.call (outside c t) call).2.outside =
      (c.call t call w.outside w.worker.endpoints).2.2 := by
  rcases lookUp_outside c t w with ⟨session, w₁, hlook, hendpoints, houtside⟩
  rcases World.call_eq (outside c t) call w with ⟨e, w₂, hlook', -⟩ | ⟨session', w₂, hlook', hcall⟩
  · rw [hlook] at hlook'
    simp only [Prod.mk.injEq, reduceCtorEq, false_and] at hlook'
  · rw [hlook] at hlook'
    simp only [Prod.mk.injEq, Except.ok.injEq] at hlook'
    rw [hcall, ← hlook'.2, World.endpoints_settle, World.outside_settle, ← hendpoints, ← houtside]
    exact ⟨rfl, rfl, rfl⟩

/-- What comes of a task that is sent to an endpoint, for a call. The state matters,
    as the answers of a backend may depend on what it was asked before. -/
def outcomeAt (c : Client) (t : Transport τ) (endpoint : Url) (call : Call) (task : Task)
    (s : State τ) : Except SessionError call.Answer :=
  let request := c.request (endpoint.extend task.segments) task
  interpret call ((send t request s).1.body request)

variable {call : Call} {task : Task}

/-- A call is made to the endpoint whose turn it is, if its body can be written. -/
theorem result_call (written : c.task call = .ok task) (w : World (State τ)) :
    (w.call (outside c t) call).1 =
      outcomeAt c t w.worker.endpoints.current call task w.outside := by
  rw [(call_outside c t call w).1, call_of_task written]
  rfl

/-- It moves the rotation on by one, whatever comes of it. -/
theorem endpoints_call (written : c.task call = .ok task) (w : World (State τ)) :
    (w.call (outside c t) call).2.worker.endpoints = w.worker.endpoints.advance := by
  rw [(call_outside c t call w).2.1, call_of_task written]

/-! ## Between attempts -/

/-- A wait sends nothing. -/
theorem sent_of_waited {s s' : State τ}
    (h : s' = s ∨ ∃ start finish, s' = ((outside c t).wait start finish s).2) :
    s'.sent = s.sent := by
  rcases h with rfl | ⟨start, finish, rfl⟩
  · rfl
  · rfl

/-- What a loop does between two attempts sends nothing. -/
theorem sent_of_idled {w w' : World (State τ)} (h : Retry.Idled (outside c t) w w') :
    w'.outside.sent = w.outside.sent :=
  sent_of_waited h.outside_eq

end Http

/-! ## A plain worker -/

/-- The endpoint at a host with a name of one letter. -/
def Url.ofHost (name : Char) : Url :=
  ⟨"http".toList, some ⟨[], [], .name [name], none⟩, .segments [], none, none⟩

/-- A rotation of one endpoint. -/
def Endpoints.single : Endpoints := ⟨[.ofHost 'a'], List.cons_ne_nil _ _, 0⟩

/-- A worker with some endpoints and so many retries, which it makes at once. -/
def Config.retrying (endpoints : List Url) (limit : Nat) : Config where
  endpoints := endpoints
  flowId := "f"
  workerId := "w"
  consumeTimeout := none
  backoff := .maxRetries .zero limit
  maxIntake := none
  httpTimeout := Config.defaultHttpTimeout
  userAgent := Config.defaultUserAgent

/-- The client of such a worker, whose endpoints and retries are no business of
    its own. -/
def Http.Client.plain : Http.Client := .ofConfig (.retrying [] 0)

end EventFlow
