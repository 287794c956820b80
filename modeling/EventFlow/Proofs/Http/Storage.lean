import EventFlow.Proofs.Http.Bodies
import EventFlow.Proofs.Http.Routes

/-!
# Backends That Store

What a worker gets from a backend that keeps what it is given.

A `Storage` is a transport behind which there is such a backend, and says what
it does with three kinds of requests. It answers a reservation by an identifier,
takes a submission under this identifier, and from then on answers a fetch of it
by the body that was submitted. It knows its requests by their URLs: what stands
last is the name of an event, and the rest is the address of the collection,
which may have several. How bodies are kept, and whatever else the backend does,
is left open.

All that is needed of the names is that they arrive, so the lemmas ask for an
identifier that is addressable. Nothing is asked of the flow: whatever its name
makes of the address, the word behind it keeps the name of an event apart.

## Main definitions

* `Exchange.Answered`: An exchange that succeeded.
* `Storage`: A backend that keeps an event.
* `Storage.IsReachedFrom`: A client all of whose endpoints lead to it.
* `Transport.keeping`, `Storage.keeping`: A backend to try things on.

## Theorems

* `call_of_answered`: A call that is answered.
* `isFor_of_addressable`: Requests for an event are known as such.
* `addressable_of_isWord`: Identifiers of letters, digits and hyphens.
* `produce_of_storage`: Producing leaves the body of the message there.
* `get_of_storage`: Fetching gives the message of the body that is there.
-/

namespace EventFlow

namespace Http

open UrlPath (Addressable)

variable {τ : Type} {c : Client} {t : Transport τ} {id : EventId} {body : Bytes}
  {w : World (State τ)}

/-! ## Answers -/

/-- An exchange that succeeded and has content. A status that says that there is
    none is not among them, as it is an error to every call. -/
def Exchange.Answered (x : Exchange) (body : Bytes) : Prop :=
  ∃ status, x.result = .ok ⟨status, body⟩ ∧ isSuccess status = true ∧ status ≠ 204

/-- What is read of such an exchange is its body, whatever was requested. -/
theorem Exchange.body_of_answered {x : Exchange} (h : x.Answered body) (r : Request) :
    x.body r = .ok body := by
  rcases h with ⟨status, hresult, hsuccess, hcontent⟩
  have hrange := hsuccess
  unfold isSuccess at hrange
  simp only [Bool.and_eq_true, decide_eq_true_eq] at hrange
  have hstatus : checkStatus r.method r.url status = none := by
    unfold checkStatus
    rw [if_neg hcontent, if_neg (by omega), if_neg (by omega), if_pos hsuccess]
  unfold Exchange.body bodyOf
  simp only [hresult, hstatus]

/-- A client whose requests can be sent, apart from those to claim, whose time limit
    is not its own. -/
def Client.Sends (c : Client) : Prop :=
  ∀ (url : Url) (task : Task), task.budget = none → refusal (c.request url task) = none

/-- A call that is answered by what it can read. It has taken one turn, and the
    backend is in the state that its exchange leads to. -/
theorem call_of_answered (call : Call) {task : Task} {a : call.Answer} {request : Request}
    (written : c.task call = .ok task)
    (addressed : request = c.request (w.worker.endpoints.current.extend task.segments) task)
    (sends : refusal request = none)
    (answered : (t.exchange request w.outside.transport).1.Answered body)
    (read : interpret call (.ok body) = .ok a) :
    ∃ w', w.call (outside c t) call = (.ok a, w') ∧
      w'.worker.endpoints = w.worker.endpoints.advance ∧
      w'.outside.transport = (t.exchange request w.outside.transport).2 := by
  rcases call_outside c t call w with ⟨hresult, hendpoints, houtside⟩
  rw [call_of_task written, ← addressed] at hresult hendpoints houtside
  have hsend : send t request w.outside =
      ((t.exchange request w.outside.transport).1, ⟨(t.exchange request w.outside.transport).2,
        ⟨request, (t.exchange request w.outside.transport).1.result⟩ :: w.outside.sent⟩) := by
    unfold send
    rw [sends]
  simp only [hsend, Exchange.body_of_answered answered, read] at hresult hendpoints houtside
  exact ⟨_, Prod.ext hresult rfl, hendpoints, congrArg State.transport houtside⟩

/-! ## Backends -/

/-- A request for an event of a collection: what stands last in its path is the name
    of the event, and the rest is an address of the collection. Names are compared
    as they are decoded, so it does not matter how a client escapes them. -/
def Request.IsFor (r : Request) (own : List (List Char) → Prop) (id : EventId) : Prop :=
  ∃ front last, r.url.segments = front ++ [last] ∧ own front ∧
    Percent.decode last = Bytes.ofText id

/-- A backend that reserves an identifier and keeps what is submitted under it. What
    its states are is its own business; three properties of them are all that is
    known. -/
structure Storage (t : Transport τ) (id : EventId) where
  /-- The addresses of its collection. -/
  own : List (List Char) → Prop
  /-- It will reserve the identifier next. -/
  ready : τ → Prop
  /-- It has reserved the identifier. -/
  reserved : τ → Prop
  /-- It has a body under the identifier. -/
  holds : Bytes → τ → Prop
  reserve : ∀ (r : Request) (s : τ), r.method = .post → own r.url.segments → ready s →
    (∃ body, (t.exchange r s).1.Answered body ∧ EventId.ofBody? body = some id) ∧
      reserved (t.exchange r s).2
  submit : ∀ (r : Request) (s : τ) (body : Bytes), r.method = .put → r.IsFor own id →
    r.body = some body → reserved s →
    (∃ answer, (t.exchange r s).1.Answered answer) ∧ holds body (t.exchange r s).2
  fetch : ∀ (r : Request) (s : τ) (body : Bytes), r.method = .get → r.IsFor own id →
    holds body s → (t.exchange r s).1.Answered body

/-- A client that can send its requests, and endpoints that can be used, all of
    which lead to the backend. -/
structure Storage.IsReachedFrom (backend : Storage t id) (c : Client) (list : List Url) :
    Prop where
  sends : c.Sends
  usable : ∀ base ∈ list, base.isUsable = true
  own : ∀ base ∈ list, backend.own (base.extend ["flow", c.identity.flowId, "events"]).segments

/-- A request for an event is known as such, if the name of the event is
    addressable: otherwise its last segment would be missing, or another one. -/
theorem isFor_of_addressable {own : List (List Char) → Prop} {base : Url} {request : Request}
    (hid : Addressable id.toList) (husable : base.isUsable = true)
    (hown : own (base.extend ["flow", c.identity.flowId, "events"]).segments)
    (addressed : request.url = base.extend ["flow", c.identity.flowId, "events", id]) :
    request.IsFor own id := by
  refine ⟨_, UrlPath.encodeSegment base.kind id.toList, ?_, hown, ?_⟩
  · rw [addressed]
    exact Url.segments_extend_concat husable (plain_word (by decide))
      ["flow", c.identity.flowId] hid
  · rw [UrlPath.decode_of_addressable _ hid, ← Bytes.ofText_eq]

/-- Letters, digits and hyphens are neither dots nor ignored. -/
theorem addressable_of_isWord (h : EventId.IsWord id) : Addressable id.toList := by
  have hdot : '.' ∉ id.toList := by
    intro hdot
    have hrange := EventId.toNat_of_isWord h hdot
    simp at hrange
  refine ⟨fun heq => hdot (heq ▸ .head _), fun heq => hdot (heq ▸ .head _), fun ch hch => ?_⟩
  have hrange := EventId.toNat_of_isWord h hch
  unfold UrlPath.isIgnored
  simp only [Bool.or_eq_false_iff, beq_eq_false_iff_ne]
  refine ⟨⟨?_, ?_⟩, ?_⟩ <;> rintro rfl <;> simp at hrange

/-! ## Operations -/

variable {backend : Storage t id} {message : Message}

/-- The first attempt to produce leaves the body of the message there: the
    reservation is answered, and then the submission is. -/
theorem produceAttempt_of_storage
    (reached : backend.IsReachedFrom c w.worker.endpoints.list) (hid : Addressable id.toList)
    (hbody : message.body? = some body) (ready : backend.ready w.outside.transport)
    (n : UInt32) :
    ∃ w', World.produceAttempt (outside c t) message n w = (.ok id, w') ∧
      backend.holds body w'.outside.transport := by
  have hsubmit : c.task (.submit id message) =
      .ok ⟨.put, ["flow", c.identity.flowId, "events", id], some body, none⟩ := by
    unfold Client.task
    simp only [hbody]
  have hcurrent := w.worker.endpoints.current_mem
  rcases backend.reserve (c.request (w.worker.endpoints.current.extend
    ["flow", c.identity.flowId, "events"]) ⟨.post, ["flow", c.identity.flowId, "events"], some [],
      none⟩) w.outside.transport rfl (reached.own _ hcurrent) ready with
    ⟨⟨answer, hanswered, hread⟩, hreserved⟩
  have hinterpret : interpret .reserve (.ok answer) = .ok id := by
    unfold interpret
    simp only [hread]
  rcases call_of_answered .reserve rfl rfl (reached.sends _ _ rfl) hanswered
    hinterpret with ⟨w₁, hcall, hendpoints, htransport⟩
  -- The reservation has moved the rotation on, but all endpoints are as good as the first.
  have hlist : w₁.worker.endpoints.list = w.worker.endpoints.list := by
    rw [hendpoints, Endpoints.list_advance]
  have hnext : w₁.worker.endpoints.current ∈ w.worker.endpoints.list :=
    hlist ▸ w₁.worker.endpoints.current_mem
  -- The submission goes to the next endpoint, which leads to the same backend.
  have hfor : (c.request (w₁.worker.endpoints.current.extend
      ["flow", c.identity.flowId, "events", id])
      ⟨.put, ["flow", c.identity.flowId, "events", id], some body, none⟩).IsFor backend.own id :=
    isFor_of_addressable hid (reached.usable _ hnext) (reached.own _ hnext) rfl
  rcases backend.submit _ w₁.outside.transport body rfl hfor rfl (htransport ▸ hreserved) with
    ⟨⟨taken, htaken⟩, hholds⟩
  rcases call_of_answered (.submit id message) (a := ()) hsubmit rfl (reached.sends _ _ rfl)
    htaken rfl with ⟨w₂, hcall', -, htransport'⟩
  refine ⟨w₂, ?_, htransport' ▸ hholds⟩
  unfold World.produceAttempt
  simp only [hcall, hcall']

/-- Producing leaves the body of the message there, at the first attempt. -/
theorem produce_of_storage {rounds : Nat}
    (reached : backend.IsReachedFrom c w.worker.endpoints.list) (hid : Addressable id.toList)
    (hbody : message.body? = some body) (ready : backend.ready w.outside.transport)
    (calm : w.scene.check w.worker.shutdown none = none) (hrounds : 0 < rounds) :
    ∃ w', w.produce (outside c t) rounds message = (.finished (.ok id), w') ∧
      backend.holds body w'.outside.transport := by
  rcases produceAttempt_of_storage (w := w.record (.start .produce)) reached hid hbody ready 1 with
    ⟨w', htried, hholds⟩
  exact ⟨w', Retry.run_of_ok hrounds calm htried, hholds⟩

/-- Fetching gives the message of the body that is there, at the first attempt. -/
theorem get_of_storage {rounds : Nat} (reference : Reference) (hreference : reference.eventId = id)
    (reached : backend.IsReachedFrom c w.worker.endpoints.list) (hid : Addressable id.toList)
    (hbody : message.body? = some body) (holds : backend.holds body w.outside.transport)
    (calm : w.scene.check w.worker.shutdown none = none) (hrounds : 0 < rounds) :
    ∃ w', w.get (outside c t) rounds reference = (.finished (.ok message), w') := by
  subst hreference
  have hcurrent := w.worker.endpoints.current_mem
  have hfor : (c.request (w.worker.endpoints.current.extend
      ["flow", c.identity.flowId, "events", reference.eventId])
      ⟨.get, ["flow", c.identity.flowId, "events", reference.eventId], none, none⟩).IsFor
        backend.own reference.eventId :=
    isFor_of_addressable hid (reached.usable _ hcurrent) (reached.own _ hcurrent) rfl
  rcases call_of_answered (w := w.record (.start .get)) (.fetch reference.eventId) rfl rfl
    (reached.sends _ _ rfl) (backend.fetch _ _ body rfl hfor holds)
    (interpret_of_body hbody reference.eventId) with ⟨w', hcall, -⟩
  exact ⟨w', Retry.run_of_ok hrounds calm hcall⟩

/-! ## A backend that keeps one event -/

variable {collection : List String} {r : Request} {s s' : Option Bytes}

/-- The paths of a collection are those that decode to its route. -/
def IsAddress (collection : List String) (path : List (List Char)) : Prop :=
  path.map Percent.decode = collection.map Bytes.ofText

/-- The status that answers a request, the body of the answer, and what is kept
    afterwards, if a single event of a collection is kept. Anything that is neither
    a reservation nor about this event is not found. -/
def keepOne (collection : List String) (id : EventId) (r : Request) (s : Option Bytes) :
    Nat × Bytes × Option Bytes :=
  let path := r.url.segments.map Percent.decode
  if path = collection.map Bytes.ofText ∧ r.method = .post then (200, Bytes.ofText id, s)
  else if path = (collection ++ [id]).map Bytes.ofText then
    match r.method, r.body, s with
    | .put, some body, _ => (200, [], some body)
    | .get, _, some body => (200, body, s)
    | _, _, _ => (404, [], s)
  else (404, [], s)

/-- A transport that keeps a single event of a collection. -/
def Transport.keeping (collection : List String) (id : EventId) : Transport (Option Bytes) where
  exchange := fun r s =>
    let (status, body, s) := keepOne collection id r s
    (⟨.ok ⟨status, body⟩, []⟩, s)
  wait := fun _ _ s => ([], s)

/-- What is answered with success is an answer. -/
theorem exchange_keeping (h : keepOne collection id r s = (200, body, s')) :
    ((Transport.keeping collection id).exchange r s).1.Answered body ∧
      ((Transport.keeping collection id).exchange r s).2 = s' := by
  unfold Transport.keeping
  simp only [h]
  exact ⟨⟨200, rfl, rfl, by decide⟩, trivial⟩

/-- A reservation is answered by the identifier. -/
theorem keepOne_post (hpost : r.method = .post) (hpath : IsAddress collection r.url.segments) :
    keepOne collection id r s = (200, Bytes.ofText id, s) := by
  unfold keepOne
  rw [if_pos ⟨hpath, hpost⟩]

/-- A request for the event goes to what is kept, unless it is a POST. -/
theorem keepOne_of_isFor (hmethod : r.method ≠ .post) (hfor : r.IsFor (IsAddress collection) id) :
    keepOne collection id r s = match r.method, r.body, s with
      | .put, some body, _ => (200, [], some body)
      | .get, _, some body => (200, body, s)
      | _, _, _ => (404, [], s) := by
  have hpath : r.url.segments.map Percent.decode = (collection ++ [id]).map Bytes.ofText := by
    rcases hfor with ⟨front, last, hsegments, hfront, hlast⟩
    rw [hsegments, List.map_append, List.map_append, List.map_singleton, List.map_singleton,
      hlast, hfront]
  unfold keepOne
  rw [if_neg fun h => hmethod h.2, if_pos hpath]

/-- A submission replaces what is kept. -/
theorem keepOne_put (hput : r.method = .put) (hfor : r.IsFor (IsAddress collection) id)
    (hbody : r.body = some body) : keepOne collection id r s = (200, [], some body) := by
  rw [keepOne_of_isFor (by rw [hput]; exact nofun) hfor]
  simp only [hput, hbody]

/-- And a fetch is answered by it. -/
theorem keepOne_get (hget : r.method = .get) (hfor : r.IsFor (IsAddress collection) id)
    (hs : s = some body) : keepOne collection id r s = (200, body, s) := by
  rw [keepOne_of_isFor (by rw [hget]; exact nofun) hfor]
  simp only [hget, hs]

/-- It is a backend that stores, if the identifier survives its answer. -/
def Storage.keeping (collection : List String) {id : EventId}
    (hid : EventId.ofBody? (Bytes.ofText id) = some id) :
    Storage (.keeping collection id) id where
  own := IsAddress collection
  ready := fun _ => True
  reserved := fun _ => True
  holds := fun body s => s = some body
  reserve := fun _ _ hpost hpath _ =>
    ⟨⟨_, (exchange_keeping (keepOne_post hpost hpath)).1, hid⟩, trivial⟩
  submit := fun _ _ _ hput hfor hbody _ =>
    have hkept := exchange_keeping (keepOne_put hput hfor hbody)
    ⟨⟨_, hkept.1⟩, hkept.2⟩
  fetch := fun _ _ _ hget hfor hs => (exchange_keeping (keepOne_get hget hfor hs)).1

end Http

end EventFlow
