import EventFlow.Proofs.Http.Requests

/-!
# Effects over HTTP

When acknowledging and producing have their effect once.

A PUT changes something on the side that answers it. If that side says that it
has done what was asked, by a status of success, nothing more should be asked
of it: the request should be the last one of its operation, and the operation
should return what the request was for. `Once` says so of a list of requests,
the latest first, and the outcome they led to.

It does not hold of every run, since status 204 is a status of success and yet
counts as an error: a PUT that is answered with it is tried again. All other
statuses of success do end the operation, so `once_iff` says exactly when the
effect is had once: if and only if no PUT was answered with 204.

What an attempt asks for is told by `Brought`: if it succeeds, its last request
and no other was taken for done, and if it fails, none was. The two are what
`run_rule` needs, so whole runs follow without a look at the loop.

## Main definitions

* `Sent.isEffect`, `Sent.isAnswered`, `Sent.isTaken`: A PUT, one that succeeded
  by its status, and one that the worker takes for a success.
* `Sent.GoesTo`: Where a request goes.
* `Undone`, `Done`, `Brought`: What a list of requests brought about.
* `Once`: No request follows an effect.

## Theorems

* `isTaken_eq`: Of the statuses of success, 204 alone is not taken for one.
* `brought_call`, `brought_produceAttempt`: What attempts bring about.
* `brought_run`: What a run brings about.
* `once_iff_of_brought`: When requests have their effect once.
* `once_iff`: When acknowledging and producing do.
-/

namespace EventFlow

namespace Http

/-! ## Requests that were sent -/

namespace Sent

/-- The status that a request was answered with. -/
def status? (x : Sent) : Option Nat :=
  match x.result with
  | .ok response => some response.status
  | .error _ => none

/-- Whether a request changes something. Of the methods that are used only PUT does;
    reserving an identifier is a POST and leaves nothing behind that anybody could
    read. -/
def isEffect (x : Sent) : Bool := x.request.method = .put

/-- Whether a request was answered with a status of success. This is what the
    backend means by its answer, not what the worker makes of it. -/
def isAnswered (x : Sent) : Bool := x.status?.any isSuccess

/-- Whether the answer to a request is taken for a success. The table of statuses is
    asked, as it is for every call, so that `isTaken_eq` is about what the worker
    does. -/
def isTaken (x : Sent) : Bool :=
  x.status?.any fun status => checkStatus x.request.method x.request.url status = none

/-- A request goes to one of some endpoints, and there below some segments. -/
def GoesTo (endpoints : List Url) (segments : List String) (x : Sent) : Prop :=
  ∃ endpoint ∈ endpoints, x.request.url = endpoint.extend segments

/-- An answer is taken for a success if its status says so, unless it says that
    there is no content. That status stands before the others in the table, for the
    sake of claims, and there it stands for every method. -/
theorem isTaken_eq (x : Sent) : x.isTaken = (x.isAnswered && x.status? != some 204) := by
  rw [isTaken, isAnswered]
  cases x.status? with
  | none => rfl
  | some status =>
      simp only [Option.any_some, checkStatus]
      -- The table looks for three statuses before it asks for success, and only one of them is a
      -- status of success.
      by_cases h204 : status = 204
      · subst h204
        rfl
      · by_cases h404 : status = 404
        · subst h404
          rfl
        · by_cases h500 : status = 500
          · subst h500
            rfl
          · simp only [if_neg h204, if_neg h404, if_neg h500]
            cases isSuccess status <;> simp [h204]

end Sent

variable {α : Type} {of : α → Sent → Prop}

/-! ## What requests bring about -/

/-- None of the requests was taken for done, and each that might have been was for
    something. So it is known where a request went, although nothing came of it. -/
def Undone (of : α → Sent → Prop) (made : List Sent) : Prop :=
  ∀ x ∈ made, x.isEffect = true → x.isTaken = false ∧ ∃ a, of a x

/-- The latest request was taken for done and was for `a`, and no other was taken
    for done. Requests are kept latest first, so the one that counts is at the head. -/
def Done (of : α → Sent → Prop) (a : α) (made : List Sent) : Prop :=
  ∃ x older, made = x :: older ∧ x.isEffect = true ∧ x.isTaken = true ∧ of a x ∧ Undone of older

/-- What the requests of an attempt brought about, by its result. An attempt that
    fails may have sent something, but nothing that was taken for done. -/
def Brought (of : α → Sent → Prop) (made : List Sent) : Except SessionError α → Prop
  | .ok a => Done of a made
  | .error _ => Undone of made

theorem Undone.append {newer older : List Sent} (h : Undone of newer) (h' : Undone of older) :
    Undone of (newer ++ older) := by
  intro x hx
  rcases List.mem_append.mp hx with hx | hx
  · exact h x hx
  · exact h' x hx

theorem Done.append {a : α} {newer older : List Sent} (h : Done of a newer)
    (h' : Undone of older) : Done of a (newer ++ older) := by
  rcases h with ⟨x, rest, rfl, heffect, htaken, hof, hrest⟩
  exact ⟨x, rest ++ older, rfl, heffect, htaken, hof, hrest.append h'⟩

theorem Brought.append {result : Except SessionError α} {newer older : List Sent}
    (h : Brought of newer result) (h' : Undone of older) : Brought of (newer ++ older) result := by
  cases result with
  | ok a => exact Done.append h h'
  | error e => exact Undone.append h h'

/-- What was brought about for `b` by something that returned something else. An
    attempt to produce needs it: the submission returns nothing, and the identifier
    that the attempt returns was known before. -/
theorem Brought.as {β : Type} {of : β → Sent → Prop} {b : β} {made : List Sent}
    {result : Except SessionError α} (h : Brought (fun _ x => of b x) made result) :
    Brought of made (result.map fun _ => b) := by
  have hundone : ∀ older, Undone (fun (_ : α) x => of b x) older → Undone of older := by
    intro older holder x hx heffect
    rcases holder x hx heffect with ⟨htaken, -, hof⟩
    exact ⟨htaken, b, hof⟩
  cases result with
  | ok a =>
      rcases h with ⟨x, older, hmade, heffect, htaken, hof, holder⟩
      exact ⟨x, older, hmade, heffect, htaken, hof, hundone older holder⟩
  | error e => exact hundone made h

theorem undone_nil : Undone of [] :=
  fun _ hx => absurd hx List.not_mem_nil

/-- Requests without an effect do nothing. Reservations are of this kind, so an
    attempt that gets no further has brought nothing about. -/
theorem undone_of_idle {made : List Sent} (h : ∀ x ∈ made, x.isEffect = false) :
    Undone of made := by
  intro x hx heffect
  rw [h x hx] at heffect
  exact absurd heffect Bool.false_ne_true

/-- Every request with an effect that was answered with a status of success was the
    last that was made, and what it was for was returned. It is read off the
    statuses, so it is about what the backend did, whatever the worker made of it. -/
def Once (of : α → Sent → Prop) (made : List Sent) (outcome : Outcome α) : Prop :=
  ∀ newer x older, made = newer ++ x :: older → x.isEffect = true → x.isAnswered = true →
    newer = [] ∧ ∃ a, outcome = .finished (.ok a) ∧ of a x

/-- A request with an effect that was not taken for done was either answered
    with 204 or not with a status of success. -/
theorem Undone.isAnswered {made : List Sent} (h : Undone of made) {x : Sent} (hx : x ∈ made)
    (heffect : x.isEffect = true) (h204 : x.status? ≠ some 204) : x.isAnswered = false := by
  have htaken := (h x hx heffect).1
  rw [x.isTaken_eq, Bool.and_eq_false_iff] at htaken
  rcases htaken with hanswered | hstatus
  · exact hanswered
  · exact absurd (by simpa using hstatus) h204

/-- Status 204 is one of success. -/
theorem Sent.isAnswered_of_status {x : Sent} (h : x.status? = some 204) : x.isAnswered = true := by
  rw [isAnswered, h]
  rfl

/-- Requests of a run that returned no result: any that was answered well is
    one too many, and 204 is the only status that comes to that. -/
theorem once_iff_of_undone {made : List Sent} {outcome : Outcome α} (h : Undone of made)
    (hne : ∀ a, outcome ≠ .finished (.ok a)) :
    Once of made outcome ↔ ∀ x ∈ made, x.isEffect = true → x.status? ≠ some 204 := by
  constructor
  · intro honce x hx heffect h204
    -- A request that was answered with 204 was answered well, so it had to be the one that was
    -- returned for; but there is no such request.
    rcases List.append_of_mem hx with ⟨newer, older, hmade⟩
    rcases honce newer x older hmade heffect (Sent.isAnswered_of_status h204) with ⟨-, a, ha, -⟩
    exact hne a ha
  · intro h204 newer x older hmade heffect hanswered
    have hx : x ∈ made := hmade ▸ List.mem_append_right newer (.head older)
    rw [h.isAnswered hx heffect (h204 x hx heffect)] at hanswered
    exact absurd hanswered Bool.false_ne_true

/-- Requests of a run that returned `a`: the latest is the one that counts, and
    any other that was answered well was answered with 204. -/
theorem once_iff_of_done {a : α} {made : List Sent} (h : Done of a made) :
    Once of made (.finished (.ok a)) ↔
      ∀ x ∈ made, x.isEffect = true → x.status? ≠ some 204 := by
  rcases h with ⟨latest, rest, rfl, -, htaken, hof, hrest⟩
  constructor
  · intro honce x hx heffect h204
    rcases List.mem_cons.mp hx with rfl | hx
    · rw [x.isTaken_eq, h204] at htaken
      simp at htaken
    · -- The latest request came after it, though it was answered well.
      rcases List.append_of_mem hx with ⟨newer, older, hmade⟩
      have := honce (latest :: newer) x older (by rw [hmade]; rfl) heffect
        (Sent.isAnswered_of_status h204)
      exact absurd this.1 (List.cons_ne_nil latest newer)
  · intro h204 newer x older hmade heffect hanswered
    cases newer with
    | nil =>
        -- It is the latest request itself.
        obtain rfl := (List.cons.inj hmade).1
        exact ⟨rfl, a, rfl, hof⟩
    | cons first newer =>
        -- It is an older one, which can only have been answered with 204.
        have hx : x ∈ rest := (List.cons.inj hmade).2 ▸ List.mem_append_right newer (.head older)
        rw [hrest.isAnswered hx heffect (h204 x (.tail latest hx) heffect)] at hanswered
        exact absurd hanswered Bool.false_ne_true

/-- Requests have their effect once if and only if none that has one was answered
    with 204. Whether the run succeeded makes no difference to the condition, only
    to the reason for it. -/
theorem once_iff_of_brought {made : List Sent} {outcome : Outcome α}
    (h : (∃ a, outcome = .finished (.ok a) ∧ Done of a made) ∨
      (∀ a, outcome ≠ .finished (.ok a)) ∧ Undone of made) :
    Once of made outcome ↔ ∀ x ∈ made, x.isEffect = true → x.status? ≠ some 204 := by
  rcases h with ⟨a, rfl, hdone⟩ | ⟨hne, hundone⟩
  · exact once_iff_of_done hdone
  · exact once_iff_of_undone hundone hne

/-! ## Attempts -/

variable {τ : Type} {c : Client} {t : Transport τ}

/-- What comes of a request, if it was sent, is what its answer is taken for: there
    is a body to go on with just if the status is taken for a success. -/
theorem isTaken_iff (request : Request) (exchange : Exchange) :
    (⟨request, exchange.result⟩ : Sent).isTaken = true ↔
      ∃ body, exchange.body request = .ok body := by
  rw [Sent.isTaken, Sent.status?, Exchange.body]
  rcases exchange.result with failure | response
  · simp
  · simp only [Option.any_some, bodyOf]
    cases checkStatus request.method request.url response.status <;> simp

/-- A call that puts something and succeeds when that does. It is stated for a call
    in general, as acknowledging and submitting differ in nothing but what they put
    where; `puts` and `succeeds` say what is needed of either. -/
theorem brought_call {call : Call} {segments : List String}
    (puts : ∀ task, c.task call = .ok task → task.method = .put ∧ task.segments = segments)
    (succeeds : ∀ body, ∃ a, interpret call (.ok body) = .ok a)
    (fails : ∀ e, interpret call (.error e) = .error e) (w : World (State τ)) :
    ∃ made, (w.call (outside c t) call).2.outside.sent = made ++ w.outside.sent ∧
      (w.call (outside c t) call).2.worker.endpoints.list = w.worker.endpoints.list ∧
      Brought (fun _ x => x.GoesTo w.worker.endpoints.list segments) made
        (w.call (outside c t) call).1 := by
  rcases call_outside c t call w with ⟨hresult, hendpoints, houtside⟩
  rw [hresult, hendpoints, houtside]
  have hasked := asked_call c t call w.outside w.worker.endpoints
  generalize c.call t call w.outside w.worker.endpoints = result at hasked
  -- Only a request that was sent can have an effect, and there is one at most.
  cases hasked with
  | unwritten error task => exact ⟨[], rfl, rfl, undone_nil⟩
  | refused task failure written refused =>
      simp only [fails]
      exact ⟨[], rfl, rfl, undone_nil⟩
  | sent task request written addressed =>
      rcases puts task written with ⟨hmethod, hsegments⟩
      have heffect : (⟨request, (t.exchange request w.outside.transport).1.result⟩ :
          Sent).isEffect = true := by
        rw [addressed]
        exact decide_eq_true hmethod
      have hgoes : (⟨request, (t.exchange request w.outside.transport).1.result⟩ :
          Sent).GoesTo w.worker.endpoints.list segments := by
        refine ⟨w.worker.endpoints.current, w.worker.endpoints.current_mem, ?_⟩
        rw [addressed, ← hsegments]
        rfl
      have htaken := isTaken_iff request (t.exchange request w.outside.transport).1
      refine ⟨[⟨request, (t.exchange request w.outside.transport).1.result⟩], rfl, rfl, ?_⟩
      simp only
      cases hbody : (t.exchange request w.outside.transport).1.body request with
      | ok body =>
          rcases succeeds body with ⟨a, ha⟩
          rw [ha]
          exact ⟨_, [], rfl, heffect, htaken.mpr ⟨body, hbody⟩, hgoes, undone_nil⟩
      | error e =>
          rw [fails]
          intro x hx _
          obtain rfl := List.mem_singleton.mp hx
          -- It was for the same as a success would have been, whatever that returns.
          rcases succeeds [] with ⟨a, -⟩
          refine ⟨?_, a, hgoes⟩
          rw [← Bool.not_eq_true, htaken]
          rintro ⟨body, hok⟩
          simp only [hbody, reduceCtorEq] at hok

/-- Reserving an identifier has no effect, since it is a POST: it may send a
    request, and none that puts anything. -/
theorem idle_reserve (c : Client) (t : Transport τ) (w : World (State τ)) :
    ∃ made, (w.call (outside c t) .reserve).2.outside.sent = made ++ w.outside.sent ∧
      (w.call (outside c t) .reserve).2.worker.endpoints.list = w.worker.endpoints.list ∧
      ∀ x ∈ made, x.isEffect = false := by
  rcases call_outside c t .reserve w with ⟨-, hendpoints, houtside⟩
  rw [hendpoints, houtside]
  have hasked := asked_call c t .reserve w.outside w.worker.endpoints
  generalize c.call t .reserve w.outside w.worker.endpoints = result at hasked
  cases hasked with
  | unwritten error task => exact ⟨[], rfl, rfl, fun x hx => absurd hx List.not_mem_nil⟩
  | refused task failure written refused =>
      exact ⟨[], rfl, rfl, fun x hx => absurd hx List.not_mem_nil⟩
  | sent task request written addressed =>
      refine ⟨[⟨request, (t.exchange request w.outside.transport).1.result⟩], rfl, rfl, ?_⟩
      intro x hx
      obtain rfl := List.mem_singleton.mp hx
      obtain rfl := Except.ok.inj written
      rw [addressed]
      rfl

theorem puts_acknowledge (c : Client) (ackId : String) (acknowledgment : Acknowledgment)
    (task : Task) (h : c.task (.acknowledge ackId acknowledgment) = .ok task) :
    task.method = .put ∧ task.segments = ["workers", c.identity.workerId, "ack", ackId] := by
  rw [Client.task] at h
  cases hbody : acknowledgment.body? with
  | none => simp only [hbody, reduceCtorEq] at h
  | some body =>
      simp only [hbody, Except.ok.injEq] at h
      rw [← h]
      exact ⟨rfl, rfl⟩

theorem puts_submit (c : Client) (eventId : EventId) (message : Message) (task : Task)
    (h : c.task (.submit eventId message) = .ok task) :
    task.method = .put ∧ task.segments = ["flow", c.identity.flowId, "events", eventId] := by
  rw [Client.task] at h
  cases hbody : message.body? with
  | none => simp only [hbody, reduceCtorEq] at h
  | some body =>
      simp only [hbody, Except.ok.injEq] at h
      rw [← h]
      exact ⟨rfl, rfl⟩

/-- An attempt to produce puts an event under the identifier that it returns. The
    reservation before that sends a request of its own, which has no effect and is
    older. -/
theorem brought_produceAttempt (c : Client) (t : Transport τ) (message : Message) (n : UInt32)
    (w : World (State τ)) :
    ∃ made, (World.produceAttempt (outside c t) message n w).2.outside.sent =
        made ++ w.outside.sent ∧
      (World.produceAttempt (outside c t) message n w).2.worker.endpoints.list =
        w.worker.endpoints.list ∧
      Brought (fun eventId x => x.GoesTo w.worker.endpoints.list
          ["flow", c.identity.flowId, "events", eventId]) made
        (World.produceAttempt (outside c t) message n w).1 := by
  rcases idle_reserve c t w with ⟨reserved, hsent, hlist, hidle⟩
  rcases World.produceAttempt_eq (outside c t) message n w with
    ⟨e, w₁, hr, hp⟩ | ⟨eventId, w₁, hr, hp⟩
  · -- No identifier was got, and the reservation was all.
    rw [hr] at hsent hlist
    rw [hp]
    exact ⟨reserved, hsent, hlist, undone_of_idle hidle⟩
  · rw [hr] at hsent hlist
    simp only at hsent hlist
    rcases @brought_call τ c t (.submit eventId message) _ (puts_submit c eventId message)
      (fun _ => ⟨(), rfl⟩) (fun _ => rfl) w₁ with ⟨submitted, hsent', hlist', hbrought⟩
    rw [hp]
    -- The submission comes later, so its requests stand before those of the reservation.
    refine ⟨submitted ++ reserved, ?_, hlist'.trans hlist, ?_⟩
    · rw [List.append_assoc, ← hsent]
      exact hsent'
    · rw [hlist] at hbrought
      have has := @Brought.as Unit EventId (fun eventId x => x.GoesTo w.worker.endpoints.list
        ["flow", c.identity.flowId, "events", eventId]) eventId submitted _ hbrought
      exact has.append (undone_of_idle hidle)

/-! ## Runs -/

variable {scope : Scope}
  {attempt : UInt32 → World (State τ) → Except SessionError α × World (State τ)}

/-- A run brings about what its attempts do, one success at most. By the rule for
    loops: while attempts fail, nothing is done and the endpoints stay the same; a
    success is the last attempt, and adds what is done to what is not. -/
theorem brought_run {endpoints : List Url}
    (brought : ∀ n w, w.worker.endpoints.list = endpoints →
      ∃ made, (attempt n w).2.outside.sent = made ++ w.outside.sent ∧
        (attempt n w).2.worker.endpoints.list = w.worker.endpoints.list ∧
        Brought of made (attempt n w).1) (rounds : Nat) (w : World (State τ))
    (hw : w.worker.endpoints.list = endpoints) :
    ∃ made, (Retry.run (outside c t) rounds scope attempt w).2.outside.sent =
        made ++ w.outside.sent ∧
      ((∃ a, (Retry.run (outside c t) rounds scope attempt w).1 = .finished (.ok a) ∧
          Done of a made) ∨
        (∀ a, (Retry.run (outside c t) rounds scope attempt w).1 ≠ .finished (.ok a)) ∧
          Undone of made) := by
  have hrun := @Retry.run_rule (State τ) α (outside c t) scope attempt
    (fun w' => w'.worker.endpoints.list = endpoints ∧
      ∃ made, w'.outside.sent = made ++ w.outside.sent ∧ Undone of made)
    (fun a w' => ∃ made, w'.outside.sent = made ++ w.outside.sent ∧ Done of a made) rounds w
    ?_ ?_ ?_ ?_
  · rcases hrun with ⟨a, hout, made, hsent, hdone⟩ | ⟨hout, -, made, hsent, hundone⟩
    · exact ⟨made, hsent, .inl ⟨a, hout, hdone⟩⟩
    · exact ⟨made, hsent, .inr ⟨hout, hundone⟩⟩
  · -- Between attempts nothing is sent.
    rintro w₁ w₂ ⟨hlist, made, hsent, hundone⟩ hidle
    exact ⟨by rw [hidle.worker_eq, hlist], made, by rw [sent_of_idled hidle, hsent], hundone⟩
  · -- An attempt that fails adds requests that did nothing.
    rintro n w₁ e w₂ ⟨hlist, made, hsent, hundone⟩ htry
    rcases brought n w₁ hlist with ⟨newer, hsent', hlist', hbrought⟩
    rw [htry] at hsent' hlist' hbrought
    exact ⟨hlist'.trans hlist, newer ++ made, by rw [hsent', hsent, List.append_assoc],
      Undone.append hbrought hundone⟩
  · -- One that succeeds adds the one that did, and is the last.
    rintro n w₁ a w₂ ⟨hlist, made, hsent, hundone⟩ htry
    rcases brought n w₁ hlist with ⟨newer, hsent', -, hbrought⟩
    rw [htry] at hsent' hbrought
    exact ⟨newer ++ made, by rw [hsent', hsent, List.append_assoc],
      Done.append hbrought hundone⟩
  · exact ⟨hw, [], rfl, undone_nil⟩

/-- What was brought about was brought about by requests for something, whether they
    were taken for done or not. -/
theorem of_brought {made : List Sent} {outcome : Outcome α}
    (h : (∃ a, outcome = .finished (.ok a) ∧ Done of a made) ∨
      (∀ a, outcome ≠ .finished (.ok a)) ∧ Undone of made) :
    ∀ x ∈ made, x.isEffect = true → ∃ a, of a x := by
  intro x hx heffect
  rcases h with ⟨a, -, latest, older, rfl, -, -, hof, hundone⟩ | ⟨-, hundone⟩
  · rcases List.mem_cons.mp hx with rfl | hx
    · exact ⟨a, hof⟩
    · exact (hundone x hx heffect).2
  · exact (hundone x hx heffect).2

/-- All requests of an acknowledging call that have an effect are for it, and
    all of a producing call that have one are for some identifier. Either call
    stops at the first of them that is answered with a status of success, and
    returns what that was for, if and only if none is answered with 204. -/
theorem once_iff (c : Client) (t : Transport τ) (rounds : Nat) (w : World (State τ)) :
    (∀ (reference : Reference) (options : List AckOption), ∃ made,
      (w.ack (outside c t) rounds reference options).2.outside.sent = made ++ w.outside.sent ∧
      (∀ x ∈ made, x.isEffect = true → x.GoesTo w.worker.endpoints.list
        ["workers", c.identity.workerId, "ack", reference.ackId]) ∧
      (Once (fun _ x => x.GoesTo w.worker.endpoints.list
          ["workers", c.identity.workerId, "ack", reference.ackId]) made
          (w.ack (outside c t) rounds reference options).1 ↔
        ∀ x ∈ made, x.isEffect = true → x.status? ≠ some 204)) ∧
    ∀ message : Message, ∃ made,
      (w.produce (outside c t) rounds message).2.outside.sent = made ++ w.outside.sent ∧
      (∀ x ∈ made, x.isEffect = true → ∃ eventId, x.GoesTo w.worker.endpoints.list
        ["flow", c.identity.flowId, "events", eventId]) ∧
      (Once (fun eventId x => x.GoesTo w.worker.endpoints.list
          ["flow", c.identity.flowId, "events", eventId]) made
          (w.produce (outside c t) rounds message).1 ↔
        ∀ x ∈ made, x.isEffect = true → x.status? ≠ some 204) := by
  refine ⟨fun reference options => ?_, fun message => ?_⟩
  · have hrun := @brought_run Unit (fun _ x => x.GoesTo w.worker.endpoints.list
        ["workers", c.identity.workerId, "ack", reference.ackId]) τ c t (w.scope .ack)
      (fun _ w => w.call (outside c t)
        (.acknowledge reference.ackId (Acknowledgment.ofOptions options)))
      w.worker.endpoints.list ?_ rounds w rfl
    · rcases hrun with ⟨made, hsent, hbrought⟩
      refine ⟨made, hsent, fun x hx heffect => ?_, once_iff_of_brought hbrought⟩
      rcases of_brought hbrought x hx heffect with ⟨-, hgoes⟩
      exact hgoes
    · intro n w₁ hlist
      rw [← hlist]
      exact brought_call (puts_acknowledge c reference.ackId _) (fun _ => ⟨(), rfl⟩)
        (fun _ => rfl) w₁
  · have hrun := @brought_run EventId (fun eventId x => x.GoesTo w.worker.endpoints.list
        ["flow", c.identity.flowId, "events", eventId]) τ c t (w.scope .produce)
      (World.produceAttempt (outside c t) message) w.worker.endpoints.list ?_ rounds w rfl
    · rcases hrun with ⟨made, hsent, hbrought⟩
      exact ⟨made, hsent, of_brought hbrought, once_iff_of_brought hbrought⟩
    · intro n w₁ hlist
      rw [← hlist]
      exact brought_produceAttempt c t message n w₁

/-- A transport that answers every request with 204. -/
def Transport.contentless : Transport Unit where
  exchange := fun _ _ => (⟨.ok ⟨204, []⟩, []⟩, ())
  wait := fun _ _ _ => ([], ())

/-- Two retries, and a single endpoint that answers with 204: the same
    acknowledgment is sent three times, though the first of them was answered
    with a status of success. -/
theorem not_once_contentless : ∃ w : World (State Unit),
    World.prepare (.retrying [.ofHost 'a'] 2) ⟨0, .empty⟩ ⟨(), []⟩ = .ok w ∧
    (w.ack (outside .plain .contentless) 3 ⟨"a", "e", none⟩ []).2.outside.sent.map
      (fun x => (x.isEffect, x.status?)) = [(true, some 204), (true, some 204), (true, some 204)] ∧
    ¬ Once (fun _ x => x.GoesTo w.worker.endpoints.list ["workers", "w", "ack", "a"])
      (w.ack (outside .plain .contentless) 3 ⟨"a", "e", none⟩ []).2.outside.sent
      (w.ack (outside .plain .contentless) 3 ⟨"a", "e", none⟩ []).1 := by
  refine ⟨_, rfl, rfl, ?_⟩
  intro honce
  rcases honce [_, _] _ [] rfl rfl rfl with ⟨hnil, -⟩
  exact absurd hnil (List.cons_ne_nil _ _)

end Http

end EventFlow
