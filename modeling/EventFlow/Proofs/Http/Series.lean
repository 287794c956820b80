import EventFlow.Proofs.Http.Polling
import EventFlow.Proofs.Worker.Sessions
import EventFlow.Proofs.Worker.Unlinking

/-!
# Series of Requests

The requests that one operation sends over HTTP, in the order in which it sends
them.

`Polling` follows a claim that nothing gets in the way of, up to the error that it
reports. Here nothing is assumed of signals and deadlines, and little is said in
return: every request is one that the operation makes, there is no other after it
unless its answer is an error that is tried again after, and the operation
succeeds just if its last request was answered well. That is enough to put the
series of several operations behind each other, since whether the next one begins
is a question of that last answer.

An attempt that cannot be written or sent leaves no request. It fails all the same,
so there may be fewer requests than attempts, but the last attempt of an operation
that succeeds is always a request.

## Main definitions

* `Sent.answer`: What a call makes of an answer.
* `Sent.IsFor`, `Sent.IsClaim`: A request that makes a call.
* `Attempted`: A single attempt.
* `Series`: The requests of an operation.

## Theorems

* `attempted_call`: A call is one request at most.
* `series_of_run`: A loop of attempts.
* `exists_series_consume`, `exists_series_get`, `exists_series_ack`: The
  operations that deal with one unit of work.
-/

namespace EventFlow

namespace World

variable {σ : Type} {b : Outside σ} {w : World σ} {signal : SignalId}

/-- A claim without a loop asks nobody for anything and does not succeed. -/
theorem consumeWith_of_unlooped (rounds : Nat) (h : w.claimLoop? b signal = none) :
    (w.consumeWith b rounds signal).2.outside = w.outside ∧
      ∀ a, (w.consumeWith b rounds signal).1 ≠ .finished (.ok a) := by
  rw [claimLoop?] at h
  rw [consumeWith]
  cases hr : w.worker.reserve? with
  | none => exact ⟨rfl, fun a heq => by simp at heq⟩
  | some taken =>
      simp only [hr, Option.map_eq_none_iff] at h
      unfold claim
      simp only [deadline?_join hr, h]
      exact ⟨outside_conclude _ _, fun a heq => by simp at heq⟩

end World

namespace Http

variable {τ α : Type} {c : Client} {t : Transport τ}

/-! ## Requests for calls -/

namespace Sent

/-- What a call makes of the answer to its request. How long the answer took makes
    no difference to that. -/
def answer (call : Call) (x : Sent) : Except SessionError call.Answer :=
  interpret call (Exchange.body x.request ⟨x.result, []⟩)

/-- A request that makes a call at one of some endpoints. Which of them has its turn
    is left open here. -/
def IsFor (c : Client) (list : List Url) (call : Call) (x : Sent) : Prop :=
  ∃ endpoint ∈ list, ∃ task, c.task call = .ok task ∧
    x.request = c.request (endpoint.extend task.segments) task

/-- A request that asks one of some endpoints for work. Each has a budget of its
    own, as it has less time left than the one before. -/
def IsClaim (c : Client) (list : List Url) (x : Sent) : Prop :=
  ∃ budget, x.IsFor c list (.claim budget)

/-- A claim reads an answer in the same way whatever its budget is, so one reading
    serves the whole series. -/
theorem answer_claim {list : List Url} {budget : Option Span} {x : Sent}
    (h : x.IsFor c list (.claim budget)) : x.answer (.claim budget) = x.claimed := by
  rcases h with ⟨endpoint, -, task, written, addressed⟩
  obtain rfl := Except.ok.inj written
  exact interpret_claim budget (by rw [addressed]; rfl) ⟨x.result, []⟩

/-- What is tried again after is that there was nothing to claim. -/
theorem foundNothing_of_retried {x : Sent} {e : SessionError} (h : x.claimed = .error e)
    (retried : RetryClass.onlyNoWork.retries e = true) : x.foundNothing = true := by
  rcases of_claimed_error h with ⟨nothing, -⟩ | ⟨-, -, hother⟩
  · exact nothing
  · exact absurd (hother.symm.trans retried) Bool.false_ne_true

end Sent

/-! ## Attempts -/

variable {asks : Sent → Prop} {reads : Sent → Except SessionError α}

/-- What an attempt comes to in the world `w` that makes one call at most: what it
    sends is asked for by it, and is answered with what it returns. One that sends
    nothing fails. -/
inductive Attempted (asks : Sent → Prop) (reads : Sent → Except SessionError α)
    (w : World (State τ)) : Except SessionError α × World (State τ) → Prop where
  /-- Its request was sent. -/
  | answered (x : Sent) (w' : World (State τ)) (asked : asks x)
      (sent : w'.outside.sent = x :: w.outside.sent)
      (list_eq : w'.worker.endpoints.list = w.worker.endpoints.list) :
      Attempted asks reads w (reads x, w')
  /-- Nothing was sent. -/
  | withheld (e : SessionError) (w' : World (State τ))
      (sent : w'.outside.sent = w.outside.sent)
      (list_eq : w'.worker.endpoints.list = w.worker.endpoints.list) :
      Attempted asks reads w (.error e, w')

/-- An attempt that succeeded has sent the request that was answered so. -/
theorem Attempted.of_ok {w w' : World (State τ)} {a : α}
    (h : Attempted asks reads w (.ok a, w')) : ∃ x, asks x ∧ reads x = .ok a ∧
      w'.outside.sent = x :: w.outside.sent ∧
      w'.worker.endpoints.list = w.worker.endpoints.list := by
  generalize hresult : (Except.ok a : Except SessionError α) = result at h
  cases h with
  | answered x _ asked sent list_eq => exact ⟨x, asked, rfl, sent, list_eq⟩
  | withheld => exact absurd hresult (by simp)

/-- One that failed may have sent none. -/
theorem Attempted.of_error {w w' : World (State τ)} {e : SessionError}
    (h : Attempted asks reads w (.error e, w')) :
    w'.worker.endpoints.list = w.worker.endpoints.list ∧
      ((∃ x, asks x ∧ reads x = .error e ∧ w'.outside.sent = x :: w.outside.sent) ∨
        w'.outside.sent = w.outside.sent) := by
  generalize hresult : (Except.error e : Except SessionError α) = result at h
  cases h with
  | answered x _ asked sent list_eq => exact ⟨list_eq, .inl ⟨x, asked, rfl, sent⟩⟩
  | withheld _ _ sent list_eq => exact ⟨list_eq, .inr sent⟩

/-- A call is one request at most. -/
theorem attempted_call (c : Client) (t : Transport τ) (call : Call) (w : World (State τ)) :
    Attempted (Sent.IsFor c w.worker.endpoints.list call) (Sent.answer call) w
      (w.call (outside c t) call) := by
  rcases call_outside c t call w with ⟨hresult, hendpoints, houtside⟩
  have hasked := asked_call c t call w.outside w.worker.endpoints
  generalize w.call (outside c t) call = called at hresult hendpoints houtside
  rcases called with ⟨result, w'⟩
  simp only at hresult hendpoints houtside
  generalize c.call t call w.outside w.worker.endpoints = asked at *
  cases hasked with
  | unwritten error task =>
      rw [hresult]
      exact .withheld error w' (by rw [houtside]) (by rw [hendpoints])
  | refused task failure written refused =>
      -- A transport that refuses a request is an error to every call.
      have herror : ∃ e, interpret call (.error (.transport failure)) = .error e := by
        cases call <;> exact ⟨_, rfl⟩
      rcases herror with ⟨e, herror⟩
      rw [hresult, herror]
      exact .withheld e w' (by rw [houtside]) (by rw [hendpoints, Endpoints.list_advance])
  | sent task request written addressed =>
      rw [hresult]
      exact .answered ⟨request, (t.exchange request w.outside.transport).1.result⟩ w'
        ⟨_, w.worker.endpoints.current_mem, task, written, addressed⟩ (by rw [houtside])
        (by rw [hendpoints, Endpoints.list_advance])

/-! ## Loops -/

/-- An operation that begins in the world `w` sends these requests, in this order,
    and no others. -/
structure Series (asks : Sent → Prop) (reads : Sent → Except SessionError α)
    (retries : RetryClass) (w : World (State τ)) (made : List Sent)
    (result : Outcome α × World (State τ)) : Prop where
  sent_eq : result.2.outside.sent = made.reverse ++ w.outside.sent
  list_eq : result.2.worker.endpoints.list = w.worker.endpoints.list
  /-- The operation makes all of them. -/
  asked : ∀ x ∈ made, asks x
  /-- Each but the last was answered with an error that is tried again after. -/
  retried : ∀ x ∈ made.dropLast, ∃ e, reads x = .error e ∧ retries.retries e = true
  /-- The answer to the last one is the success of the operation. -/
  ok_iff : ∀ a, result.1 = .finished (.ok a) ↔ ∃ x, made.getLast? = some x ∧ reads x = .ok a

variable {retries : RetryClass} {w w' w'' : World (State τ)} {x : Sent} {made : List Sent}
  {e : SessionError} {result : Outcome α × World (State τ)}

/-- Without a request there is no success. -/
theorem Series.nil (sent : result.2.outside.sent = w.outside.sent)
    (list_eq : result.2.worker.endpoints.list = w.worker.endpoints.list)
    (hne : ∀ a, result.1 ≠ .finished (.ok a)) : Series asks reads retries w [] result where
  sent_eq := sent
  list_eq := list_eq
  asked := fun x hx => absurd hx List.not_mem_nil
  retried := fun x hx => absurd hx List.not_mem_nil
  ok_iff := fun a => ⟨fun heq => absurd heq (hne a), fun ⟨x, hx, _⟩ => by simp at hx⟩

/-- A single request, with what comes of its answer. -/
theorem Series.single (asked : asks x) (sent : result.2.outside.sent = x :: w.outside.sent)
    (list_eq : result.2.worker.endpoints.list = w.worker.endpoints.list)
    (ok_iff : ∀ a, result.1 = .finished (.ok a) ↔ reads x = .ok a) :
    Series asks reads retries w [x] result where
  sent_eq := sent
  list_eq := list_eq
  asked := fun y hy => by rwa [List.mem_singleton.mp hy]
  retried := fun y hy => absurd hy List.not_mem_nil
  ok_iff := fun a => (ok_iff a).trans
    ⟨fun h => ⟨x, rfl, h⟩, fun ⟨y, hy, hok⟩ => by obtain rfl := Option.some.inj hy; exact hok⟩

/-- A series goes on from wherever nothing was sent meanwhile, so attempts that send
    nothing leave no gap in it. -/
theorem Series.of_quiet (h : Series asks reads retries w' made result)
    (sent : w'.outside.sent = w.outside.sent)
    (list_eq : w'.worker.endpoints.list = w.worker.endpoints.list) :
    Series asks reads retries w made result where
  sent_eq := h.sent_eq.trans (by rw [sent])
  list_eq := h.list_eq.trans list_eq
  asked := h.asked
  retried := h.retried
  ok_iff := h.ok_iff

/-- And from a request whose error is tried again after. -/
theorem Series.cons (h : Series asks reads retries w' made result) (asked : asks x)
    (sent : w'.outside.sent = x :: w.outside.sent)
    (list_eq : w'.worker.endpoints.list = w.worker.endpoints.list) (failed : reads x = .error e)
    (again : retries.retries e = true) : Series asks reads retries w (x :: made) result where
  sent_eq := by
    rw [h.sent_eq, sent, List.reverse_cons, List.append_assoc, List.singleton_append]
  list_eq := h.list_eq.trans list_eq
  asked := fun y hy => by
    rcases List.mem_cons.mp hy with rfl | hy
    · exact asked
    · exact h.asked y hy
  retried := fun y hy => by
    -- If nothing follows, the operation has failed with this request; otherwise its last request
    -- is that of the rest.
    cases made with
    | nil => exact absurd hy List.not_mem_nil
    | cons z made =>
        rcases List.mem_cons.mp hy with rfl | hy
        · exact ⟨e, failed, again⟩
        · exact h.retried y hy
  ok_iff := fun a => by
    rw [h.ok_iff a]
    cases made with
    | nil => simp [failed]
    | cons z made => rw [List.getLast?_cons_cons]

/-- A request that is answered well is the last one, and what the operation was for.
    It cannot be one before, as those were answered with errors. -/
theorem Series.ok_of_mem (h : Series asks reads retries w made result) (hx : x ∈ made) {a : α}
    (hok : reads x = .ok a) : result.1 = .finished (.ok a) := by
  rcases List.eq_nil_or_concat' made with rfl | ⟨init, last, rfl⟩
  · exact absurd hx List.not_mem_nil
  rcases List.mem_append.mp hx with hx | hx
  · rcases h.retried x (by rwa [List.dropLast_concat]) with ⟨e, herror, -⟩
    exact absurd (herror.symm.trans hok) (by simp)
  · obtain rfl := List.mem_singleton.mp hx
    exact (h.ok_iff a).mpr ⟨x, List.getLast?_concat, hok⟩

section Loop

variable {scope : Scope}
  {attempt : UInt32 → World (State τ) → Except SessionError α × World (State τ)}
  {rounds : Nat} {round : Round} {tries : List (Attempt (State τ))} {list : List Url}

/-- After an attempt that failed, the wait and its end send nothing, and do not make
    a success of it. -/
theorem quiet_of_aftermath {next : Retry.Next α}
    (h : Retry.Aftermath (outside c t) scope round e w (next, w')) :
    w'.outside.sent = w.outside.sent ∧ w'.worker.endpoints.list = w.worker.endpoints.list ∧
      ∀ a, next ≠ .inl (.finished (.ok a)) := by
  rcases Retry.idled_of_aftermath h with ⟨hidle, hne⟩
  exact ⟨sent_of_idled hidle, by rw [hidle.worker_eq], hne⟩

/-- A loop sends the requests of its attempts, one after the other. -/
theorem series_of_ran
    (attempts : ∀ n w, w.worker.endpoints.list = list → Attempted asks reads w (attempt n w))
    (h : Retry.Ran (outside c t) scope attempt rounds round w tries result)
    (hlist : w.worker.endpoints.list = list) :
    ∃ made, Series asks reads scope.retries w made result := by
  -- By induction on the course of the loop: each attempt puts its request in front of those of
  -- the rest.
  induction h with
  | unfinished => exact ⟨[], .nil rfl rfl fun a => by simp⟩
  | interrupted => exact ⟨[], .nil rfl rfl fun a => by simp⟩
  | @succeeded rounds round w a w' _ tried =>
      have hattempted : Attempted asks reads w (.ok a, w') :=
        tried ▸ attempts round.attempt w hlist
      rcases hattempted.of_ok with ⟨x, asked, hreads, sent, list_eq⟩
      exact ⟨[x], .single asked sent list_eq fun a' => by simp [hreads]⟩
  | @ended rounds round w e w' outcome w'' _ tried after =>
      have hattempted : Attempted asks reads w (.error e, w') :=
        tried ▸ attempts round.attempt w hlist
      rcases quiet_of_aftermath after with ⟨hsent, hlast, hne⟩
      have hfailed : ∀ a, outcome ≠ .finished (.ok a) := fun a heq => hne a (congrArg Sum.inl heq)
      rcases hattempted.of_error with ⟨list_eq, ⟨x, asked, hreads, sent⟩ | sent⟩
      · exact ⟨[x], .single asked (hsent.trans sent) (hlast.trans list_eq) fun a => by
          simp [hreads, hfailed a]⟩
      · exact ⟨[], .nil (hsent.trans sent) (hlast.trans list_eq) hfailed⟩
  | @again rounds round w e w' next w'' rest result _ tried after ran ih =>
      have hattempted : Attempted asks reads w (.error e, w') :=
        tried ▸ attempts round.attempt w hlist
      rcases quiet_of_aftermath after with ⟨hsent, hlast, -⟩
      have hretried := (Retry.resumed_of_aftermath after).1
      rcases hattempted.of_error with ⟨list_eq, hattempt⟩
      rcases ih (hlast.trans (list_eq.trans hlist)) with ⟨made, hmade⟩
      rcases hattempt with ⟨x, asked, hreads, sent⟩ | sent
      · exact ⟨x :: made, hmade.cons asked (hsent.trans sent) (hlast.trans list_eq) hreads
          hretried⟩
      · exact ⟨made, hmade.of_quiet (hsent.trans sent) (hlast.trans list_eq)⟩

/-- A run sends the requests of its loop, as its beginning is noted in the trace
    only. -/
theorem series_of_run
    (attempts : ∀ n w, w.worker.endpoints.list = list → Attempted asks reads w (attempt n w))
    (rounds : Nat) (hlist : w.worker.endpoints.list = list) :
    ∃ made, Series asks reads scope.retries w made
      (Retry.run (outside c t) rounds scope attempt w) := by
  rcases series_of_ran attempts (Retry.ran_run (outside c t) rounds scope attempt w) hlist with
    ⟨made, hmade⟩
  exact ⟨made, hmade.of_quiet rfl rfl⟩

end Loop

/-! ## Operations -/

/-- No operation gives a worker other endpoints: neither a call nor anything else
    that a worker does. -/
theorem list_perform (c : Client) (t : Transport τ) (rounds : Nat) (action : Action)
    (w : World (State τ)) : (w.perform (outside c t) rounds action).2.worker.endpoints.list =
      w.worker.endpoints.list := by
  refine World.perform_keeps (P := fun v => v.worker.endpoints.list = w.worker.endpoints.list)
    (fun v v' h hrest => ?_) (fun call v h => ?_) rounds action rfl
  · rwa [hrest.endpoints]
  · have hattempted := attempted_call c t call v
    generalize v.call (outside c t) call = called at hattempted
    cases hattempted with
    | answered x v' asked sent list_eq => exact list_eq.trans h
    | withheld e v' sent list_eq => exact list_eq.trans h

/-- The requests of a claim ask for work, and nothing but the news that there is
    none is followed by another one. -/
theorem exists_series_consume (c : Client) (t : Transport τ) (rounds : Nat)
    (w : World (State τ)) : ∃ made,
    Series (Sent.IsClaim c w.worker.endpoints.list) Sent.claimed .onlyNoWork w made
      (w.consume (outside c t) rounds) := by
  have hlist := list_perform c t rounds .consume w
  cases hloop : w.loop? (outside c t) .consume with
  | none =>
      rcases World.consumeWith_of_unlooped rounds hloop with ⟨houtside, hne⟩
      exact ⟨[], .nil (congrArg State.sent houtside) hlist hne⟩
  | some l =>
      have hretries := (World.begun_of_loop? hloop).retries_eq
      rcases @World.claims_of_loop? _ _ rounds _ _ _ rfl hloop with
        ⟨scope, deadline, start, rfl, -, hendpoints, houtside, hresult, hafter⟩
      -- A request for work asks so with the budget that its attempt has worked out.
      have hattempts : ∀ (n : UInt32) (v : World (State τ)),
          v.worker.endpoints.list = w.worker.endpoints.list →
          Attempted (Sent.IsClaim c w.worker.endpoints.list) Sent.claimed v
            (World.claimAttempt (outside c t) deadline n v) := by
        intro n v hv
        have hattempted := attempted_call c t (.claim (World.budget v.scene.now deadline)) v
        unfold World.claimAttempt
        generalize v.call (outside c t) _ = called at hattempted
        cases hattempted with
        | answered x v' asked sent list_eq =>
            rw [Sent.answer_claim asked]
            exact .answered x v' ⟨_, hv ▸ asked⟩ sent list_eq
        | withheld e v' sent list_eq => exact .withheld e v' sent list_eq
      have hmade : ∃ made, Series _ Sent.claimed scope.retries start made
          (Retry.run (outside c t) rounds scope (World.claimAttempt (outside c t) deadline)
            start) :=
        series_of_run hattempts rounds (congrArg Endpoints.list hendpoints)
      rcases hmade with ⟨made, hmade⟩
      have hsent : (w.consume (outside c t) rounds).2.outside.sent =
          made.reverse ++ w.outside.sent := by
        rw [← houtside, ← hmade.sent_eq]
        exact congrArg State.sent hafter
      refine ⟨made, hsent, hlist, hmade.asked, ?_, fun a => ?_⟩
      · have hall := hmade.retried
        rwa [hretries] at hall
      · rw [← hmade.ok_iff a, ← Result.consumed.inj hresult]
        rfl

/-- A loop that makes the same call until it is answered well, as fetching and
    acknowledging do. -/
theorem exists_series_calls (c : Client) (t : Transport τ) (call : Call) (scope : Scope)
    (rounds : Nat) (w : World (State τ)) : ∃ made,
    Series (Sent.IsFor c w.worker.endpoints.list call) (Sent.answer call) scope.retries w made
      (Retry.run (outside c t) rounds scope (fun _ v => v.call (outside c t) call) w) :=
  series_of_run (fun _ v hv => hv ▸ attempted_call c t call v) rounds rfl

/-- The requests of a fetch ask for one event. -/
theorem exists_series_get (c : Client) (t : Transport τ) (rounds : Nat) (reference : Reference)
    (w : World (State τ)) : ∃ made,
    Series (Sent.IsFor c w.worker.endpoints.list (.fetch reference.eventId))
      (Sent.answer (.fetch reference.eventId)) .allErrors w made
      (w.get (outside c t) rounds reference) :=
  exists_series_calls c t _ (w.scope .get) rounds w

/-- The requests of a settlement settle one unit of work. -/
theorem exists_series_ack (c : Client) (t : Transport τ) (rounds : Nat) (reference : Reference)
    (options : List AckOption) (w : World (State τ)) : ∃ made,
    Series (Sent.IsFor c w.worker.endpoints.list
        (.acknowledge reference.ackId (.ofOptions options)))
      (Sent.answer (.acknowledge reference.ackId (.ofOptions options))) .allErrors w made
      (w.ack (outside c t) rounds reference options) :=
  exists_series_calls c t _ (w.scope .ack) rounds w

end Http

end EventFlow
