import EventFlow.Proofs.Http.Failover

/-!
# Fetching and Acknowledging when Endpoints Fail

Where a call ends up that is made again after every error.

Fetching and acknowledging make a single request in each attempt, and every
request takes one turn in the rotation. A run whose attempts all failed so far
has therefore been to as many endpoints as it made attempts, in the order of
their turns, and none of them is healthy: this is `Missed`. A failing attempt
keeps it, with one endpoint more. As long as some endpoint is healthy, fewer
have been missed than there are, so the next attempt goes to one that was not
asked before.

Such a run cannot fail. With a retry for each endpoint but one, it would have
missed them all. So it succeeds, at the first healthy endpoint in the order of
turns, and its requests are those to the unhealthy ones before and the one to
this.

## Main definitions

* `Healthy`, `Unhealthy`: What an endpoint makes of requests.
* `Redundant`: Endpoints of which one is healthy.
* `InTurn`: What was sent went to one endpoint after the other.
* `Missed`: Where a run is whose attempts all failed.
* `FailedOver`: Where a run has ended.
* `Transport.answering`: A backend of which one host is down.

## Theorems

* `Missed.failed`: A failing attempt misses one endpoint more.
* `Missed.lt_size`: The healthy ones are never missed.
* `failedOver_run`: A call succeeds at the first healthy endpoint.
* `ok_at_first_healthy`: Fetching and acknowledging do.
-/

namespace EventFlow

namespace Http

variable {τ : Type} {c : Client} {t : Transport τ}

/-- An endpoint answers every request with 200, and every fetch with a message. What
    it answers may depend on its state, but not whether it does. -/
def Healthy (c : Client) (t : Transport τ) (endpoint : Url) : Prop :=
  ∀ (call : Call) (task : Task) (s : State τ), c.task call = .ok task → ∃ body,
    (send t (c.request (endpoint.extend task.segments) task) s).1.result = .ok ⟨200, body⟩ ∧
    ∀ eventId, call = .fetch eventId → (Message.ofBody? body).isSome = true

/-- An endpoint fails every request with some session error. It may be out of reach,
    or answer by a status that is none. -/
def Unhealthy (c : Client) (t : Transport τ) (endpoint : Url) : Prop :=
  ∀ (call : Call) (task : Task) (s : State τ), c.task call = .ok task →
    ∃ e, outcomeAt c t endpoint call task s = .error e

/-- Endpoints of which at least one is healthy and all others are unhealthy, and
    which can all have a turn before the counter wraps around. -/
structure Redundant (c : Client) (t : Transport τ) (e : Endpoints) : Prop where
  pool : ∀ endpoint ∈ e.list, Healthy c t endpoint ∨ Unhealthy c t endpoint
  healthy : ∃ endpoint ∈ e.list, Healthy c t endpoint
  unwrapped : e.position.toNat + e.size ≤ UInt64.size

/-- From the world `w` to the world `w'`, a task was sent to the next endpoints in
    turn, so many of them, and nothing else was sent. It is the places of the list
    that are named, as an endpoint may be in it twice. -/
def InTurn (c : Client) (task : Task) (w : World (State τ)) (picks : Nat)
    (w' : World (State τ)) : Prop :=
  ∃ made, w'.outside.sent = made ++ w.outside.sent ∧
    made.reverse.map Sent.request = (w.worker.endpoints.turns picks).map fun place =>
      c.request ((w.worker.endpoints.list.get place).extend task.segments) task

/-- What has come of a run that began in the world `w` and ended in `w'`: its
    last request was for the endpoint whose turn came after `picks` others, the
    first of them that is healthy, and none was asked twice. -/
structure FailedOver (c : Client) (t : Transport τ) (task : Task) (w : World (State τ))
    (picks : Nat) (w' : World (State τ)) : Prop where
  healthy : Healthy c t (w.worker.endpoints.nth (w.worker.endpoints.position.toNat + picks))
  unhealthy : ∀ k < picks,
    ¬ Healthy c t (w.worker.endpoints.nth (w.worker.endpoints.position.toNat + k))
  sent : InTurn c task w (picks + 1) w'
  most : picks + 1 ≤ w.worker.endpoints.size
  distinct : (w.worker.endpoints.turns (picks + 1)).Nodup

/-! ## Calls -/

variable {call : Call} {task : Task} {w w' : World (State τ)}

/-- Whether a request can be sent is the same for all endpoints: it depends on its
    time limit and on the name of the client. So one healthy endpoint is enough to
    know it of all. -/
theorem refusal_of_healthy {endpoint : Url} (h : Healthy c t endpoint)
    (written : c.task call = .ok task) (s : State τ) (url : Url) :
    refusal (c.request url task) = none := by
  rcases h call task s written with ⟨body, hresult, -⟩
  rw [send] at hresult
  cases hr : refusal (c.request (endpoint.extend task.segments) task) with
  | none => exact hr
  | some failure => simp only [hr, reduceCtorEq] at hresult

/-- A call that can be sent adds one request to the record, to the endpoint whose
    turn it is. -/
theorem sent_call (written : c.task call = .ok task)
    (sendable : ∀ url, refusal (c.request url task) = none) (w : World (State τ)) :
    ∃ result, (w.call (outside c t) call).2.outside.sent =
      ⟨c.request (w.worker.endpoints.current.extend task.segments) task, result⟩ ::
        w.outside.sent := by
  rw [(call_outside c t call w).2.2, call_of_task written]
  simp only [send, sendable]
  exact ⟨_, rfl⟩

/-- A call succeeds if it is answered as a healthy endpoint does. -/
def Servable (call : Call) : Prop :=
  ∀ body, (∀ eventId, call = .fetch eventId → (Message.ofBody? body).isSome = true) →
    ∃ a, interpret call (.ok body) = .ok a

/-- A fetch is answered well by a message. -/
theorem servable_fetch (eventId : EventId) : Servable (.fetch eventId) := by
  intro body h
  rcases Option.isSome_iff_exists.mp (h eventId rfl) with ⟨message, hmessage⟩
  exact ⟨message, by rw [interpret, hmessage]; rfl⟩

/-- An acknowledgment is answered well by anything that succeeds. -/
theorem servable_acknowledge (ackId : String) (acknowledgment : Acknowledgment) :
    Servable (.acknowledge ackId acknowledgment) :=
  fun _ _ => ⟨(), rfl⟩

/-- What a call comes to at a healthy endpoint. -/
theorem ok_of_healthy {endpoint : Url} (h : Healthy c t endpoint) (servable : Servable call)
    (written : c.task call = .ok task) (s : State τ) :
    ∃ a, outcomeAt c t endpoint call task s = .ok a := by
  rcases h call task s written with ⟨body, hresult, hbody⟩
  rw [outcomeAt, body_of_ok hresult]
  exact servable body hbody

/-! ## Attempts -/

/-- Where a run is that began in the world `w` and made so many attempts, all of
    which failed. Each has asked one endpoint, the next in turn, which was not
    healthy. -/
structure Missed (c : Client) (t : Transport τ) (task : Task) (w : World (State τ))
    (attempts : Nat) (w' : World (State τ)) : Prop where
  endpoints_eq : w'.worker.endpoints = w.worker.endpoints.later attempts
  unhealthy : ∀ k < attempts,
    ¬ Healthy c t (w.worker.endpoints.nth (w.worker.endpoints.position.toNat + k))
  sent : InTurn c task w attempts w'

variable {n : Nat}

/-- Between two attempts nothing is missed. -/
theorem Missed.idle {w'' : World (State τ)} (h : Missed c t task w n w')
    (hidle : Retry.Idled (outside c t) w' w'') : Missed c t task w n w'' where
  endpoints_eq := by rw [hidle.worker_eq, h.endpoints_eq]
  unhealthy := h.unhealthy
  sent := by
    rw [InTurn, sent_of_idled hidle]
    exact h.sent

/-- Whoever has missed so many endpoints has not missed all. -/
theorem Missed.lt_size (h : Missed c t task w n w') (redundant : Redundant c t w.worker.endpoints) :
    n < w.worker.endpoints.size := by
  rcases redundant.healthy with ⟨endpoint, hmem, hhealthy⟩
  rcases List.getElem_of_mem hmem with ⟨i, hi, rfl⟩
  rcases w.worker.endpoints.exists_turn w.worker.endpoints.position.toNat i with ⟨k, hk, hturn⟩
  -- The endpoint in question would have had its turn.
  refine Nat.lt_of_not_le fun hall => h.unhealthy k (Nat.lt_of_lt_of_le hk hall) ?_
  rw [Endpoints.nth_eq_of_mod_eq hturn]
  have hplace : i % w.worker.endpoints.size = i := Nat.mod_eq_of_lt hi
  simp only [Endpoints.nth, hplace]
  exact hhealthy

/-- The next endpoint is the one whose turn comes after those that were missed. The
    counter cannot have wrapped around before all had a turn. -/
theorem Missed.current_eq (h : Missed c t task w n w')
    (redundant : Redundant c t w.worker.endpoints) : w'.worker.endpoints.current =
      w.worker.endpoints.nth (w.worker.endpoints.position.toNat + n) := by
  have hlt := h.lt_size redundant
  have hwrap := redundant.unwrapped
  rw [h.endpoints_eq, Endpoints.current_later (by omega)]

/-- The next call adds its request to those of the attempts before, in turn. -/
theorem Missed.inTurn_call (h : Missed c t task w n w')
    (redundant : Redundant c t w.worker.endpoints) (written : c.task call = .ok task) :
    InTurn c task w (n + 1) (w'.call (outside c t) call).2 := by
  -- A request to a healthy endpoint can be sent, so this one can.
  rcases redundant.healthy with ⟨endpoint, -, hhealthy⟩
  rcases sent_call written (refusal_of_healthy hhealthy written w.outside) w' with ⟨result, hsent⟩
  rcases h.sent with ⟨made, hmade, hrequests⟩
  rw [hmade, h.current_eq redundant] at hsent
  refine ⟨_ :: made, hsent, ?_⟩
  rw [List.reverse_cons, List.map_append, hrequests, Endpoints.turns_succ, List.map_append]
  rfl

/-- A failing attempt has missed one endpoint more. -/
theorem Missed.failed {e : SessionError} {w'' : World (State τ)} (h : Missed c t task w n w')
    (redundant : Redundant c t w.worker.endpoints) (servable : Servable call)
    (written : c.task call = .ok task) (htry : w'.call (outside c t) call = (.error e, w'')) :
    Missed c t task w (n + 1) w'' := by
  have hresult := result_call (t := t) written w'
  have hmoved := endpoints_call (t := t) written w'
  have hsent := h.inTurn_call redundant written
  rw [htry] at hresult hmoved hsent
  rw [h.current_eq redundant] at hresult
  refine ⟨by rw [hmoved, h.endpoints_eq, Endpoints.advance_later], fun k hk => ?_, hsent⟩
  rcases Nat.lt_succ_iff_lt_or_eq.mp hk with hk | rfl
  · exact h.unhealthy k hk
  · intro hhealthy
    rcases ok_of_healthy hhealthy servable written w'.outside with ⟨a, hok⟩
    simp only [hok, reduceCtorEq] at hresult

/-- A successful attempt has met the first healthy endpoint. -/
theorem Missed.succeeded {a : call.Answer} {w'' : World (State τ)} (h : Missed c t task w n w')
    (redundant : Redundant c t w.worker.endpoints) (written : c.task call = .ok task)
    (htry : w'.call (outside c t) call = (.ok a, w'')) : FailedOver c t task w n w'' := by
  have hresult := result_call (t := t) written w'
  have hsent := h.inTurn_call redundant written
  rw [htry] at hresult hsent
  rw [h.current_eq redundant] at hresult
  have hlt := h.lt_size redundant
  refine ⟨?_, h.unhealthy, hsent, hlt, Endpoints.nodup_turns hlt⟩
  rcases redundant.pool _ (List.get_mem _ _) with hhealthy | hunhealthy
  · exact hhealthy
  · rcases hunhealthy call task w'.outside written with ⟨e, herror⟩
    exact absurd (hresult.trans herror) (by simp only [reduceCtorEq, not_false_eq_true])

/-! ## Runs -/

/-- A call that is made again after every error succeeds at the first healthy
    endpoint, if there may be a retry for each endpoint but one. -/
theorem failedOver_run (redundant : Redundant c t w.worker.endpoints)
    (servable : Servable call) (written : c.task call = .ok task) {operation : Operation}
    {rounds : Nat} (enough : w.worker.endpoints.size ≤ rounds)
    (allows : (w.worker.config.backoff.start w.scene.now).Allows
      (Retry.run (outside c t) rounds (w.scope operation)
        (fun _ w => w.call (outside c t) call) w).2.scene.now (w.worker.endpoints.size - 1))
    (calm : (Retry.run (outside c t) rounds (w.scope operation)
      (fun _ w => w.call (outside c t) call) w).2.scene.signals.isCancelled
        w.worker.shutdown = false) :
    (∃ a, (Retry.run (outside c t) rounds (w.scope operation)
      (fun _ w => w.call (outside c t) call) w).1 = .finished (.ok a)) ∧
    ∃ picks, FailedOver c t task w picks (Retry.run (outside c t) rounds (w.scope operation)
      (fun _ w => w.call (outside c t) call) w).2 := by
  have hran := Retry.ran_run (outside c t) rounds (w.scope operation)
    (fun _ w => w.call (outside c t) call) w
  have hsize := w.worker.endpoints.size_pos
  have hstart : Missed c t task w 0 (w.record (.start operation)) :=
    ⟨w.worker.endpoints.later_zero.symm, fun k hk => absurd hk (Nat.not_lt_zero k), [], rfl, rfl⟩
  -- `Missed` is what every failure adds to; it counts the attempts of the run.
  rcases hran.counted (P := Missed c t task w) (fun _ _ _ hmissed hidle => hmissed.idle hidle)
    (fun _ _ _ _ _ hmissed htry => hmissed.failed redundant servable written htry) hstart with
    ⟨a, init, last, hresult, -, hmissed, htry⟩ | ⟨hne, hmissed⟩
  · rw [hresult]
    exact ⟨⟨a, rfl⟩, _, hmissed.succeeded redundant written htry⟩
  · -- As many attempts were made as there are endpoints, so all of them were missed.
    have hmore := hran.persists rfl rfl (Nat.lt_of_lt_of_le (Nat.sub_lt hsize Nat.one_pos) enough)
      (fun init last htries hfew _ => hran.exists_answer
        (fun _ w => World.later_call (outside c t) call w) allows htries hfew)
      (Scene.check_eq_none.mpr ⟨calm, nofun⟩) hne
    have hless := hmissed.lt_size redundant
    omega

/-- Where some endpoint is healthy and all others fail every request, fetching and
    acknowledging succeed: if the policy allows a retry for each endpoint but one,
    the worker is not shut down meanwhile, and the acknowledgment can be written.
    The requests are made to the endpoints in turn, up to the first healthy one, and
    no two of them to the same place of the list. -/
theorem ok_at_first_healthy {w : World (State τ)} {rounds : Nat}
    (redundant : Redundant c t w.worker.endpoints)
    (enough : w.worker.endpoints.size ≤ rounds) :
    (∀ reference : Reference,
      (w.worker.config.backoff.start w.scene.now).Allows
        (w.get (outside c t) rounds reference).2.scene.now (w.worker.endpoints.size - 1) →
      (w.get (outside c t) rounds reference).2.scene.signals.isCancelled
        w.worker.shutdown = false →
      (∃ message, (w.get (outside c t) rounds reference).1 = .finished (.ok message)) ∧
      ∃ task picks, c.task (.fetch reference.eventId) = .ok task ∧
        FailedOver c t task w picks (w.get (outside c t) rounds reference).2) ∧
    ∀ (reference : Reference) (options : List AckOption),
      (Bytes.text? (Acknowledgment.ofOptions options).content).isSome = true →
      (w.worker.config.backoff.start w.scene.now).Allows
        (w.ack (outside c t) rounds reference options).2.scene.now
        (w.worker.endpoints.size - 1) →
      (w.ack (outside c t) rounds reference options).2.scene.signals.isCancelled
        w.worker.shutdown = false →
      (w.ack (outside c t) rounds reference options).1 = .finished (.ok ()) ∧
      ∃ task picks,
        c.task (.acknowledge reference.ackId (Acknowledgment.ofOptions options)) = .ok task ∧
        FailedOver c t task w picks (w.ack (outside c t) rounds reference options).2 := by
  refine ⟨fun reference allows calm => ?_, fun reference options content allows calm => ?_⟩
  · rcases failedOver_run redundant (servable_fetch reference.eventId) rfl enough allows calm with
      ⟨hout, picks, hpicks⟩
    exact ⟨hout, _, picks, rfl, hpicks⟩
  · rcases Option.isSome_iff_exists.mp content with ⟨text, htext⟩
    have hwritten : ∃ task,
        c.task (.acknowledge reference.ackId (Acknowledgment.ofOptions options)) = .ok task := by
      simp only [Client.task, Acknowledgment.body?, htext, Option.map_some]
      exact ⟨_, rfl⟩
    rcases hwritten with ⟨task, written⟩
    rcases failedOver_run redundant (servable_acknowledge reference.ackId _) written enough allows
      calm with ⟨⟨_, hout⟩, picks, hpicks⟩
    exact ⟨hout, task, picks, written, hpicks⟩

/-! ## A backend that partly answers -/

/-- A backend of which all hosts but one answer with an empty record, which is a
    message without content. -/
def Transport.answering (down : Url) : Transport Unit where
  exchange := fun request _ =>
    (⟨if request.url.authority = down.authority then .error .unreachable
      else .ok ⟨200, Bytes.ofText "\x7b\x7d"⟩, []⟩, ())
  wait := fun _ _ _ => ([], ())

theorem healthy_answering {down url : Url} (h : url.authority ≠ down.authority) :
    Healthy .plain (.answering down) url := by
  intro call task s _
  refine ⟨Bytes.ofText "\x7b\x7d", ?_, fun _ _ => by decide +kernel⟩
  rw [send_plain]
  exact if_neg h

theorem unhealthy_answering (down : Url) : Unhealthy .plain (.answering down) down := by
  intro call task s _
  have hbody : (send (.answering down) (Client.plain.request (down.extend task.segments) task)
      s).1.result = .error .unreachable := by
    rw [send_plain]
    exact if_pos rfl
  rw [outcomeAt, body_of_error hbody]
  cases call <;> exact ⟨_, rfl⟩

/-- Three endpoints, the first of which is down, and two retries. -/
theorem ok_at_first_healthy_second : ∃ w : World (State Unit),
    World.prepare (.retrying [.ofHost 'x', .ofHost 'a', .ofHost 'b'] 2) ⟨0, .empty⟩ ⟨(), []⟩ =
      .ok w ∧
    Unhealthy .plain (.answering (.ofHost 'x')) (.ofHost 'x') ∧
    (∃ message, (w.get (outside .plain (.answering (.ofHost 'x'))) 3 ⟨"a", "e", none⟩).1 =
      .finished (.ok message)) ∧
    (w.ack (outside .plain (.answering (.ofHost 'x'))) 3 ⟨"a", "e", none⟩ []).1 =
      .finished (.ok ()) := by
  have hx := unhealthy_answering (.ofHost 'x')
  have ha : Healthy .plain (.answering (.ofHost 'x')) (.ofHost 'a') :=
    healthy_answering (by decide)
  have hb : Healthy .plain (.answering (.ofHost 'x')) (.ofHost 'b') :=
    healthy_answering (by decide)
  have hredundant : Redundant .plain (.answering (.ofHost 'x'))
      ⟨[.ofHost 'x', .ofHost 'a', .ofHost 'b'], List.cons_ne_nil _ _, 0⟩ := by
    refine ⟨fun endpoint hmem => ?_, ⟨.ofHost 'a', .tail _ (.head _), ha⟩, by decide⟩
    simp only [List.mem_cons, List.not_mem_nil, or_false] at hmem
    rcases hmem with rfl | rfl | rfl
    · exact .inr hx
    · exact .inl ha
    · exact .inl hb
  have hallows : ∀ finish < Moment.horizon, (Generator.maxRetries .zero 2 0).Allows finish 2 :=
    fun finish hfinish => Generator.gives_maxRetries (Generator.gives_zero
      (fun now hnow => Retry.isSome_add?_zero (Nat.lt_of_le_of_lt hnow hfinish)) 2) (by decide)
  refine ⟨_, rfl, hx, ?_, ?_⟩
  · refine ((@ok_at_first_healthy Unit .plain (.answering (.ofHost 'x')) _ 3 hredundant
      (by decide)).1 ⟨"a", "e", none⟩ (hallows _ ?_) ?_).1
    · decide +kernel
    · decide +kernel
  · refine ((@ok_at_first_healthy Unit .plain (.answering (.ofHost 'x')) _ 3 hredundant
      (by decide)).2 ⟨"a", "e", none⟩ [] rfl (hallows _ ?_) ?_).1
    · decide +kernel
    · rfl

end Http

end EventFlow
