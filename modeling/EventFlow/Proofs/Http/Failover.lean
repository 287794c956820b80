import EventFlow.Proofs.Http.Requests
import EventFlow.Proofs.Message.Bodies
import EventFlow.Proofs.Worker.Retries

/-!
# Producing when Endpoints Fail

Whether producing gets past endpoints that are down.

An attempt to produce makes two requests, and each takes a turn in the
rotation. If the first one fails, the attempt is over and the rotation has
moved on by one; if the second one fails, it has moved on by two. An attempt
therefore succeeds only where two endpoints in a row serve, and a failing one
steps over at least one endpoint and never over such a pair: `Passed` says that
none was stepped over since the run began. It is kept by every failing attempt,
so a run that fails often enough has been all the way round and there is no
such pair at all.

`produce_ok_iff` puts both directions together: a run with retries enough
succeeds if and only if some endpoint that serves is followed by another one
that does. With a single endpoint it is followed by itself. Endpoints that
serve but stand alone do not help, however many there are and however often
they are tried.

## Main definitions

* `Serves`, `Fails`: What an endpoint makes of requests.
* `Tried`: What an attempt can do.
* `Passed`, `Landed`: How far failed attempts and a successful one have come.
* `Transport.without`: A backend of which one host is down.

## Theorems

* `tried_produceAttempt`: An attempt does nothing else.
* `passed_of_failed`, `landed_of_succeeded`: A failing attempt steps over no
  pair that serves, and a successful one meets such a pair.
* `passed_or_landed_produce`: What a run has come to.
* `produce_ok_iff`: When producing succeeds.
-/

namespace EventFlow

namespace Http

variable {τ : Type} {c : Client} {t : Transport τ}

/-- An endpoint answers every POST with 200 and an event id, and every PUT with 200.
    It does so whatever it was asked before, and whatever the others were. -/
structure Serves (c : Client) (t : Transport τ) (endpoint : Url) : Prop where
  posts : ∀ (task : Task) (s : State τ), task.method = .post →
    ∃ body, (send t (c.request (endpoint.extend task.segments) task) s).1.result =
      .ok ⟨200, body⟩ ∧ EventId.ofBody? body ≠ none
  puts : ∀ (task : Task) (s : State τ), task.method = .put →
    ∃ body, (send t (c.request (endpoint.extend task.segments) task) s).1.result =
      .ok ⟨200, body⟩

/-- An endpoint answers no request. -/
def Fails (c : Client) (t : Transport τ) (endpoint : Url) : Prop :=
  ∀ (task : Task) (s : State τ), ∃ failure,
    (send t (c.request (endpoint.extend task.segments) task) s).1.result = .error failure

/-- No endpoint does both. One request is enough to tell, as either is said of all
    of them. -/
theorem not_serves_of_fails {endpoint : Url} (h : Fails c t endpoint) (s : State τ) :
    ¬ Serves c t endpoint := by
  intro hserves
  rcases h ⟨.put, [], none, none⟩ s with ⟨failure, hfailure⟩
  rcases hserves.puts ⟨.put, [], none, none⟩ s rfl with ⟨body, hbody⟩
  rw [hfailure] at hbody
  exact absurd hbody (by simp only [reduceCtorEq, not_false_eq_true])

/-! ## Calls -/

theorem body_of_ok {request : Request} {exchange : Exchange} {body : Bytes}
    (h : exchange.result = .ok ⟨200, body⟩) : exchange.body request = .ok body := by
  rw [Exchange.body, h]
  rfl

theorem body_of_error {request : Request} {exchange : Exchange} {failure : TransferFailure}
    (h : exchange.result = .error failure) :
    exchange.body request = .error (.transport failure) := by
  rw [Exchange.body, h]

/-- Where the endpoint serves whose turn it is, there is an identifier. -/
theorem reserve_of_serves {w : World (State τ)}
    (h : Serves c t w.worker.endpoints.current) :
    ∃ eventId, (w.call (outside c t) .reserve).1 = .ok eventId := by
  rcases h.posts ⟨.post, ["flow", c.identity.flowId, "events"], some [], none⟩ w.outside rfl with
    ⟨body, hbody, hid⟩
  rw [result_call rfl, outcomeAt, body_of_ok hbody, interpret]
  cases hbody' : EventId.ofBody? body with
  | none => exact absurd hbody' hid
  | some eventId => exact ⟨eventId, rfl⟩

/-- Where it is down, there is none. -/
theorem reserve_of_fails {w : World (State τ)}
    (h : Fails c t w.worker.endpoints.current) :
    ∃ e, (w.call (outside c t) .reserve).1 = .error e := by
  rcases h ⟨.post, ["flow", c.identity.flowId, "events"], some [], none⟩ w.outside with
    ⟨failure, hfailure⟩
  rw [result_call rfl, outcomeAt, body_of_error hfailure]
  exact ⟨_, rfl⟩

/-- A message with a body is submitted by a PUT. -/
theorem task_submit {message : Message} {body : Bytes} (content : message.body? = some body)
    (c : Client) (eventId : EventId) :
    c.task (.submit eventId message) =
      .ok ⟨.put, ["flow", c.identity.flowId, "events", eventId], some body, none⟩ := by
  simp only [Client.task, content]

/-- Where the endpoint serves, the submission is taken. -/
theorem submit_of_serves {message : Message} {body : Bytes} (content : message.body? = some body)
    (eventId : EventId) {w : World (State τ)} (h : Serves c t w.worker.endpoints.current) :
    (w.call (outside c t) (.submit eventId message)).1 = .ok () := by
  rcases h.puts ⟨.put, ["flow", c.identity.flowId, "events", eventId], some body, none⟩
    w.outside rfl with ⟨answer, hanswer⟩
  rw [result_call (task_submit content c eventId), outcomeAt, body_of_ok hanswer]
  rfl

/-- Where it is down, the submission fails, and the attempt has taken two turns for
    nothing. -/
theorem submit_of_fails {message : Message} {body : Bytes} (content : message.body? = some body)
    (eventId : EventId) {w : World (State τ)} (h : Fails c t w.worker.endpoints.current) :
    ∃ e, (w.call (outside c t) (.submit eventId message)).1 = .error e := by
  rcases h ⟨.put, ["flow", c.identity.flowId, "events", eventId], some body, none⟩
    w.outside with ⟨failure, hfailure⟩
  rw [result_call (task_submit content c eventId), outcomeAt, body_of_error hfailure]
  exact ⟨_, rfl⟩

/-! ## Attempts -/

/-- What an attempt to produce can do that begins with the endpoints `e`. -/
inductive Tried (c : Client) (t : Transport τ) (e : Endpoints) :
    Except SessionError EventId × World (State τ) → Prop where
  /-- The first endpoint is down. -/
  | down (error : SessionError) (w : World (State τ)) (fails : Fails c t e.current)
      (moved : w.worker.endpoints = e.advance) : Tried c t e (.error error, w)
  /-- The first endpoint serves, but the second one is down. -/
  | alone (error : SessionError) (w : World (State τ)) (fails : Fails c t e.advance.current)
      (moved : w.worker.endpoints = e.advance.advance) : Tried c t e (.error error, w)
  /-- Both endpoints serve. -/
  | served (eventId : EventId) (w : World (State τ)) (first : Serves c t e.current)
      (second : Serves c t e.advance.current)
      (moved : w.worker.endpoints = e.advance.advance) : Tried c t e (.ok eventId, w)

/-- An attempt to produce goes in one of these ways, if each endpoint either serves
    or fails. -/
theorem tried_produceAttempt {message : Message} {body : Bytes}
    (content : message.body? = some body) (n : UInt32) {w : World (State τ)}
    (pool : ∀ endpoint ∈ w.worker.endpoints.list, Serves c t endpoint ∨ Fails c t endpoint) :
    Tried c t w.worker.endpoints (World.produceAttempt (outside c t) message n w) := by
  have hmoved := @endpoints_call τ c t .reserve _ rfl w
  -- The first endpoint decides whether there is a second request at all.
  rcases pool _ w.worker.endpoints.current_mem with hfirst | hfirst
  · rcases reserve_of_serves hfirst with ⟨eventId, hid⟩
    rcases World.produceAttempt_eq (outside c t) message n w with
      ⟨e, w₁, hr, -⟩ | ⟨eventId', w₁, hr, hp⟩
    · simp only [hr, reduceCtorEq] at hid
    · rw [hr] at hmoved
      simp only at hmoved
      have hmoved' := @endpoints_call τ c t _ _ (task_submit content c eventId') w₁
      rw [hmoved] at hmoved'
      rw [hp]
      rcases pool _ w.worker.endpoints.advance.current_mem with hsecond | hsecond
      · have hsubmit := submit_of_serves content eventId' (hmoved.symm ▸ hsecond)
        rw [hsubmit]
        exact .served eventId' _ hfirst hsecond hmoved'
      · rcases submit_of_fails content eventId' (hmoved.symm ▸ hsecond) with ⟨e, hsubmit⟩
        rw [hsubmit]
        exact .alone e _ hsecond hmoved'
  · rcases reserve_of_fails hfirst with ⟨e, he⟩
    rcases World.produceAttempt_eq (outside c t) message n w with
      ⟨e', w₁, hr, hp⟩ | ⟨eventId, w₁, hr, -⟩
    · rw [hr] at hmoved
      rw [hp]
      exact .down e' w₁ hfirst hmoved
    · simp only [hr, reduceCtorEq] at he

/-- The endpoints that failed attempts have stepped over, none of which was
    followed by another while both serve. The counter must not have wrapped
    around, since that breaks the order of turns. -/
def Passed (c : Client) (t : Transport τ) (e : Endpoints) (failures : Nat)
    (w : World (State τ)) : Prop :=
  ∃ picks, failures ≤ picks ∧ picks ≤ 2 * failures ∧ w.worker.endpoints = e.later picks ∧
    (e.position.toNat + picks < UInt64.size → ∀ k < picks,
      ¬ (Serves c t (e.nth (e.position.toNat + k)) ∧
        Serves c t (e.nth (e.position.toNat + k + 1))))

/-- A failing attempt steps over no pair that serves: it steps over one endpoint
    that is down, or over one that serves and the one behind it that is down. -/
theorem passed_of_failed {e : Endpoints} {failures : Nat}
    {w w' : World (State τ)}
    {error : SessionError} (h : Passed c t e failures w)
    (tried : Tried c t w.worker.endpoints (.error error, w')) :
    Passed c t e (failures + 1) w' := by
  rcases h with ⟨picks, hle, hge, hw, hnone⟩
  rw [hw] at tried
  cases tried with
  | down _ _ fails moved =>
      -- The endpoint stepped over is the one that is down.
      refine ⟨picks + 1, by omega, by omega, moved.trans (e.advance_later picks), ?_⟩
      intro hlt k hk
      rcases Nat.lt_succ_iff_lt_or_eq.mp hk with hk | rfl
      · exact hnone (by omega) k hk
      · rw [Endpoints.current_later (by omega)] at fails
        exact fun hserves => not_serves_of_fails fails w.outside hserves.1
  | alone _ _ fails moved =>
      -- The second endpoint is down, so neither it nor the one before it begins a pair.
      rw [Endpoints.advance_later] at fails moved
      refine ⟨picks + 2, by omega, by omega, moved.trans (e.advance_later (picks + 1)), ?_⟩
      intro hlt k hk
      rw [Endpoints.current_later (by omega)] at fails
      have hfails := not_serves_of_fails fails w.outside
      by_cases hk' : k < picks
      · exact hnone (by omega) k hk'
      · by_cases heq : k = picks
        · subst heq
          exact fun hserves => hfails hserves.2
        · obtain rfl : k = picks + 1 := by omega
          exact fun hserves => hfails hserves.1

/-- The endpoints that a successful attempt has met, after those that failed
    ones have stepped over, both serve. -/
def Landed (c : Client) (t : Transport τ) (e : Endpoints) (failures : Nat)
    (w : World (State τ)) : Prop :=
  ∃ picks, picks ≤ 2 * failures ∧ w.worker.endpoints = e.later (picks + 2) ∧
    (e.position.toNat + (picks + 2) < UInt64.size →
      Serves c t (e.nth (e.position.toNat + picks)) ∧
        Serves c t (e.nth (e.position.toNat + picks + 1)))

/-- A successful attempt meets two endpoints in a row that serve, and no later than
    the retries allow. -/
theorem landed_of_succeeded {e : Endpoints} {failures limit : Nat} {w w' : World (State τ)}
    {eventId : EventId} (hle : failures ≤ limit) (h : Passed c t e failures w)
    (tried : Tried c t w.worker.endpoints (.ok eventId, w')) : Landed c t e limit w' := by
  rcases h with ⟨picks, -, hge, hw, -⟩
  rw [hw] at tried
  cases tried with
  | served _ _ first second moved =>
      rw [Endpoints.advance_later] at second moved
      refine ⟨picks, by omega, moved.trans (e.advance_later (picks + 1)), fun hlt => ?_⟩
      rw [Endpoints.current_later (by omega)] at first second
      exact ⟨first, second⟩

/-! ## Runs -/

/-- Waiting steps over nothing. -/
theorem Passed.idle {e : Endpoints} {failures : Nat} {w w' : World (State τ)}
    (h : Passed c t e failures w) (hidle : Retry.Idled (outside c t) w w') :
    Passed c t e failures w' := by
  rw [Passed, hidle.worker_eq]
  exact h

/-- A worker with this backoff retries all but claims at once, and so many times. -/
theorem counts_scope {w : World (State τ)} {limit : Nat}
    (backoff : w.worker.config.backoff = .maxRetries .zero limit) (operation : Operation) :
    (w.scope operation).Counts limit :=
  ⟨rfl, backoff, rfl⟩

/-- What a producing run has come to: its last attempt met two endpoints that
    serve, or it went past more endpoints than it has retries without meeting
    two, or it was halted. -/
theorem passed_or_landed_produce {w : World (State τ)} {message : Message} {body : Bytes}
    {limit rounds : Nat} (content : message.body? = some body)
    (pool : ∀ endpoint ∈ w.worker.endpoints.list, Serves c t endpoint ∨ Fails c t endpoint)
    (backoff : w.worker.config.backoff = .maxRetries .zero limit) (allowed : limit < rounds) :
    (∃ eventId, (w.produce (outside c t) rounds message).1 = .finished (.ok eventId) ∧
      Landed c t w.worker.endpoints limit (w.produce (outside c t) rounds message).2) ∨
    (∀ eventId, (w.produce (outside c t) rounds message).1 ≠ .finished (.ok eventId)) ∧
      (Passed c t w.worker.endpoints (limit + 1) (w.produce (outside c t) rounds message).2 ∨
        (w.produce (outside c t) rounds message).2.Halted (w.scope .produce)) := by
  -- The rotation has moved on, but its endpoints are the same, so each attempt has the same
  -- choices.
  have htried : ∀ failures n (w₁ : World (State τ)) result,
      Passed c t w.worker.endpoints failures w₁ →
      World.produceAttempt (outside c t) message n w₁ = result →
      Tried c t w₁.worker.endpoints result := by
    rintro failures n w₁ result ⟨picks, -, -, hw₁, -⟩ rfl
    refine tried_produceAttempt content n ?_
    rw [hw₁]
    exact pool
  refine @Retry.run_retries (State τ) EventId (outside c t) (w.scope .produce) limit
    (World.produceAttempt (outside c t) message) (Passed c t w.worker.endpoints)
    (fun _ => Landed c t w.worker.endpoints limit) (counts_scope backoff .produce) rounds allowed w
    (fun n w₁ w₂ hpassed hidle => hpassed.idle hidle) ?_ ?_ ?_
  · intro n i w₁ e w₂ hpassed htry
    exact passed_of_failed hpassed (htried n i w₁ _ hpassed htry)
  · intro n i w₁ eventId w₂ hn hpassed htry
    exact landed_of_succeeded hn hpassed (htried n i w₁ _ hpassed htry)
  · exact ⟨0, Nat.le_refl 0, Nat.le_refl 0, w.worker.endpoints.later_zero.symm,
      fun _ k hk => absurd hk (Nat.not_lt_zero k)⟩

/-- UTF-8 content has a body. -/
theorem body?_of_text {message : Message} (h : (Bytes.text? message.content).isSome = true) :
    ∃ body, message.body? = some body := by
  rcases Option.isSome_iff_exists.mp h with ⟨content, hcontent⟩
  rw [Message.body?, hcontent]
  exact ⟨_, rfl⟩

/-- A run that was not shut down and did not outlast the clock has come to no halt. -/
theorem not_halted {w w' : World (State τ)} {operation : Operation}
    (calm : w'.scene.signals.isCancelled w.worker.shutdown = false)
    (shown : w'.scene.now < Moment.horizon) : ¬ w'.Halted (w.scope operation) := by
  rintro (hcheck | hlate)
  · exact hcheck (Signals.check_eq_none.mpr ⟨calm, rfl⟩)
  · exact absurd shown (Nat.not_lt.mpr hlate)

/-! ## A backend that partly serves -/

/-- A backend of which all hosts but one answer, and every POST by an event id that
    was not given before. The state is the number of the ids that were given. -/
def Transport.without (down : Url) : Transport Nat where
  exchange := fun request count =>
    if request.url.authority = down.authority then (⟨.error .unreachable, []⟩, count)
    else (⟨.ok ⟨200, Bytes.ofText (String.ofList (List.replicate (count + 1) 'e'))⟩, []⟩, count + 1)
  wait := fun _ _ count => ([], count)

/-- Those identifiers are read as they were given. -/
theorem ofBody?_replicate (n : Nat) :
    EventId.ofBody? (Bytes.ofText (String.ofList (List.replicate (n + 1) 'e'))) ≠ none := by
  have hword : EventId.IsWord (String.ofList (List.replicate (n + 1) 'e')) := by
    unfold EventId.IsWord
    rw [String.toList_ofList]
    refine ⟨List.cons_ne_nil _ _, fun ch hch => .inl ?_⟩
    rw [List.eq_of_mem_replicate hch]
    rfl
  rw [hword.ofBody?_ofText]
  exact Option.some_ne_none _

theorem limitNanos_le (limit : Span) (budget : Option Span) :
    limitNanos limit budget ≤ max limit.nanos 1_000_000 := by
  unfold limitNanos
  cases budget with
  | none => exact Nat.le_refl _
  | some budget =>
      simp only
      omega

/-- The requests of the plain client can be sent: five seconds are not too long, and
    its name has no zero in it. -/
theorem refusal_plain (url : Url) (task : Task) :
    refusal (Client.plain.request url task) = none := by
  have hle := limitNanos_le Config.defaultHttpTimeout task.budget
  have hmax : max Config.defaultHttpTimeout.nanos 1_000_000 = 5_000_000_000 := rfl
  have htimeout : ¬ maxTimeoutMillis < (Client.plain.request url task).timeoutMillis := by
    change ¬ 0x7fff_ffff_ffff_ffff < limitNanos Config.defaultHttpTimeout task.budget / 1_000_000
    omega
  have hagent : ¬ Config.defaultUserAgent.toList.contains '\x00' = true := by decide
  rw [refusal, if_neg htimeout]
  exact if_neg hagent

/-- What comes of a request of the plain client is up to the transport. -/
theorem send_plain (t : Transport τ) (url : Url) (task : Task) (s : State τ) :
    (send t (Client.plain.request url task) s).1 =
      (t.exchange (Client.plain.request url task) s.transport).1 := by
  simp only [send, refusal_plain]

theorem send_without (down url : Url) (task : Task) (s : State Nat) :
    (send (.without down) (Client.plain.request (url.extend task.segments) task) s).1.result =
      if url.authority = down.authority then .error .unreachable
      else .ok ⟨200, Bytes.ofText (String.ofList (List.replicate (s.transport + 1) 'e'))⟩ := by
  rw [send_plain]
  simp only [Transport.without]
  change (ite (url.authority = down.authority) _ _ : Exchange × Nat).1.result = _
  by_cases h : url.authority = down.authority
  · rw [if_pos h, if_pos h]
  · rw [if_neg h, if_neg h]

theorem serves_without {down url : Url} (h : url.authority ≠ down.authority) :
    Serves .plain (.without down) url := by
  refine ⟨fun task s _ => ?_, fun task s _ => ?_⟩
  · rw [send_without, if_neg h]
    exact ⟨_, rfl, ofBody?_replicate s.transport⟩
  · rw [send_without, if_neg h]
    exact ⟨_, rfl⟩

theorem fails_without (down : Url) : Fails .plain (.without down) down := by
  intro task s
  rw [send_without, if_pos rfl]
  exact ⟨_, rfl⟩

/-! ## When producing succeeds -/

/-- Where every endpoint either serves or fails, a message that can be written
    is produced if and only if an endpoint that serves is followed by another
    one that does, wherever the rotation starts: given two retries for each
    endpoint, made at once, and a run that was not shut down, did not outlast
    the clock, and whose counter did not wrap around. -/
theorem produce_ok_iff {w : World (State τ)} {message : Message} {limit : UInt32} {rounds : Nat}
    (pool : ∀ endpoint ∈ w.worker.endpoints.list, Serves c t endpoint ∨ Fails c t endpoint)
    (content : (Bytes.text? message.content).isSome = true)
    (backoff : w.worker.config.backoff = .maxRetries .zero limit.toNat)
    (enough : 2 * w.worker.endpoints.size ≤ limit.toNat) (allowed : limit.toNat < rounds)
    (calm : (w.produce (outside c t) rounds message).2.scene.signals.isCancelled
      w.worker.shutdown = false)
    (shown : (w.produce (outside c t) rounds message).2.scene.now < Moment.horizon)
    (unwrapped : w.worker.endpoints.position ≤
      (w.produce (outside c t) rounds message).2.worker.endpoints.position) :
    (∃ eventId, (w.produce (outside c t) rounds message).1 = .finished (.ok eventId)) ↔
      ∃ n < w.worker.endpoints.size, Serves c t (w.worker.endpoints.nth n) ∧
        Serves c t (w.worker.endpoints.nth (n + 1)) := by
  have hlimit := limit.toNat_lt
  have hsize : UInt64.size = 0x1_0000_0000_0000_0000 := rfl
  rcases body?_of_text content with ⟨body, hbody⟩
  have hrun := @passed_or_landed_produce τ c t w message body limit.toNat rounds hbody pool
    backoff allowed
  constructor
  · -- A success has met a pair, at a turn that is counted from where the rotation stood.
    rintro ⟨eventId, hout⟩
    rcases hrun with ⟨-, -, picks, hle, hmoved, hserves⟩ | ⟨hne, -⟩
    · rw [hmoved] at unwrapped
      rcases hserves (Endpoints.add_lt_of_le_later (by omega) unwrapped) with ⟨hfirst, hsecond⟩
      refine ⟨(w.worker.endpoints.position.toNat + picks) % w.worker.endpoints.size,
        Nat.mod_lt _ w.worker.endpoints.size_pos, ?_, ?_⟩
      · rwa [Endpoints.nth_eq_of_mod_eq (Nat.mod_mod _ _)]
      · rwa [Endpoints.nth_add_eq_of_mod_eq (Nat.mod_mod _ _)]
    · exact absurd hout (hne eventId)
  · rintro ⟨n, -, hfirst, hsecond⟩
    rcases hrun with ⟨eventId, hout, -⟩ | ⟨-, ⟨picks, hle, hge, hmoved, hnone⟩ | hhalted⟩
    · exact ⟨eventId, hout⟩
    · -- So many endpoints were passed that each has had its turn, this pair included.
      rcases w.worker.endpoints.exists_turn w.worker.endpoints.position.toNat n with ⟨k, hk, hturn⟩
      rw [hmoved] at unwrapped
      have hpassed := hnone (Endpoints.add_lt_of_le_later (by omega) unwrapped) k (by omega)
      refine absurd ⟨?_, ?_⟩ hpassed
      · rwa [Endpoints.nth_eq_of_mod_eq hturn]
      · rwa [Endpoints.nth_add_eq_of_mod_eq hturn]
    · exact absurd hhalted (not_halted calm shown)

/-- Three endpoints, the first of which is down, and six retries. -/
theorem produce_ok_iff_first_down : ∃ w : World (State Nat),
    World.prepare (.retrying [.ofHost 'x', .ofHost 'a', .ofHost 'b'] 6) ⟨0, .empty⟩ ⟨0, []⟩ =
      .ok w ∧
    Fails .plain (.without (.ofHost 'x')) (.ofHost 'x') ∧
    ∃ eventId, (w.produce (outside .plain (.without (.ofHost 'x'))) 7 .empty).1 =
      .finished (.ok eventId) := by
  have hx := fails_without (.ofHost 'x')
  have ha : Serves .plain (.without (.ofHost 'x')) (.ofHost 'a') := serves_without (by decide)
  have hb : Serves .plain (.without (.ofHost 'x')) (.ofHost 'b') := serves_without (by decide)
  refine ⟨_, rfl, hx, (@produce_ok_iff Nat .plain (.without (.ofHost 'x')) _ .empty 6 7 ?_ rfl rfl
    (by decide) (by decide) rfl (by decide) (by decide)).mpr ⟨1, by decide, ha, hb⟩⟩
  intro endpoint hmem
  simp only [Config.retrying, List.mem_cons, List.not_mem_nil, or_false] at hmem
  rcases hmem with rfl | rfl | rfl
  · exact .inr hx
  · exact .inl ha
  · exact .inl hb

/-- Two endpoints, one of which serves, and two retries for each: every attempt
    reserves an identifier at the one that serves and submits to the one that
    is down, until there are no more retries. -/
theorem not_produced_every_other : ∃ w : World (State Nat),
    World.prepare (.retrying [.ofHost 'a', .ofHost 'x'] 4) ⟨0, .empty⟩ ⟨0, []⟩ = .ok w ∧
    Serves .plain (.without (.ofHost 'x')) (.ofHost 'a') ∧
    Fails .plain (.without (.ofHost 'x')) (.ofHost 'x') ∧
    2 * w.worker.endpoints.size ≤ 4 ∧ (Bytes.text? Message.empty.content).isSome = true ∧
    (w.produce (outside .plain (.without (.ofHost 'x'))) 5 .empty).2.scene.signals.isCancelled
      w.worker.shutdown = false ∧
    (w.produce (outside .plain (.without (.ofHost 'x'))) 5 .empty).2.worker.endpoints.position =
      10 ∧
    (∃ e, (w.produce (outside .plain (.without (.ofHost 'x'))) 5 .empty).1 =
      .finished (.error e)) ∧
    ¬ ∃ eventId, (w.produce (outside .plain (.without (.ofHost 'x'))) 5 .empty).1 =
      .finished (.ok eventId) := by
  refine ⟨_, rfl, serves_without (by decide), fails_without _, by decide, rfl, rfl, rfl,
    ⟨_, rfl⟩, ?_⟩
  rintro ⟨eventId, hout⟩
  have hvalue := congrArg Outcome.value? hout
  exact absurd hvalue (Option.some_ne_none eventId).symm

end Http

end EventFlow
