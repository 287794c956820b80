import EventFlow.Proofs.Http.Requests
import EventFlow.Proofs.Worker.Course

/-!
# Polling over HTTP

What a claim over HTTP makes of the answers it gets.

A backend without work says so with one of two statuses, and a claim asks again
after these and after nothing else. Three tables have to agree on that: the one
that makes errors of statuses, the one that takes two of them for the empty queue
where a claim is concerned, and the one that says what is tried again. `Polled` is
what they come to together. It reads the answers in order, and has a constructor
for an answer that is followed by another request and one for each way in which
that comes to an end. `foundNothing` and `verdict` tell the answers apart without
the errors in between.

Requests that are refused by the transport itself are not answers, and no request
is on record then. The claim ends with the reason for the refusal.

The count of the answers is kept in 32 bits, and it is part of what is reported
when the backoff gives up. After so many answers as go round it, the report is
wrong.

## Main definitions

* `Sent.foundNothing`, `Sent.verdict`, `Sent.outcome`: What an answer says to a claim.
* `Client.claimRequest`: What asks for work.
* `Polled`: How a claim goes, read off the answers.
* `World.Unhindered`: A claim that nothing but its answers ended.

## Theorems

* `claimed_call`: What a single request for work comes to.
* `polled_of_ran`: A loop of such requests goes in no other way.
* `Polled.foundNothing_of_mem_dropLast`, `Polled.of_getLast?`,
  `Polled.of_exhausted`: What ends a claim.
* `consume_polls`: Claims over HTTP.
-/

namespace EventFlow

namespace Http

variable {τ : Type} {c : Client} {t : Transport τ}

/-! ## A single answer -/

namespace Sent

/-- Whether an answer says that there is nothing to claim: no content, or nothing
    found. What is in its body does not matter then. -/
def foundNothing (x : Sent) : Bool :=
  match x.result with
  | .ok response => response.status == 204 || response.status == 404
  | .error _ => false

/-- What a claim makes of any other answer. A status that is neither good nor known
    is reported as it is, with the method and the URL of the request. -/
def verdict (x : Sent) : Except SessionError Reference :=
  match x.result with
  | .error failure => .error (.transport failure)
  | .ok response =>
    if isSuccess response.status then
      match Reference.ofBody? response.body with
      | some reference => .ok reference
      | none => .error (.decode "not a reference")
    else if response.status = 500 then .error .internalServerError
    else .error (.status "GET" x.request.url.text response.status)

/-- A claim that is given such an answer has come to it. -/
def outcome (x : Sent) : Outcome Reference :=
  match x.verdict with
  | .ok reference => .finished (.ok reference)
  | .error e => .finished (.error (.session .consume e))

/-- What a claim makes of an answer. -/
def claimed (x : Sent) : Except SessionError Reference :=
  if x.foundNothing then .error .noWork else x.verdict

/-- No other answer is taken for an empty queue, so a claim is never tried again for
    a reason that an answer does not give. -/
theorem verdict_ne_noWork (x : Sent) : x.verdict ≠ .error .noWork := by
  unfold verdict
  split
  · simp
  · split
    · split <;> simp
    · split <;> simp

/-- A good answer is the end of the claim. -/
theorem outcome_of_ok {x : Sent} {reference : Reference} (h : x.verdict = .ok reference) :
    x.outcome = .finished (.ok reference) := by
  rw [outcome, h]

/-- So is a bad one, since an error other than that there is no work is not tried
    again after. -/
theorem outcome_of_error {x : Sent} {e : SessionError} (h : x.verdict = .error e) :
    x.outcome = .finished (.error (.session .consume e)) := by
  rw [outcome, h]

/-- It is a reference, or an error that is reported as it is. Whoever knows what a
    claim has come to knows which of the two. -/
theorem outcome_cases (x : Sent) :
    (∃ reference, x.verdict = .ok reference ∧ x.outcome = .finished (.ok reference)) ∨
      ∃ e, e ≠ .noWork ∧ x.verdict = .error e ∧
        x.outcome = .finished (.error (.session .consume e)) := by
  cases hverdict : x.verdict with
  | ok reference => exact .inl ⟨reference, rfl, outcome_of_ok hverdict⟩
  | error e =>
      have hne : e ≠ .noWork := fun he => x.verdict_ne_noWork (he ▸ hverdict)
      exact .inr ⟨e, hne, rfl, outcome_of_error hverdict⟩

/-- A claim that got a reference did not find the queue empty. -/
theorem of_claimed_ok {x : Sent} {reference : Reference} (h : x.claimed = .ok reference) :
    x.foundNothing = false ∧ x.verdict = .ok reference := by
  unfold claimed at h
  cases hnothing : x.foundNothing with
  | true => simp only [hnothing, if_true, reduceCtorEq] at h
  | false =>
      rw [if_neg (by simp [hnothing])] at h
      exact ⟨rfl, h⟩

/-- An error is that there is no work, or it is the verdict on an answer and then it
    is another. -/
theorem of_claimed_error {x : Sent} {e : SessionError} (h : x.claimed = .error e) :
    (x.foundNothing = true ∧ e = .noWork) ∨
      x.foundNothing = false ∧ x.verdict = .error e ∧ e.isNoWork = false := by
  unfold claimed at h
  cases hnothing : x.foundNothing with
  | true =>
      rw [if_pos hnothing] at h
      exact .inl ⟨rfl, (Except.error.inj h).symm⟩
  | false =>
      rw [if_neg (by simp [hnothing])] at h
      refine .inr ⟨rfl, h, ?_⟩
      cases e with
      | noWork => exact absurd h x.verdict_ne_noWork
      | _ => rfl

/-- A claim has no other reading of an answer. This is where the three tables meet:
    that of the statuses, that of the errors, and that of a claim. -/
theorem interpret_claim (budget : Option Span) {request : Request} (get : request.method = .get)
    (exchange : Exchange) :
    interpret (.claim budget) (exchange.body request) =
      claimed ⟨request, exchange.result⟩ := by
  unfold Exchange.body
  cases exchange.result with
  | error failure => rfl
  | ok response =>
      simp only [bodyOf, checkStatus, claimed, foundNothing, verdict, get]
      -- The statuses that the tables name come first, one by one.
      by_cases h204 : response.status = 204
      · simp [h204, interpret]
      by_cases h404 : response.status = 404
      · simp [h404, interpret]
      by_cases h500 : response.status = 500
      · simp [h500, interpret, isSuccess]
      -- What is left is good, or is reported as it is.
      cases hsuccess : isSuccess response.status with
      | false => simp [h204, h404, h500, interpret, Method.text]
      | true =>
          cases hbody : Reference.ofBody? response.body <;>
            simp [h204, h404, h500, hbody, interpret, decoded]

end Sent

/-! ## A single request -/

/-- What asks an endpoint for work, and may take no longer than the budget. -/
def Client.claimRequest (c : Client) (endpoint : Url) (budget : Option Span) : Request :=
  c.request (endpoint.extend ["workers", c.identity.workerId, "work"])
    ⟨.get, ["workers", c.identity.workerId, "work"], none, budget⟩

/-- An answer, and when it came. -/
structure Reception extends Sent where
  moment : Moment

/-- What asks one of these endpoints for work. -/
def Reception.Asks (c : Client) (list : List Url) (x : Reception) : Prop :=
  ∃ endpoint ∈ list, ∃ budget, x.request = c.claimRequest endpoint budget

/-- What one of these endpoints is to be asked for work with cannot be sent. -/
def Refuses (c : Client) (list : List Url) (failure : TransferFailure) : Prop :=
  ∃ endpoint ∈ list, ∃ budget, refusal (c.claimRequest endpoint budget) = some failure

/-- What a single request for work comes to in the world `w`. The endpoints stay
    what they are, only their turns go on. -/
inductive Claimed (c : Client) (w : World (State τ)) :
    Except SessionError Reference × World (State τ) → Prop where
  /-- It was answered. -/
  | answered (x : Reception) (result : Except SessionError Reference) (w' : World (State τ))
      (asks : x.Asks c w.worker.endpoints.list) (said : result = x.claimed)
      (came : w'.scene.now = x.moment) (sent : w'.outside.sent = x.toSent :: w.outside.sent)
      (list_eq : w'.worker.endpoints.list = w.worker.endpoints.list) : Claimed c w (result, w')
  /-- It could not be sent. -/
  | refused (failure : TransferFailure) (w' : World (State τ))
      (refuses : Refuses c w.worker.endpoints.list failure)
      (sent : w'.outside.sent = w.outside.sent)
      (list_eq : w'.worker.endpoints.list = w.worker.endpoints.list) :
      Claimed c w (.error (.transport failure), w')

/-- A call to claim is one request for work, unless that cannot be sent. The body of
    such a call can always be written, since it has none. -/
theorem claimed_call (budget : Option Span) (w : World (State τ)) :
    Claimed c w (w.call (outside c t) (.claim budget)) := by
  rcases call_outside c t (.claim budget) w with ⟨hresult, hendpoints, houtside⟩
  have hasked := asked_call c t (.claim budget) w.outside w.worker.endpoints
  generalize w.call (outside c t) (.claim budget) = called at hresult hendpoints houtside
  rcases called with ⟨result, w'⟩
  simp only at hresult hendpoints houtside
  generalize c.call t (.claim budget) w.outside w.worker.endpoints = asked at *
  have hcurrent := w.worker.endpoints.current_mem
  cases hasked with
  | unwritten error task => simp only [Client.task, reduceCtorEq] at task
  | refused task failure written refused =>
      obtain rfl := Except.ok.inj written
      rw [hresult]
      exact .refused failure w' ⟨_, hcurrent, budget, refused⟩ (by rw [houtside])
        (by rw [hendpoints, Endpoints.list_advance])
  | sent task request written addressed =>
      obtain rfl := Except.ok.inj written
      rw [hresult]
      -- The error for an odd status names the method of the request.
      have hget : request.method = .get := by rw [addressed]; rfl
      rw [Sent.interpret_claim budget hget]
      exact .answered ⟨⟨request, (t.exchange request w.outside.transport).1.result⟩, w'.scene.now⟩
        _ w' ⟨_, hcurrent, budget, addressed⟩ rfl rfl (by rw [houtside])
        (by rw [hendpoints, Endpoints.list_advance])

/-! ## All of them -/

/-- How a claim goes that began at the moment `started` and has so many rounds
    left: the number of its next attempt, the generator, the answers to come, and
    how it ends. -/
inductive Polled (c : Client) (list : List Url) (started : Moment) :
    (rounds : Nat) → (number : UInt32) → Generator → List Reception → Outcome Reference →
      Prop where
  /-- There is nothing to claim, and it asks again. -/
  | again {rounds : Nat} {number : UInt32} {g : Generator} {answers : List Reception}
      {outcome : Outcome Reference} (x : Reception) (interval : Span) (asks : x.Asks c list)
      (nothing : x.foundNothing = true) (asked : (g.next x.moment).1 = some interval)
      (rest : Polled c list started rounds (number + 1) (g.next x.moment).2 answers outcome) :
      Polled c list started (rounds + 1) number g (x :: answers) outcome
  /-- Any other answer is the last one, and the claim comes to what it says. -/
  | answered {rounds : Nat} {number : UInt32} {g : Generator} {outcome : Outcome Reference}
      (x : Reception) (asks : x.Asks c list) (other : x.foundNothing = false)
      (said : outcome = x.outcome) :
      Polled c list started (rounds + 1) number g [x] outcome
  /-- There is nothing to claim, and the backoff gives up. -/
  | exhausted {rounds : Nat} {number : UInt32} {g : Generator} (x : Reception)
      (asks : x.Asks c list) (nothing : x.foundNothing = true)
      (asked : (g.next x.moment).1 = none) :
      Polled c list started (rounds + 1) number g [x] (.finished (.error
        (.exhausted .consume number (Span.ofNanos (x.moment - started)) .noWork)))
  /-- There is nothing to claim, and the clock cannot show when to ask again. -/
  | beyondClock {rounds : Nat} {number : UInt32} {g : Generator} (x : Reception) (interval : Span)
      (asks : x.Asks c list) (nothing : x.foundNothing = true)
      (asked : (g.next x.moment).1 = some interval) (long : Moment.add? x.moment interval = none) :
      Polled c list started (rounds + 1) number g [x] .beyondClock
  /-- The request cannot be sent. -/
  | refused {rounds : Nat} {number : UInt32} {g : Generator} (failure : TransferFailure)
      (refuses : Refuses c list failure) :
      Polled c list started (rounds + 1) number g []
        (.finished (.error (.session .consume (.transport failure))))
  /-- The rounds are used up. -/
  | unfinished {number : UInt32} {g : Generator} :
      Polled c list started 0 number g [] .unfinished

section Loop

variable {scope : Scope} {deadline : Option Moment} {rounds : Nat} {round : Round}
  {w : World (State τ)} {tries : List (Attempt (State τ))}
  {result : Outcome Reference × World (State τ)}

/-- A loop of requests for work that neither a signal nor the deadline ends goes
    in no other way. -/
theorem polled_of_ran (hoperation : scope.operation = .consume)
    (hretries : scope.retries = .onlyNoWork)
    (h : Retry.Ran (outside c t) scope (World.claimAttempt (outside c t) deadline) rounds round w
      tries result)
    (calm : result.2.scene.check scope.signal scope.deadline = none)
    (early : ∀ x ∈ tries, ∀ e, x.failure = some e →
      Retry.standing scope.deadline x.after.scene.now e = .before) :
    ∃ answers : List Reception,
      result.2.outside.sent = (answers.map Reception.toSent).reverse ++ w.outside.sent ∧
      answers.map Reception.moment <+: tries.map (fun x => x.after.scene.now) ∧
      Polled c w.worker.endpoints.list round.started rounds round.attempt round.generator answers
        result.1 := by
  -- Each attempt is one request, and its answer decides which constructor it is.
  induction h with
  | unfinished => exact ⟨[], rfl, List.nil_prefix, .unfinished⟩
  | interrupted interrupt found => exact absurd (calm.symm.trans found) (by simp)
  | @succeeded rounds round w a w' _ tried =>
      have hclaimed : Claimed c w (.ok a, w') := tried ▸ claimed_call (t := t) _ w
      cases hclaimed with
      | answered x _ _ asks said came sent =>
          obtain ⟨other, hverdict⟩ := Sent.of_claimed_ok said.symm
          exact ⟨[x], sent, ⟨[], by simp [came]⟩,
            .answered x asks other (Sent.outcome_of_ok hverdict).symm⟩
  | @ended rounds round w e w' outcome w'' _ tried after =>
      have hclaimed : Claimed c w (.error e, w') := tried ▸ claimed_call (t := t) _ w
      have hsent := sent_of_idled (Retry.idled_of_aftermath after).1
      have hcases := Retry.outcome_of_aftermath after calm (early _ (.head _) e rfl)
      rw [hretries, hoperation] at hcases
      cases hclaimed with
      | answered x _ _ asks said came sent =>
          refine ⟨[x], hsent.trans sent, ⟨[], by simp [came]⟩, ?_⟩
          rw [came] at hcases
          rcases Sent.of_claimed_error said.symm with ⟨nothing, rfl⟩ | ⟨other, hverdict, hother⟩
          · rcases hcases with ⟨hrefused, -⟩ | ⟨-, ⟨asked, rfl⟩ | ⟨interval, asked, long, rfl⟩⟩
            · simp only [RetryClass.retries, SessionError.isNoWork, reduceCtorEq] at hrefused
            · exact .exhausted x asks nothing asked
            · exact .beyondClock x interval asks nothing asked long
          · rcases hcases with ⟨-, rfl⟩ | ⟨hretried, -⟩
            · exact .answered x asks other (Sent.outcome_of_error hverdict).symm
            · simp only [RetryClass.retries, hother, reduceCtorEq] at hretried
      | refused failure _ refuses sent =>
          -- The refusal is an error that is not tried again.
          refine ⟨[], hsent.trans sent, List.nil_prefix, ?_⟩
          rcases hcases with ⟨-, rfl⟩ | ⟨hretried, -⟩
          · exact .refused failure refuses
          · simp only [RetryClass.retries, SessionError.isNoWork, reduceCtorEq] at hretried
  -- Only the news that there is no work is tried again after, so that is what was answered.
  | @again rounds round w e w' next w'' rest result _ tried after ran ih =>
      have hclaimed : Claimed c w (.error e, w') := tried ▸ claimed_call (t := t) _ w
      have hsent := sent_of_idled (Retry.idled_of_aftermath after).1
      rcases Retry.resumed_of_aftermath after with ⟨hretried, rfl, interval, hresumed⟩
      rcases ih calm fun x hx => early x (.tail _ hx) with ⟨answers, hanswers, hmoments, hpolled⟩
      rw [hretries] at hretried
      cases hclaimed with
      | answered x _ _ asks said came sent list_eq =>
          rcases Sent.of_claimed_error said.symm with ⟨nothing, rfl⟩ | ⟨-, -, hother⟩
          · have hasked := hresumed.answer
            rw [came] at hasked hpolled
            rw [hresumed.worker_eq, list_eq] at hpolled
            refine ⟨x :: answers, ?_, ?_, .again x interval asks nothing hasked hpolled⟩
            · rw [hanswers, hsent, sent, List.map_cons, List.reverse_cons, List.append_assoc]
              rfl
            · rw [List.map_cons, List.map_cons, came]
              exact List.prefix_cons_inj _ |>.mpr hmoments
          · simp only [RetryClass.retries, hother, reduceCtorEq] at hretried
      | refused failure =>
          simp only [RetryClass.retries, SessionError.isNoWork, reduceCtorEq] at hretried

end Loop

/-! ## What ends a claim -/

namespace Polled

variable {list : List Url} {started : Moment} {rounds : Nat} {number : UInt32} {g : Generator}
  {answers : List Reception} {outcome : Outcome Reference}

/-- All of the answers are answers to requests for work, to endpoints of the worker. -/
theorem asks (h : Polled c list started rounds number g answers outcome) :
    ∀ x ∈ answers, x.Asks c list := by
  induction h with
  | again x interval asks nothing asked rest ih =>
      exact List.forall_mem_cons.mpr ⟨asks, ih⟩
  | answered x asks | exhausted x asks | beyondClock x interval asks =>
      exact List.forall_mem_singleton.mpr asks
  | refused | unfinished => exact fun x hx => absurd hx List.not_mem_nil

/-- Only after answers that there is nothing to claim, it asks again. -/
theorem foundNothing_of_mem_dropLast (h : Polled c list started rounds number g answers outcome) :
    ∀ x ∈ answers.dropLast, x.foundNothing = true := by
  induction h with
  | @again rounds number g answers outcome x interval asks nothing asked rest ih =>
      -- The answer that is followed by another is not the last, and says that there is nothing.
      cases answers with
      | nil => exact fun y hy => absurd hy List.not_mem_nil
      | cons z answers => exact List.forall_mem_cons.mpr ⟨nothing, ih⟩
  | answered | exhausted | beyondClock | refused | unfinished =>
      exact fun x hx => absurd hx List.not_mem_nil

/-- Any other answer is what the claim comes to. -/
theorem of_getLast? (h : Polled c list started rounds number g answers outcome) :
    ∀ x, answers.getLast? = some x → x.foundNothing = false → outcome = x.outcome := by
  induction h with
  | @again rounds number g answers outcome x interval asks nothing asked rest ih =>
      intro y hy other
      cases answers with
      | nil =>
          -- This one is followed by a request that is refused, or by no more rounds.
          obtain rfl := Option.some.inj hy
          exact absurd (nothing.symm.trans other) (by simp)
      | cons z answers => exact ih y hy other
  | answered x asks other said =>
      intro y hy _
      obtain rfl := Option.some.inj hy
      exact said
  | exhausted x asks nothing | beyondClock x interval asks nothing =>
      intro y hy other
      obtain rfl := Option.some.inj hy
      exact absurd (nothing.symm.trans other) (by simp)
  | refused | unfinished => exact fun x hx => absurd hx.symm (Option.some_ne_none x)

/-- A claim returns a reference only if an answer had it, and that was the last one. -/
theorem of_ok {reference : Reference} (h : Polled c list started rounds number g answers outcome)
    (hok : outcome = .finished (.ok reference)) :
    ∃ x, answers.getLast? = some x ∧ x.foundNothing = false ∧ x.verdict = .ok reference := by
  induction h with
  | @again rounds number g answers outcome x interval asks nothing asked rest ih =>
      rcases ih hok with ⟨y, hy, hrest⟩
      exact ⟨y, by rw [List.getLast?_cons, hy]; rfl, hrest⟩
  | answered x asks other said =>
      refine ⟨x, rfl, other, ?_⟩
      rw [said] at hok
      rcases x.outcome_cases with ⟨_, hverdict, houtcome⟩ | ⟨e, -, -, houtcome⟩
      · rw [hverdict, Except.ok.inj (Outcome.finished.inj (houtcome.symm.trans hok))]
      · exact absurd (houtcome.symm.trans hok) (by simp)
  | exhausted | beyondClock | refused | unfinished => exact absurd hok (by simp)

/-- An error that is reported alone is never that there is nothing to claim: after
    that a claim asks again, or what it reports is why it does not. -/
theorem ne_noWork (h : Polled c list started rounds number g answers outcome)
    (operation : Operation) : outcome ≠ .finished (.error (.session operation .noWork)) := by
  induction h with
  | again x interval asks nothing asked rest ih => exact ih
  | answered x asks other said =>
      rw [said]
      rcases x.outcome_cases with ⟨_, -, houtcome⟩ | ⟨e, hne, -, houtcome⟩
      · simp [houtcome]
      · simp [houtcome, hne]
  | exhausted | beyondClock | refused | unfinished => simp

/-- The backoff is reported to have given up after an answer that there is nothing
    to claim, and with the number that this answer has, counted from `number` on. It
    is stated with one added on both sides, as numbers that go round have no
    difference that could be cut off. -/
theorem of_exhausted {operation : Operation} {attempts : UInt32} {elapsed : Span} {e : SessionError}
    (h : Polled c list started rounds number g answers outcome)
    (heq : outcome = .finished (.error (.exhausted operation attempts elapsed e))) :
    e = .noWork ∧ attempts + 1 = number + UInt32.ofNat answers.length := by
  induction h with
  | again x interval asks nothing asked rest ih =>
      rcases ih heq with ⟨he, hattempts⟩
      exact ⟨he, by rw [hattempts, List.length_cons, Retry.number_add_succ]⟩
  | answered x asks other said =>
      rw [said] at heq
      rcases x.outcome_cases with ⟨_, -, houtcome⟩ | ⟨e, -, -, houtcome⟩ <;>
        exact absurd (houtcome.symm.trans heq) (by simp)
  | exhausted x =>
      simp only [Outcome.finished.injEq, Except.error.injEq, WorkerError.exhausted.injEq] at heq
      exact ⟨heq.2.2.2.symm, by rw [← heq.2.1]; rfl⟩
  | beyondClock | refused | unfinished => exact absurd heq (by simp)

/-- A round has one answer at most. -/
theorem length_le (h : Polled c list started rounds number g answers outcome) :
    answers.length ≤ rounds := by
  induction h with
  | again x interval asks nothing asked rest ih => exact Nat.succ_le_succ ih
  | answered | exhausted | beyondClock => exact Nat.succ_le_succ (Nat.zero_le _)
  | refused | unfinished => exact Nat.zero_le _

/-- It is still asking only if it has asked in all of its rounds. -/
theorem of_unfinished (h : Polled c list started rounds number g answers outcome)
    (heq : outcome = .unfinished) : answers.length = rounds := by
  induction h with
  | again x interval asks nothing asked rest ih => exact congrArg (· + 1) (ih heq)
  | answered x asks other said =>
      rw [said] at heq
      rcases x.outcome_cases with ⟨_, -, houtcome⟩ | ⟨e, -, -, houtcome⟩ <;>
        exact absurd (houtcome.symm.trans heq) (by simp)
  | exhausted | beyondClock | refused => exact absurd heq (by simp)
  | unfinished => rfl

end Polled

end Http

/-! ## Claims -/

/-- A claim has the loop `l`, and neither a signal nor its deadline has to do with
    how that ends: when it is over, its signal is not cancelled and its deadline is
    ahead, and no timeout came so late that it counts as the deadline. -/
structure World.Unhindered {σ : Type} (b : Outside σ) (rounds : Nat) (action : Action)
    (w : World σ) (l : Loop σ) : Prop where
  found : w.loop? b action = some l
  calm : (w.perform b rounds action).2.scene.check l.scope.signal l.scope.deadline = none
  early : ∀ x ∈ w.attempts b rounds action, ∀ e, x.failure = some e →
    Retry.standing l.scope.deadline x.after.scene.now e = .before

/-- Then its loop ends where neither has been found. -/
theorem World.Unhindered.calm_run {σ : Type} {b : Outside σ} {rounds : Nat} {action : Action}
    {w : World σ} {l : Loop σ} (h : w.Unhindered b rounds action l) {outcome : Outcome Unit}
    (houtcome : (w.perform b rounds action).1.outcome? = some outcome) :
    (l.run b rounds).2.scene.check l.scope.signal l.scope.deadline = none := by
  cases World.performed_perform houtcome with
  | looped l' found shown =>
      obtain rfl := Option.some.inj (h.found.symm.trans found)
      have hcalm := Scene.check_eq_none.mp h.calm
      rw [shown.now_eq, shown.cancelled_eq] at hcalm
      exact Scene.check_eq_none.mpr hcalm
  | full _ found | timeless _ found =>
      exact absurd (h.found.symm.trans found) (Option.some_ne_none l)

namespace Http

variable {τ : Type} {c : Client} {t : Transport τ}

/-- A number that is kept in 32 bits is itself just where they have room for it. -/
theorem toNat_ofNat_eq_iff {n : Nat} : (UInt32.ofNat n).toNat = n ↔ n < UInt32.size :=
  ⟨fun h => h ▸ (UInt32.ofNat n).toNat_lt, UInt32.toNat_ofNat_of_lt'⟩

/-- A claim over HTTP polls exactly through the answers that there is nothing to
    claim. It asks again after each of them for which the policy gives an interval,
    and after no other; any other answer is what it comes to, a reference if that
    can be read from it and otherwise an error, which is not that there is nothing
    to claim. If the backoff gives up, it is after such an answer, and the number of
    attempts that it reports is that of the requests that were sent, in 32 bits: it
    is right if and only if they have room for it, as in all runs of a program that
    checks its arithmetic, which has no more rounds than that. It has not ended
    within its rounds only if each of them had a request. -/
theorem consume_polls {rounds : Nat} {action : Action} {w : World (State τ)}
    {l : Loop (State τ)} (claim : action.isClaim = true)
    (free : w.Unhindered (outside c t) rounds action l) :
    ∃ (answers : List Reception) (outcome : Outcome Reference),
      (w.perform (outside c t) rounds action).1 = .consumed outcome ∧
      (w.perform (outside c t) rounds action).2.outside.sent =
        (answers.map Reception.toSent).reverse ++ w.outside.sent ∧
      answers.map Reception.moment <+:
        (w.attempts (outside c t) rounds action).map (fun x => x.after.scene.now) ∧
      (∀ x ∈ answers, x.Asks c w.worker.endpoints.list) ∧
      Polled c w.worker.endpoints.list w.scene.now rounds 1
        (w.worker.config.backoff.start w.scene.now) answers outcome ∧
      (∀ x ∈ answers.dropLast, x.foundNothing = true) ∧
      (∀ x, answers.getLast? = some x → x.foundNothing = false → outcome = x.outcome) ∧
      (∀ reference, outcome = .finished (.ok reference) →
        ∃ x, answers.getLast? = some x ∧ x.foundNothing = false ∧ x.verdict = .ok reference) ∧
      (∀ operation, outcome ≠ .finished (.error (.session operation .noWork))) ∧
      (∀ operation attempts elapsed e,
        outcome = .finished (.error (.exhausted operation attempts elapsed e)) →
          e = .noWork ∧ attempts = UInt32.ofNat answers.length ∧
            (attempts.toNat = answers.length ↔ answers.length < UInt32.size)) ∧
      answers.length ≤ rounds ∧ (outcome = .unfinished → answers.length = rounds) := by
  have hbegun := World.begun_of_loop? free.found
  have hearly := free.early
  rw [World.attempts_eq free.found] at hearly ⊢
  have hretries : l.scope.retries = .onlyNoWork :=
    hbegun.retries_eq.trans (by rw [Action.retries, if_pos claim])
  rcases World.claims_of_loop? claim free.found with
    ⟨scope, deadline, start, rfl, hoperation, hendpoints, houtside, hresult, hafter⟩
  have hran := Retry.ran_run (outside c t) rounds scope
    (World.claimAttempt (outside c t) deadline) start
  rcases polled_of_ran hoperation hretries hran (free.calm_run (by rw [hresult]; rfl)) hearly with
    ⟨answers, hsent, hmoments, hpolled⟩
  -- The first round begins where the claim does.
  have hlist : (start.record (.start scope.operation)).worker.endpoints = w.worker.endpoints :=
    hendpoints
  have hstarted : start.scene.now = w.scene.now := hbegun.now_eq
  have hpolicy : scope.policy = w.worker.config.backoff := hbegun.policy_eq
  rw [hlist, Retry.firstRound, hstarted, hpolicy] at hpolled
  refine ⟨answers, _, hresult, ?_, hmoments, hpolled.asks, hpolled,
    hpolled.foundNothing_of_mem_dropLast, hpolled.of_getLast?, fun _ => hpolled.of_ok,
    hpolled.ne_noWork, fun _ _ _ _ hexhausted => ?_, hpolled.length_le, hpolled.of_unfinished⟩
  · rw [hafter, hsent]
    exact congrArg _ (congrArg State.sent houtside)
  · rcases hpolled.of_exhausted hexhausted with ⟨he, hattempts⟩
    obtain rfl := UInt32.add_left_inj 1 |>.mp (hattempts.trans (UInt32.add_comm ..))
    exact ⟨he, rfl, toNat_ofNat_eq_iff⟩

/-- A backend that has nothing to do at first, and then a unit of work. Its state is
    the number of requests so far. -/
def Transport.filling : Transport Nat where
  exchange := fun _ n =>
    (⟨.ok (if n = 0 then ⟨204, []⟩
      else ⟨200, Bytes.ofText "\x7b\"ack_id\": \"a\", \"event_id\": \"e\"\x7d"⟩), []⟩, n + 1)
  wait := fun _ _ n => ([], n)

/-- A claim with such a backend is hindered by nothing, and succeeds with its second
    request. -/
theorem unhindered_filling : ∃ (w : World (State Nat)) (l : Loop (State Nat)),
    World.prepare (.retrying [.ofHost 'a'] 2) ⟨0, .empty⟩ ⟨0, []⟩ = .ok w ∧
    w.Unhindered (outside .plain .filling) 3 .consume l ∧
    (w.worker.endpoints.list = [.ofHost 'a'] ∧ w.scene.now = 0 ∧
      w.worker.config.backoff = .maxRetries .zero 2 ∧ w.outside.sent = []) ∧
    (w.perform (outside .plain .filling) 3 .consume).1.reference? = some ⟨"a", "e", none⟩ ∧
    (w.perform (outside .plain .filling) 3 .consume).2.outside.sent.length = 2 := by
  refine ⟨_, ⟨_, _, _, _⟩, rfl, ⟨by rfl, ?_, ?_⟩, ⟨rfl, rfl, rfl, rfl⟩, ?_, ?_⟩
  · decide +kernel
  · exact fun _ _ _ _ => rfl
  · decide +kernel
  · decide +kernel

/-- The second answer has a reference. -/
theorem consume_polls_filling : ∃ w : World (State Nat),
    World.prepare (.retrying [.ofHost 'a'] 2) ⟨0, .empty⟩ ⟨0, []⟩ = .ok w ∧
    ∃ (answers : List Reception) (outcome : Outcome Reference),
      (w.perform (outside .plain .filling) 3 .consume).2.outside.sent =
        (answers.map Reception.toSent).reverse ∧
      Polled .plain [.ofHost 'a'] 0 3 1 (.maxRetries .zero 2 0) answers outcome ∧
      answers.length = 2 ∧ outcome.value? = some ⟨"a", "e", none⟩ := by
  rcases unhindered_filling with
    ⟨w, l, hw, free, ⟨hlist, hnow, hpolicy, hempty⟩, hreference, hlength⟩
  rcases @consume_polls Nat .plain .filling 3 .consume w l rfl free with
    ⟨answers, outcome, hresult, hsent, -, -, hpolled, -⟩
  rw [hlist, hnow, hpolicy] at hpolled
  rw [hempty, List.append_nil] at hsent
  rw [hsent, List.length_reverse, List.length_map] at hlength
  rw [hresult] at hreference
  exact ⟨w, hw, answers, outcome, hsent, hpolled, hlength, hreference⟩

end Http

end EventFlow
