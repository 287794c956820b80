import EventFlow.Proofs.Config.Layers
import EventFlow.Proofs.Http.Polling
import EventFlow.Proofs.Http.Routes
import EventFlow.Proofs.Worker.Budget
import EventFlow.Proofs.Worker.Retries

/-!
# Requests That Hang

What a claim over HTTP comes to whose requests bring nothing until its time is
over.

The time limit of a request for work is what is left of the time of its claim, in
whole milliseconds. It cannot be right to the nanosecond, so a request that hangs
is given up a little before the deadline or a little after it. `limitNanos_bounds`
says how little: less than a millisecond, on either side, whatever the rounding,
the limit for all requests and the smallest limit make of it together. Before the
deadline, it is the slack of ten milliseconds that tells such a timeout from one
that has nothing to do with the deadline, and a millisecond is well within it. So
a claim whose requests hang reports its deadline, and never the timeout.

The argument about the loop does not look at requests. `Barren` is what an attempt
must come to, and `Ran.exceeded` what a loop of such attempts does.

## Main definitions

* `Barren`: An attempt that brought nothing, next to a deadline.
* `Fruitless`: An attempt whose request was answered that there is no work, or
  hung until its time limit.

## Theorems

* `exceeded_of_aftermath`, `Ran.exceeded`: What follows attempts that brought
  nothing.
* `limitNanos_bounds`: How close the limit of a request is to what is left.
* `barren_of_fruitless`: What hangs brings nothing.
* `exceeded_of_fruitless`: A claim whose requests hang.
* `hanging_exceeds`: The same for a worker that has not claimed all that it may.
-/

namespace EventFlow

/-! ## Attempts that bring nothing -/

/-- What is shown of a result tells what the result is, if it is an error. -/
theorem Outcome.finished_of_void {α β : Type} {r : Except WorkerError α} {outcome : Outcome β}
    (h : (Outcome.finished r).void = outcome.void) :
    ∃ r', outcome = .finished r' ∧ ∀ e, r' = .error e → r = .error e := by
  rcases outcome with (e | a) | _ | _
  · cases r with
    | error e' =>
        simp only [void, Outcome.finished.injEq, Except.error.injEq] at h
        exact ⟨_, rfl, fun e'' he => by rw [h, Except.error.inj he]⟩
    | ok a => simp only [void, Outcome.finished.injEq, reduceCtorEq] at h
  · exact ⟨_, rfl, fun e he => absurd he (by simp only [reduceCtorEq, not_false_eq_true])⟩
  · cases r <;> simp only [void, reduceCtorEq] at h
  · cases r <;> simp only [void, reduceCtorEq] at h

namespace Retry

variable {σ α : Type} {b : Outside σ} {scope : Scope} {deadline : Moment}
  {attempt : UInt32 → World σ → Except SessionError α × World σ}

/-- An attempt that found no work or ran into a time limit. It ended at the latest
    a millisecond after the deadline, and with a timeout at the earliest a
    millisecond before it. -/
structure Barren (deadline : Moment) (x : Attempt σ) : Prop where
  failure : x.failure = some .noWork ∨
    ∃ e, x.failure = some e ∧ e.isTimeout = true ∧ deadline ≤ x.after.scene.now + 1_000_000
  soon : x.after.scene.now ≤ deadline + 1_000_000

/-- The deadline was exceeded, or else the loop was cancelled. A cancellation comes
    first where both are found. -/
def Exceeded (scope : Scope) (r : Except WorkerError α) (w : World σ) : Prop :=
  r = .error .deadlineExceeded ∨
    r = .error .cancelled ∧ w.scene.signals.isCancelled scope.signal = true

theorem exceeded_of_interrupt {interrupt : Signals.Interrupt} {w : World σ}
    (found : w.scene.check scope.signal scope.deadline = some interrupt) :
    Exceeded scope (.error (.ofInterrupt interrupt) : Except WorkerError α) w := by
  cases interrupt with
  | deadlineExceeded => exact .inl rfl
  | cancelled => exact .inr ⟨rfl, Scene.check_eq_cancelled.mp found⟩

/-- After an attempt that brought nothing, a loop that still polls only ends with
    its deadline. -/
theorem exceeded_of_aftermath {round : Round} {e : SessionError} {w w' : World σ}
    {r : Except WorkerError α} (hretries : scope.retries = .onlyNoWork)
    (hdeadline : scope.deadline = some deadline)
    (h : Aftermath b scope round e w (.inl (.finished r), w'))
    (hbarren : e = .noWork ∨ e.isTimeout = true ∧ deadline ≤ w.scene.now + 1_000_000)
    (answer : (round.generator.next w.scene.now).1 ≠ none) : Exceeded scope r w' := by
  -- All that is left is an interrupt, the deadline itself, or a reason for the loop to give up,
  -- and there is none.
  cases h with
  | interrupted interrupt found => exact exceeded_of_interrupt found
  | cutShort => exact .inl rfl
  | final calm early refused =>
      rw [hretries] at refused
      rcases hbarren with rfl | ⟨htimeout, hclose⟩
      · simp only [RetryClass.retries, SessionError.isNoWork, reduceCtorEq] at refused
      · -- A timeout that counts for itself came ten milliseconds before the deadline.
        rw [hdeadline] at early
        have hfar := standing_of_timeout.2 early htimeout
        exact absurd (Nat.lt_of_lt_of_le hfar hclose) (by omega)
  | gaveUp calm early retried asked => exact absurd asked answer
  | woken interval wake interrupt calm early retried asked ends waited =>
      refine exceeded_of_interrupt ?_
      rw [World.check_await, waited]

variable {rounds : Nat} {round : Round} {w : World σ} {tries : List (Attempt σ)}
  {result : Outcome α × World σ}

/-- A loop whose attempts bring nothing ends with its deadline, and at the latest a
    millisecond after it. It must not run out of intervals before, since then it
    would report that instead. -/
theorem Ran.exceeded (h : Ran b scope attempt rounds round w tries result)
    (later : ∀ (n : UInt32) (w : World σ), w.scene.Later (attempt n w).2.scene)
    (hretries : scope.retries = .onlyNoWork) (hdeadline : scope.deadline = some deadline)
    (start : w.scene.now < deadline) (barren : ∀ x ∈ tries, Barren deadline x)
    (gives : round.generator.Gives (fun _ _ => True) result.2.scene.now rounds)
    {r : Except WorkerError α} (hr : result.1 = .finished r) :
    Exceeded scope r result.2 ∧ result.2.scene.now ≤ deadline + 1_000_000 := by
  constructor
  · by_cases hne : tries = []
    · subst hne
      cases h with
      | unfinished => simp only [reduceCtorEq] at hr
      | interrupted interrupt found =>
          obtain rfl := Outcome.finished.inj hr
          exact exceeded_of_interrupt found
    · rcases h.closing hne with ⟨init, last, htries, hclosing⟩
      have hmem : last ∈ tries := htries ▸ List.mem_append_right init (.head _)
      have hbarren := barren last hmem
      cases hclosing with
      | succeeded a fine =>
          -- An attempt that brings nothing has failed.
          rcases hbarren.failure with hnothing | ⟨e, htimeout, -⟩
          · simp only [fine, reduceCtorEq] at hnothing
          · simp only [fine, reduceCtorEq] at htimeout
      | failed e outcome w' failure after =>
          obtain rfl : outcome = .finished r := hr
          have hfew : init.length < rounds := by
            have hle := h.length_le
            rw [htries, List.length_append] at hle
            exact hle
          rcases h.exists_answer later gives htries hfew with ⟨interval, hanswer, -⟩
          refine exceeded_of_aftermath hretries hdeadline after ?_
            (fun hnone => Option.some_ne_none interval (hanswer.symm.trans hnone))
          refine hbarren.failure.imp (fun hnothing => ?_) fun ⟨e', htimeout, hlate⟩ => ?_
          · exact Option.some.inj (failure.symm.trans hnothing)
          · exact Option.some.inj (failure.symm.trans htimeout) ▸ hlate
      | unfinished => simp only [reduceCtorEq] at hr
  · rcases (h.timely hdeadline start).bounded with hle | ⟨last, hlast, hle⟩
    · exact Nat.le_trans hle (Nat.le_add_right _ _)
    · exact Nat.le_trans hle (barren last (List.mem_of_getLast? hlast)).soon

end Retry

namespace Http

variable {τ : Type} {c : Client} {t : Transport τ}

/-! ## The limit of a request -/

/-- A request that may take as long as is left of a claim is given up less than a
    millisecond before or after that is over. What is left is rounded up to whole
    milliseconds, the limit of the client is cut off to them, and no limit is below
    one. -/
theorem limitNanos_bounds {left limit : Span} (positive : 0 < left.nanos)
    (within : left.nanos ≤ limit.nanos)
    (small : limit.nanos < 0x1_0000_0000_0000_0000 * 1_000_000) :
    left.nanos < limitNanos limit (some left) / 1_000_000 * 1_000_000 + 1_000_000 ∧
      limitNanos limit (some left) / 1_000_000 * 1_000_000 < left.nanos + 1_000_000 := by
  simp only [limitNanos, Span.ceilMillis]
  -- `small` keeps the milliseconds within 64 bits, where they are not capped.
  omega

/-- An attempt whose request was answered in time that there is no work, or hung
    until its time limit. -/
inductive Fruitless (x : Attempt (State τ)) : Prop where
  | answered (sent : Sent) (made : x.after.outside.sent = sent :: x.before.outside.sent)
      (nothing : sent.foundNothing = true)
      (soon : x.after.scene.now < x.before.scene.now + sent.request.timeoutMillis * 1_000_000)
  | hanging (sent : Sent) (made : x.after.outside.sent = sent :: x.before.outside.sent)
      (gaveUp : sent.result = .error .timedOut)
      (late : x.after.scene.now = x.before.scene.now + sent.request.timeoutMillis * 1_000_000)

/-- What an attempt to claim sends has what is left for its limit, and the attempt
    comes to what that was answered. An attempt that sends nothing is none of these. -/
theorem sent_of_claimAttempt {deadline : Option Moment} {n : UInt32} {w : World (State τ)}
    {sent : Sent} (made : (World.claimAttempt (outside c t) deadline n w).2.outside.sent =
      sent :: w.outside.sent) :
    sent.request.timeoutMillis =
      limitNanos c.timeout (World.budget w.scene.now deadline) / 1_000_000 ∧
    (World.claimAttempt (outside c t) deadline n w).1 = sent.claimed := by
  rw [World.claimAttempt] at made ⊢
  rcases call_outside c t (.claim (World.budget w.scene.now deadline)) w with
    ⟨hresult, -, houtside⟩
  have hasked := asked_call c t (.claim (World.budget w.scene.now deadline)) w.outside
    w.worker.endpoints
  rw [houtside] at made
  rw [hresult]
  generalize c.call t (.claim (World.budget w.scene.now deadline)) w.outside
    w.worker.endpoints = asked at *
  cases hasked with
  | unwritten | refused => exact absurd made.symm (List.cons_ne_self _ _)
  | sent task request written addressed =>
      obtain rfl := Except.ok.inj written
      obtain rfl := (List.cons.inj made).1
      have hget : request.method = .get := by rw [addressed]; rfl
      exact ⟨by rw [addressed]; rfl, Sent.interpret_claim _ hget _⟩

/-- A request that was given up is a timeout. -/
theorem claimed_of_timedOut {sent : Sent} (h : sent.result = .error .timedOut) :
    sent.claimed = .error (.transport .timedOut) := by
  simp [Sent.claimed, Sent.foundNothing, Sent.verdict, h]

/-- How late an attempt can end that is given up after its limit. -/
theorem add_bounds {now finish limit : Nat} (early : now < finish)
    (h : finish - now < limit + 1_000_000 ∧ limit < finish - now + 1_000_000) :
    finish ≤ now + limit + 1_000_000 ∧ now + limit ≤ finish + 1_000_000 := by
  omega

/-- What hangs until its time limit is given up so close to the deadline that it
    counts as that, and what is answered before is answered in time. -/
theorem barren_of_fruitless {deadline : Moment} {n : UInt32} {x : Attempt (State τ)} {limit : Span}
    (early : x.before.scene.now < deadline) (short : deadline - x.before.scene.now ≤ limit.nanos)
    (within : limit.nanos ≤ c.timeout.nanos)
    (small : c.timeout.nanos < 0x1_0000_0000_0000_0000 * 1_000_000)
    (failed : failureOf (World.claimAttempt (outside c t) (some deadline) n x.before).1 = x.failure)
    (ended : (World.claimAttempt (outside c t) (some deadline) n x.before).2 = x.after)
    (h : Fruitless x) : Retry.Barren deadline x := by
  have hleft : (Span.ofNanos (deadline - x.before.scene.now)).nanos =
      deadline - x.before.scene.now := Span.nanos_ofNanos short
  have hbounds : deadline - x.before.scene.now <
      limitNanos c.timeout (World.budget x.before.scene.now (some deadline)) / 1_000_000 *
        1_000_000 + 1_000_000 ∧
      limitNanos c.timeout (World.budget x.before.scene.now (some deadline)) / 1_000_000 *
        1_000_000 < deadline - x.before.scene.now + 1_000_000 := by
    have hlimit := limitNanos_bounds (Nat.lt_of_lt_of_eq (Nat.sub_pos_of_lt early) hleft.symm)
      (Nat.le_trans (Nat.le_of_eq hleft) (Nat.le_trans short within)) small
    rwa [hleft] at hlimit
  -- What was sent is known to be the request of this attempt, by the record.
  have hsent : ∀ sent : Sent, x.after.outside.sent = sent :: x.before.outside.sent →
      sent.request.timeoutMillis =
        limitNanos c.timeout (World.budget x.before.scene.now (some deadline)) / 1_000_000 ∧
      x.failure = failureOf sent.claimed := by
    intro sent made
    rw [← ended] at made
    rcases sent_of_claimAttempt made with ⟨hmillis, hclaimed⟩
    exact ⟨hmillis, by rw [← failed, hclaimed]⟩
  cases h with
  | answered sent made nothing soon =>
      rcases hsent sent made with ⟨hmillis, hfailure⟩
      rw [hmillis] at soon
      refine ⟨.inl ?_, Nat.le_trans (Nat.le_of_lt soon) (add_bounds early hbounds).2⟩
      rw [hfailure, Sent.claimed, if_pos nothing]
      rfl
  | hanging sent made gaveUp late =>
      rcases hsent sent made with ⟨hmillis, hfailure⟩
      rw [claimed_of_timedOut gaveUp] at hfailure
      rw [hmillis] at late
      refine ⟨.inr ⟨_, hfailure, rfl, ?_⟩, ?_⟩
      · rw [late]
        exact (add_bounds early hbounds).1
      · rw [late]
        exact (add_bounds early hbounds).2

/-! ## Claims -/

/-- A loop of requests for work that bring nothing ends with its deadline. Each of
    the requests has what was left when its attempt began for its limit. -/
theorem exceeded_of_ran {scope : Scope} {deadline : Moment} {rounds : Nat} {round : Round}
    {w : World (State τ)} {tries : List (Attempt (State τ))}
    {result : Outcome Reference × World (State τ)} {limit : Span}
    (h : Retry.Ran (outside c t) scope (World.claimAttempt (outside c t) scope.deadline) rounds
      round w tries result)
    (hretries : scope.retries = .onlyNoWork) (hdeadline : scope.deadline = some deadline)
    (start : w.scene.now < deadline) (short : deadline - w.scene.now ≤ limit.nanos)
    (within : limit.nanos ≤ c.timeout.nanos)
    (small : c.timeout.nanos < 0x1_0000_0000_0000_0000 * 1_000_000)
    (gives : round.generator.Gives (fun _ _ => True) result.2.scene.now rounds)
    (fruitless : ∀ x ∈ tries, Fruitless x) {r : Except WorkerError Reference}
    (hr : result.1 = .finished r) :
    Retry.Exceeded scope r result.2 ∧ result.2.scene.now ≤ deadline + 1_000_000 := by
  rw [hdeadline] at h
  refine h.exceeded (World.later_claimAttempt _ _) hretries hdeadline start (fun x hx => ?_)
    gives hr
  rcases h.left hdeadline start short x hx with ⟨hearly, hshort⟩
  rcases h.made x hx with ⟨-, hfailed, hended⟩
  exact barren_of_fruitless hearly hshort within small hfailed hended (fruitless x hx)

/-- A claim that finds a place and whose requests bring nothing ends with its
    deadline, or else it was cancelled. -/
theorem exceeded_of_fruitless {rounds : Nat} {action : Action} {w : World (State τ)} {limit : Span}
    (claim : action.isClaim = true) (place : w.worker.reserve? ≠ none)
    (limited : w.worker.config.consumeTimeout = some limit) (positive : 0 < limit.nanos)
    (within : limit.nanos ≤ c.timeout.nanos)
    (small : c.timeout.nanos < 0x1_0000_0000_0000_0000 * 1_000_000)
    (gives : (w.worker.config.backoff.start w.scene.now).Gives (fun _ _ => True)
      (w.perform (outside c t) rounds action).2.scene.now rounds)
    (fruitless : ∀ x ∈ w.attempts (outside c t) rounds action, Fruitless x)
    {r : Except WorkerError Reference}
    (returned : (w.perform (outside c t) rounds action).1 = .consumed (.finished r)) :
    (∃ l, w.loop? (outside c t) action = some l ∧
      Retry.Exceeded l.scope r (w.perform (outside c t) rounds action).2) ∧
    (w.perform (outside c t) rounds action).2.scene.now ≤
      w.scene.now + limit.nanos + 1_000_000 := by
  have hout : (w.perform (outside c t) rounds action).1.outcome? =
      some (Outcome.finished r).void := by
    rw [returned]
    rfl
  -- A place is there, and the deadline is one that the clock can show, so there is a loop.
  cases World.performed_perform hout with
  | looped l found shown =>
      have hbegun := World.begun_of_loop? found
      rcases World.attempt_of_loop? claim found with ⟨scope, start, rfl⟩
      have hdeadline : scope.deadline = some (w.scene.now + limit.nanos) := by
        have heq := hbegun.deadline_eq
        rw [Action.deadline?, if_pos claim] at heq
        exact World.deadline_of_deadline? limited heq
      have hretries : scope.retries = .onlyNoWork :=
        hbegun.retries_eq.trans (by rw [Action.retries, if_pos claim])
      have hnow : start.scene.now = w.scene.now := hbegun.now_eq
      have hpolicy : scope.policy = w.worker.config.backoff := hbegun.policy_eq
      rw [shown.now_eq, ← hpolicy, ← hnow] at gives
      rw [World.attempts_eq found] at fruitless
      rw [← hnow] at hdeadline
      rcases Outcome.finished_of_void shown.outcome_eq with ⟨r', hr', herror⟩
      rcases exceeded_of_ran (Retry.ran_run (outside c t) rounds scope _ start) hretries hdeadline
        (Nat.lt_add_of_pos_right positive) (Nat.le_of_eq (Nat.add_sub_cancel_left _ _)) within small
        gives fruitless hr' with ⟨hexceeded, hbounded⟩
      refine ⟨⟨_, found, ?_⟩, ?_⟩
      · rcases hexceeded with hexceeded | ⟨hcancelled, hsignal⟩
        · exact .inl (herror _ hexceeded)
        · exact .inr ⟨herror _ hcancelled, (shown.cancelled_eq _).trans hsignal⟩
      · rw [shown.now_eq, ← hnow]
        exact hbounded
  | full _ found taken => exact absurd taken place
  | timeless _ found late outcome_eq =>
      cases r <;> simp only [Outcome.void, reduceCtorEq] at outcome_eq

/-- There is a place for a claim as long as fewer have been claimed than may be. -/
theorem reserve?_of_balanced {config : Config} {references : List Reference} {w : World (State τ)}
    (h : World.Balanced config references w)
    (places : ∀ max, config.maxIntake = some max → references.length < max.toNat) :
    w.worker.reserve? ≠ none := by
  rw [Worker.reserve?, h.config_eq]
  cases hmax : config.maxIntake with
  | none => exact Option.some_ne_none _
  | some max =>
      have hfew : w.worker.reserved < max.toNat := by
        rw [h.reserved_eq max hmax]
        exact places max hmax
      simp only [if_pos hfew]
      exact Option.some_ne_none _

/-- A worker that may take less time for a claim than for a request, and that has
    claimed nothing yet, or at least not all that it may. Whatever it did before,
    and as long as its backoff does not give up, a claim whose requests bring
    nothing ends with its deadline, unless its signal was cancelled, and at the
    latest a millisecond after it. -/
theorem hanging_exceeds {s : Settings} {config : Config} {limit : Span} {scene : Scene}
    {state : State τ} {w₀ w₁ w : World (State τ)} (hbuild : s.build = .ok config)
    (limited : config.consumeTimeout = some limit)
    (within : limit.nanos ≤ config.httpTimeout.nanos)
    (small : config.httpTimeout.nanos < 0x1_0000_0000_0000_0000 * 1_000_000)
    (hprepare : World.prepare config scene state = .ok w₀)
    (hlaunch : w₀.launch (outside (.ofConfig config) t) = (.ok (), w₁))
    (before : List (Nat × Action))
    (hbefore : (w₁.performAll (outside (.ofConfig config) t) before).2 = w)
    (unserved : claims w.trace = [] ∨
      ∀ max, config.maxIntake = some max → (claims w.trace).length < max.toNat)
    {rounds : Nat} {action : Action} (claim : action.isClaim = true)
    (gives : (config.backoff.start w.scene.now).Gives (fun _ _ => True)
      (w.perform (outside (.ofConfig config) t) rounds action).2.scene.now rounds)
    (fruitless : ∀ x ∈ w.attempts (outside (.ofConfig config) t) rounds action, Fruitless x)
    {r : Except WorkerError Reference}
    (returned : (w.perform (outside (.ofConfig config) t) rounds action).1 =
      .consumed (.finished r)) :
    (∃ l, w.loop? (outside (.ofConfig config) t) action = some l ∧
      Retry.Exceeded l.scope r (w.perform (outside (.ofConfig config) t) rounds action).2) ∧
    (w.perform (outside (.ofConfig config) t) rounds action).2.scene.now ≤
      w.scene.now + limit.nanos + 1_000_000 := by
  rcases Settings.build_eq_ok_iff.mp hbuild with ⟨-, -, -, htimeout, -, hintake, -, -⟩
  have hbalanced : World.Balanced config (claims w.trace) w := by
    have hlaunched := World.balanced_launch (outside (.ofConfig config) t) hprepare
    rw [hlaunch] at hlaunched
    have hend := World.balanced_performAll (outside (.ofConfig config) t) before [] w₁ hlaunched
    rw [hbefore] at hend
    -- The references that were returned are those that were claimed.
    rwa [← hend.claims_eq] at hend
  have hpositive : 0 < limit.nanos := by
    rw [limited, Option.filter_eq_some_iff] at htimeout
    refine Nat.pos_of_ne_zero fun hzero => ?_
    simp [Span.isZero, hzero] at htimeout
  have hplaces : ∀ max, config.maxIntake = some max → (claims w.trace).length < max.toNat := by
    rcases unserved with hnone | hfew
    · -- A limit of no claims at all is none.
      intro max hmax
      rw [hmax, Option.filter_eq_some_iff] at hintake
      rw [hnone]
      exact UInt64.pos_iff_ne_zero.mpr (by simpa using hintake.2)
    · exact hfew
  have hlimited : w.worker.config.consumeTimeout = some limit :=
    (congrArg Config.consumeTimeout hbalanced.config_eq).trans limited
  have hbackoff : w.worker.config.backoff = config.backoff :=
    congrArg Config.backoff hbalanced.config_eq
  rw [← hbackoff] at gives
  exact exceeded_of_fruitless claim (reserve?_of_balanced hbalanced hplaces) hlimited hpositive
    within small gives fruitless returned

/-- A backend that is quick to say that there is no work, and then says nothing any
    more: each request after the first one hangs until its limit. -/
def Transport.stalling : Transport Nat where
  exchange := fun request n =>
    (if n = 0 then ⟨.ok ⟨204, []⟩, [⟨300_000, []⟩]⟩
      else ⟨.error .timedOut, [⟨request.timeoutMillis * 1_000_000, []⟩]⟩, n + 1)
  wait := fun _ _ n => ([], n)

end Http

/-- What has to be told to a worker that may take a millisecond and a half for a
    claim, hardly more for a request, and a tenth of one between two of them. -/
def Settings.pressed : Settings :=
  ((Settings.least.withConsumeTimeout (.ofNanos 1_500_000)).withHttpTimeout
    (.ofNanos 1_700_000)).withBackoff (.constant (.ofNanos 100_000))

/-- The worker that is told so. -/
def Config.pressed : Config :=
  { Config.retrying [.rooted] 0 with
    consumeTimeout := some (.ofNanos 1_500_000)
    backoff := .constant (.ofNanos 100_000)
    httpTimeout := .ofNanos 1_700_000 }

theorem Settings.build_pressed : pressed.build = .ok .pressed := by decide +kernel

namespace Http

/-- A claim of that worker with that backend: two requests, the first of which is
    answered, and the second one is not. -/
theorem fruitless_stalling : ∃ w₀ w : World (State Nat),
    World.prepare .pressed ⟨0, .empty⟩ ⟨0, []⟩ = .ok w₀ ∧
    w₀.launch (outside (.ofConfig .pressed) .stalling) = (.ok (), w) ∧
    (w.scene.now = 0 ∧ claims w.trace = []) ∧
    (∃ x y, w.attempts (outside (.ofConfig .pressed) .stalling) 3 .consume = [x, y] ∧
      Fruitless x ∧ Fruitless y) ∧
    (w.perform (outside (.ofConfig .pressed) .stalling) 3 .consume).2.scene.now = 1_400_000 ∧
    (w.perform (outside (.ofConfig .pressed) .stalling) 3 .consume).1 =
      .consumed (.finished (.error .deadlineExceeded)) := by
  have hprepare : World.prepare .pressed ⟨0, .empty⟩ (⟨0, []⟩ : State Nat) = .ok _ := rfl
  refine ⟨_, _, hprepare, rfl, ⟨rfl, rfl⟩, ⟨_, _, rfl, ?_, ?_⟩, ?_, ?_⟩
  · exact .answered _ rfl (by decide +kernel) (by decide +kernel)
  · exact .hanging _ rfl rfl (by decide +kernel)
  · decide +kernel
  · rfl

/-- The second request is given up a tenth of a millisecond before the deadline,
    since its limit has to be in whole milliseconds. -/
theorem hanging_exceeds_stalling : ∃ (w₀ w : World (State Nat)) (l : Loop (State Nat)),
    Settings.pressed.build = .ok .pressed ∧
    World.prepare .pressed ⟨0, .empty⟩ ⟨0, []⟩ = .ok w₀ ∧
    w₀.launch (outside (.ofConfig .pressed) .stalling) = (.ok (), w) ∧
    w.loop? (outside (.ofConfig .pressed) .stalling) .consume = some l ∧
    Retry.Exceeded l.scope (.error .deadlineExceeded : Except WorkerError Reference)
      (w.perform (outside (.ofConfig .pressed) .stalling) 3 .consume).2 ∧
    (w.perform (outside (.ofConfig .pressed) .stalling) 3 .consume).2.scene.now = 1_400_000 ∧
    1_400_000 ≤ w.scene.now + 1_500_000 + 1_000_000 := by
  rcases fruitless_stalling with
    ⟨w₀, w, hprepare, hlaunch, ⟨hnow, hclaims⟩, ⟨x, y, hattempts, hx, hy⟩, hend, hreturned⟩
  have hfruitless : ∀ v ∈ w.attempts (outside (.ofConfig .pressed) .stalling) 3 .consume,
      Fruitless v := by
    rw [hattempts]
    intro v hv
    rcases List.mem_pair.mp hv with rfl | rfl
    · exact hx
    · exact hy
  rcases hanging_exceeds Settings.build_pressed rfl (by decide) (by decide) hprepare hlaunch [] rfl
    (.inl hclaims) rfl (Generator.gives_constant (fun _ _ => trivial) 3) hfruitless hreturned with
    ⟨⟨l, found, hexceeded⟩, hbounded⟩
  exact ⟨w₀, w, l, Settings.build_pressed, hprepare, hlaunch, found, hexceeded, hend,
    Nat.le_trans (Nat.le_of_eq hend.symm) hbounded⟩

end Http

end EventFlow
