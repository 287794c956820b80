import EventFlow.Proofs.Worker.Course

/-!
# Claims and Their Deadline

What a limit on the time of a claim does to its attempts and to its end.

A loop with a deadline looks at the clock in three places: before an attempt,
after one that failed, and while it waits for the next. The end of an attempt
is nothing that it can choose, so a claim may end late, but then because its
last attempt did, and if that attempt brought a unit of work, the claim returns
it. `Timely` puts together what can be relied on, and `Ran.timely` shows it of
every loop with a deadline, from the ways in which the last attempt and its
aftermath can go.

Nothing is asked of the policy, the delays or the answers, and nothing of the
signals: a claim that is cancelled keeps to its deadline as well.

## Main definitions

* `Retry.Timely`: A loop kept to its deadline.

## Theorems

* `standing_of_timeout`: How a timeout stands to the deadline.
* `timely_of_aftermath`: What follows a failure keeps to the deadline.
* `Ran.timely`: A loop keeps to its deadline.
* `World.claim_timely`: So does a claim, and one that succeeds is returned.
-/

namespace EventFlow

namespace Retry

variable {σ α : Type} {b : Outside σ} {scope : Scope} {deadline : Moment}
  {attempt : UInt32 → World σ → Except SessionError α × World σ}

/-- A loop that made these attempts and came to this end in the world `w` kept to
    its deadline. How long an attempt takes is not restricted: only the beginnings
    of the attempts and of the waits are in the hands of the loop. -/
structure Timely (deadline : Moment) (tries : List (Attempt σ)) (outcome : Outcome Unit)
    (w : World σ) : Prop where
  /-- No attempt begins at the deadline or after it. -/
  early : ∀ x ∈ tries, x.before.scene.now < deadline
  /-- Only the last attempt may last longer. -/
  bounded : w.scene.now ≤ deadline ∨
    ∃ last, tries.getLast? = some last ∧ w.scene.now ≤ last.after.scene.now
  /-- The deadline is reported only if it has come, or if a timeout was no more
      than ten milliseconds ahead of it. -/
  exceeded : outcome.error? = some .deadlineExceeded → deadline ≤ w.scene.now ∨
    ∃ last e, tries.getLast? = some last ∧ last.failure = some e ∧ e.isTimeout = true ∧
      deadline ≤ last.after.scene.now + 10_000_000
  /-- A session error is reported only if it came before the deadline, and well
      before it if it was a timeout. -/
  failed : ∀ e, outcome.source? = some e →
    ∃ last, tries.getLast? = some last ∧ last.failure = some e ∧
      last.after.scene.now < deadline ∧
      (e.isTimeout = true → last.after.scene.now + 10_000_000 < deadline)
  /-- An attempt that succeeds counts, whenever it ends. -/
  succeeded : ∀ x ∈ tries, x.failure = none → outcome = .finished (.ok ())
  /-- Only before the deadline is there anything left to try. -/
  pending : outcome = .unfinished → w.scene.now < deadline

/-- Where no error is reported, it is enough to look at the clock: the two parts
    about errors have nothing to say. -/
theorem Timely.of_quiet {tries : List (Attempt σ)} {outcome : Outcome Unit} {w : World σ}
    (early : ∀ x ∈ tries, x.before.scene.now < deadline)
    (bounded : w.scene.now ≤ deadline ∨
      ∃ last, tries.getLast? = some last ∧ w.scene.now ≤ last.after.scene.now)
    (quiet : outcome.error? = none)
    (succeeded : ∀ x ∈ tries, x.failure = none → outcome = .finished (.ok ()))
    (pending : outcome = .unfinished → w.scene.now < deadline) :
    Timely deadline tries outcome w := by
  refine ⟨early, bounded, fun heq => ?_, fun e heq => ?_, succeeded, pending⟩
  · simp only [quiet, reduceCtorEq] at heq
  · simp only [Outcome.source?, quiet, Option.bind_none, reduceCtorEq] at heq

/-! ## After a failure -/

/-- Only a timeout is cut short by the deadline, and only ten milliseconds before
    it. The sum can be too late for the clock, and then a timeout is neither before
    the deadline nor cut short. -/
theorem standing_of_timeout {now : Moment} {e : SessionError} :
    (standing (some deadline) now e = .cutShort →
      e.isTimeout = true ∧ deadline ≤ now + 10_000_000) ∧
    (standing (some deadline) now e = .before → e.isTimeout = true →
      now + 10_000_000 < deadline) := by
  rw [standing]
  by_cases htime : e.isTimeout = true
  · simp only [if_pos htime]
    cases hsoon : Moment.add? now slack with
    | none => exact ⟨nofun, nofun⟩
    | some soon =>
        have hsoon : soon = now + 10_000_000 := Moment.add?_eq_some hsoon
        subst hsoon
        by_cases hle : deadline ≤ now + 10_000_000
        · simp only [if_pos hle]
          exact ⟨fun _ => ⟨htime, hle⟩, nofun⟩
        · simp only [if_neg hle]
          exact ⟨nofun, fun _ _ => Nat.not_le.mp hle⟩
  · simp only [if_neg htime]
    exact ⟨nofun, fun _ h => absurd h htime⟩

/-- An interrupt that is reported as the deadline was found there. -/
theorem le_now_of_interrupt {w : World σ} {interrupt : Signals.Interrupt}
    (hdeadline : scope.deadline = some deadline)
    (found : w.scene.check scope.signal scope.deadline = some interrupt)
    (h : WorkerError.ofInterrupt interrupt = .deadlineExceeded) : deadline ≤ w.scene.now := by
  cases interrupt with
  | cancelled => simp only [WorkerError.ofInterrupt, reduceCtorEq] at h
  | deadlineExceeded =>
      rcases Scene.le_now_of_check found with ⟨d, hd, hle⟩
      rw [hdeadline, Option.some.injEq] at hd
      exact hd ▸ hle

/-- What follows a failed attempt keeps to the deadline: it ends where the attempt
    did, or with a wait, and a wait is never longer than up to the deadline. -/
theorem timely_of_aftermath {round : Round} {e : SessionError} {w w' : World σ}
    {outcome : Outcome α} (hdeadline : scope.deadline = some deadline)
    (h : Aftermath b scope round e w (.inl outcome, w')) :
    (w'.scene.now ≤ deadline ∨ w'.scene.now ≤ w.scene.now) ∧
    (outcome.error? = some .deadlineExceeded → deadline ≤ w'.scene.now ∨
      e.isTimeout = true ∧ deadline ≤ w.scene.now + 10_000_000) := by
  -- The deadline is named in two ways: where a look finds it, and where a timeout came too close
  -- to it.
  cases h with
  | interrupted interrupt found =>
      exact ⟨.inr (Nat.le_refl _), fun heq =>
        .inl (le_now_of_interrupt hdeadline found (Option.some.inj heq))⟩
  | unclear | tooLong | final | gaveUp =>
      refine ⟨.inr (Nat.le_refl _), fun heq => ?_⟩
      simp only [Outcome.error?, Option.some.injEq, reduceCtorEq] at heq
  | cutShort calm close =>
      rw [hdeadline] at close
      exact ⟨.inr (Nat.le_refl _), fun _ => .inr (standing_of_timeout.1 close)⟩
  | woken interval wake interrupt calm early retried asked ends waited =>
      have hfound := World.check_await b scope wake (w.record (.interval (some interval)))
      rw [waited] at hfound
      refine ⟨.inl ?_, fun heq =>
        .inl (le_now_of_interrupt hdeadline hfound (Option.some.inj heq))⟩
      -- The wait began before the deadline and does not go on beyond it.
      have hle := World.now_await_le b scope wake (w.record (.interval (some interval)))
      have hlt := (Scene.check_eq_none.mp calm).2 deadline hdeadline
      rw [hdeadline] at hle
      exact Nat.le_trans hle (Nat.max_le.mpr ⟨Nat.le_of_lt hlt, Nat.min_le_right _ _⟩)

/-! ## Loops -/

variable {rounds : Nat} {round : Round} {w : World σ} {tries : List (Attempt σ)}
  {result : Outcome α × World σ}

/-- A loop with a deadline ahead of it keeps to that. Each attempt is preceded by a
    look at the clock; the rest depends on the last attempt and what came of it. -/
theorem Ran.timely (h : Ran b scope attempt rounds round w tries result)
    (hdeadline : scope.deadline = some deadline) (start : w.scene.now < deadline) :
    Timely deadline tries result.1.void result.2 := by
  have early : ∀ x ∈ tries, x.before.scene.now < deadline := fun x hx =>
    (Scene.check_eq_none.mp (h.made x hx).1).2 deadline hdeadline
  have succeeded : ∀ x ∈ tries, x.failure = none → result.1.void = .finished (.ok ()) := by
    intro x hx fine
    rcases h.ok_of_succeeded hx fine with ⟨a, rfl⟩
    rfl
  by_cases hne : tries = []
  · -- No time has passed.
    subst hne
    cases h with
    | unfinished => exact .of_quiet early (.inl (Nat.le_of_lt start)) rfl succeeded fun _ => start
    | interrupted interrupt found =>
        refine ⟨early, .inl (Nat.le_of_lt start), fun heq => .inl ?_, fun e hsource => ?_,
          succeeded, fun _ => start⟩
        · exact le_now_of_interrupt hdeadline found (Option.some.inj heq)
        · rw [Outcome.source?_void, Outcome.source?_ofInterrupt] at hsource
          simp only [reduceCtorEq] at hsource
  · rcases h.closing hne with ⟨init, last, hlast, hclosing⟩
    have hlast : tries.getLast? = some last := by rw [hlast, List.getLast?_concat]
    -- What is left is how the last attempt went.
    cases hclosing with
    | succeeded a fine tried =>
        refine .of_quiet early (.inr ⟨last, hlast, Nat.le_refl _⟩) rfl succeeded fun heq => ?_
        simp only [Outcome.void, reduceCtorEq] at heq
    | failed e outcome w' failure after =>
        rcases timely_of_aftermath hdeadline after with ⟨hbounded, hexceeded⟩
        rw [← Outcome.error?_void] at hexceeded
        refine ⟨early, hbounded.imp_right fun hle => ⟨last, hlast, hle⟩, fun heq => ?_,
          fun e' hsource => ?_, succeeded, fun heq => ?_⟩
        · exact (hexceeded heq).imp_right fun hclose => ⟨last, e, hlast, failure, hclose⟩
        · rw [Outcome.source?_void] at hsource
          rcases reported_of_aftermath after hsource with ⟨rfl, calm, hearly, -⟩
          rw [hdeadline] at hearly
          exact ⟨last, hlast, failure, (Scene.check_eq_none.mp calm).2 deadline hdeadline,
            standing_of_timeout.2 hearly⟩
        · exact absurd (Outcome.unfinished_of_void heq) (ne_unfinished_of_aftermath after)
    | unfinished e interval w' failure retried resumed =>
        -- The last wait was not cut at the deadline.
        have hlt := (Scene.check_eq_none.mp resumed.calm).2 deadline hdeadline
        exact .of_quiet early (.inl (Nat.le_of_lt hlt)) rfl succeeded fun _ => hlt

end Retry

namespace World

variable {σ : Type}

/-- The deadline of a claim is its limit away from where it begins, if the clock can
    show it. -/
theorem deadline_of_deadline? {w : World σ} {limit : Span} {deadline : Option Moment}
    (limited : w.worker.config.consumeTimeout = some limit) (h : w.deadline? = some deadline) :
    deadline = some (w.scene.now + limit.nanos) := by
  rw [deadline?, limited] at h
  rcases Option.map_eq_some_iff.mp h with ⟨d, hd, rfl⟩
  rw [Moment.add?_eq_some hd]

/-- A claim that ended well returned a reference. -/
theorem consumed_of_ok {b : Outside σ} {rounds : Nat} {action : Action} {w : World σ}
    (claim : action.isClaim = true)
    (h : (w.perform b rounds action).1.outcome? = some (.finished (.ok ()))) :
    ∃ reference, (w.perform b rounds action).1 = .consumed (.finished (.ok reference)) := by
  cases action with
  | consume =>
      rcases Outcome.ok_of_void (Option.some.inj h) with ⟨reference, heq⟩
      exact ⟨reference, congrArg Result.consumed heq⟩
  | consumeWith signal =>
      rcases Outcome.ok_of_void (Option.some.inj h) with ⟨reference, heq⟩
      exact ⟨reference, congrArg Result.consumed heq⟩
  | get | ack | produce | shutDown | arrange => exact absurd claim Bool.false_ne_true

/-- An action returns what it claims: the trace has one more claim that was
    answered, and its reference, exactly if the action returns one. -/
theorem claims_perform (b : Outside σ) (rounds : Nat) (action : Action) (w : World σ) :
    claims (w.perform b rounds action).2.trace =
      claims w.trace ++ (w.perform b rounds action).1.reference?.toList := by
  cases action with
  | consume => exact claims_consume b rounds w
  | consumeWith signal => exact claims_consumeWith b rounds signal w
  | get reference => exact (claims_get b rounds reference w).trans (List.append_nil _).symm
  | ack reference options =>
      exact (claims_ack b rounds reference options w).trans (List.append_nil _).symm
  | produce message => exact (claims_produce b rounds message w).trans (List.append_nil _).symm
  | shutDown | arrange => exact (List.append_nil _).symm

/-- An operation keeps to a deadline if its loop does, since it shows the outcome
    and the time of its loop. -/
theorem timely_of_shown {b : Outside σ} {rounds : Nat} {l : Loop σ} {deadline : Moment}
    {tries : List (Attempt σ)} {outcome : Outcome Unit} {w : World σ}
    (h : Retry.Timely deadline tries (l.run b rounds).1.void (l.run b rounds).2)
    (shown : l.Shown b rounds outcome w) : Retry.Timely deadline tries outcome w := by
  rcases h with ⟨early, bounded, exceeded, failed, succeeded, pending⟩
  rw [← shown.outcome_eq] at exceeded failed succeeded pending
  rw [← shown.now_eq] at bounded exceeded pending
  exact ⟨early, bounded, exceeded, failed, succeeded, pending⟩

/-- A claim keeps to its deadline with the attempts that it makes. One that succeeds
    is returned, even if it comes late: the reference is the one that the session answered with. -/
theorem claim_timely (b : Outside σ) (rounds : Nat) (action : Action) (w : World σ) {limit : Span}
    (claim : action.isClaim = true) (limited : w.worker.config.consumeTimeout = some limit)
    (positive : 0 < limit.nanos) {outcome : Outcome Unit}
    (h : (w.perform b rounds action).1.outcome? = some outcome) :
    w.Made b rounds action (w.attempts b rounds action) outcome (w.perform b rounds action).2 ∧
    Retry.Timely (w.scene.now + limit.nanos) (w.attempts b rounds action) outcome
      (w.perform b rounds action).2 ∧
    ∀ x ∈ w.attempts b rounds action, x.failure = none → ∃ reference,
      (w.perform b rounds action).1 = .consumed (.finished (.ok reference)) ∧
      claims x.after.trace = claims w.trace ++ [reference] := by
  refine ⟨made_perform h, ?_⟩
  -- A claim without a loop ends at the moment at which it began.
  cases performed_perform h with
  | looped l found shown =>
      have hbegun := begun_of_loop? found
      have hran := Retry.ran_run b rounds l.scope l.attempt l.start
      have hdeadline : l.scope.deadline = some (w.scene.now + limit.nanos) := by
        have heq := hbegun.deadline_eq
        rw [Action.deadline?, if_pos claim] at heq
        exact deadline_of_deadline? limited heq
      have htimely := hran.timely hdeadline
        (Nat.lt_of_le_of_lt (Nat.le_of_eq hbegun.now_eq) (Nat.lt_add_of_pos_right positive))
      rw [attempts_eq found]
      refine ⟨timely_of_shown htimely shown, fun x hx fine => ?_⟩
      rcases hran.ok_of_succeeded hx fine with ⟨a, hresult⟩
      have hok : outcome = .finished (.ok ()) :=
        shown.outcome_eq.trans (htimely.succeeded x hx fine)
      rcases consumed_of_ok claim (hok ▸ h) with ⟨reference, href⟩
      -- What the claim added to the trace was there when the attempt ended.
      have hclaims := claims_perform b rounds action w
      have hend : (l.run b rounds).2 = x.after := congrArg Prod.snd hresult
      rw [href, shown.trace_eq, hend] at hclaims
      exact ⟨reference, href, hclaims⟩
  | full _ found taken outcome_eq trace_eq now_eq =>
      rcases outcome_eq with ⟨max, rfl⟩
      have hend := Nat.lt_of_le_of_lt (Nat.le_of_eq now_eq) (Nat.lt_add_of_pos_right positive)
      rw [attempts_eq_nil found]
      refine ⟨⟨fun x hx => absurd hx List.not_mem_nil, .inl (Nat.le_of_lt hend), fun heq => ?_,
        fun e heq => ?_, fun x hx => absurd hx List.not_mem_nil, fun _ => hend⟩,
        fun x hx => absurd hx List.not_mem_nil⟩
      · simp only [Outcome.error?, Option.some.injEq, reduceCtorEq] at heq
      · simp only [Outcome.source?, Outcome.error?, Option.bind_some, WorkerError.source?,
          reduceCtorEq] at heq
  | timeless _ found late outcome_eq trace_eq now_eq =>
      subst outcome_eq
      have hend := Nat.lt_of_le_of_lt (Nat.le_of_eq now_eq) (Nat.lt_add_of_pos_right positive)
      rw [attempts_eq_nil found]
      exact ⟨.of_quiet (fun x hx => absurd hx List.not_mem_nil) (.inl (Nat.le_of_lt hend)) rfl
        (fun x hx => absurd hx List.not_mem_nil) fun _ => hend,
        fun x hx => absurd hx List.not_mem_nil⟩

end World

/-- A backend with nothing to do at first, and with a unit of work that it takes
    its time to hand out. -/
def Outside.slow : Outside Nat where
  connect := fun n e => (⟨.ok (), []⟩, e, n)
  answer := fun _ call n e =>
    (match call with
      | .claim _ => if n = 0 then ⟨.error .noWork, [⟨40, []⟩]⟩
          else ⟨.ok ⟨"a", "e", none⟩, [⟨100, []⟩]⟩
      | .fetch _ | .acknowledge _ _ | .reserve | .submit _ _ => ⟨.error .notFound, []⟩, e, n + 1)
  wait := fun _ _ n => ([], n)

/-- A worker that may take a hundred nanoseconds for a claim, and waits for ten
    before it tries again. -/
def Config.hasty : Config :=
  { Config.oneClaim with consumeTimeout := some (.ofNanos 100), backoff := .constant (.ofNanos 10) }

namespace World

/-- The second attempt begins in time, at 50 ns, and ends late, at 150 ns; what it
    claimed is returned all the same. -/
theorem claim_timely_slow : ∃ w, prepare .hasty ⟨0, .empty⟩ 0 = .ok w ∧
    Retry.Timely 100 (w.attempts .slow 2 .consume) (.finished (.ok ()))
      (w.perform .slow 2 .consume).2 ∧
    (w.attempts .slow 2 .consume).length = 2 ∧ (w.perform .slow 2 .consume).2.scene.now = 150 := by
  refine ⟨_, rfl, ?_, rfl, rfl⟩
  exact And.left (And.right
    (@claim_timely Nat .slow 2 .consume ⟨_, ⟨0, _⟩, _, _⟩ (.ofNanos 100) rfl (by rfl) (by decide) _
      (by rfl)))

end World

end EventFlow
