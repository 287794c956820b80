import EventFlow.Proofs.Worker.Course
import EventFlow.Proofs.Worker.Retries

/-!
# Retries Add Up

How often an operation is tried, what lies between two attempts, and what the
errors say about it that speak of attempts.

The number of an attempt is kept by the loop, and the number of retries that
are left is kept by a generator inside a policy, so the two can only agree if
the generator is asked exactly once after every attempt but the last, and not
at all before the first. `Accounted` says so of a whole run, together with the
two errors that depend on it: that the backoff gave up, which names the number
of attempts, and that an error is not tried again after. Both the number of an
attempt and the number of attempts have 32 bits, so they are what they say as
long as there are fewer attempts than that.

Every run makes its generator anew. A limit on retries therefore holds for each
operation by itself, whatever was done with the worker before; and since the
limit is all that `maxRetries` adds to the policy inside it, an operation that
nothing else ends makes full use of it.

## Main definitions

* `Retry.Undisturbed`: A failure that neither a signal nor the deadline
  explains.
* `Retry.Accounted`: The books of a run.
* `World.Limited`: A limit on retries holds for an operation.

## Theorems

* `exhausted_of_stop`, `session_of_refused`: Where the two errors come from.
* `accounted_run`: The books of every run are in order.
* `length_eq_of_maxRetries`: A limit on retries is made full use of.
* `World.retries_accounted`: Both, for the operations of a worker.
-/

namespace EventFlow

namespace Retry

variable {σ α : Type} {b : Outside σ} {scope : Scope}
  {attempt : UInt32 → World σ → Except SessionError α × World σ}

/-- The attempt `x` failed with `e`, and neither an interruption nor the deadline
    had to do with it. Such a failure is decided by the error and by the backoff
    alone. -/
structure Undisturbed (scope : Scope) (x : Attempt σ) (e : SessionError) : Prop where
  failure : x.failure = some e
  calm : x.after.scene.check scope.signal scope.deadline = none
  early : standing scope.deadline x.after.scene.now e = .before

/-- The books of a run that began in the world `w`, made these attempts and
    came to this end. -/
structure Accounted (b : Outside σ) (rounds : Nat) (scope : Scope)
    (attempt : UInt32 → World σ → Except SessionError α × World σ) (w : World σ)
    (tries : List (Attempt σ)) (result : Outcome α × World σ) : Prop where
  /-- These are the attempts of the run, and it has no others. -/
  course : Ran b scope attempt rounds (firstRound scope w) (w.record (.start scope.operation)) tries
    result
  /-- Nothing comes before the first attempt. -/
  first : ∀ x, tries.head? = some x → x.before = w.record (.start scope.operation)
  /-- The attempts are numbered from one, without gap or repeat, as long as the
      numbers last. -/
  numbers : tries.length < UInt32.size → tries.map (·.number.toNat) = List.range' 1 tries.length
  /-- Each is one call of what is attempted, with its number. -/
  made : ∀ x ∈ tries, failureOf (attempt x.number x.before).1 = x.failure ∧
    (attempt x.number x.before).2 = x.after
  /-- Between two of them one interval was taken and waited for, after an error
    that is tried again after. -/
  retried : ∀ (i : Nat) (x y : Attempt σ), tries[i]? = some x → tries[i + 1]? = some y →
    Retried scope (asked (firstRound scope w) (tries.take i)) x y
  /-- The backoff is reported to have given up if it said stop after the last
    attempt. -/
  exhausted_iff : (∃ operation attempts elapsed e,
      result.1 = .finished (.error (.exhausted operation attempts elapsed e))) ↔
    ∃ last, tries.getLast? = some last ∧
      result.2.trace = .interval none :: last.after.trace
  /-- That report has the number of the attempts and the error of the last. -/
  exhausted : ∀ operation attempts elapsed e,
    result.1 = .finished (.error (.exhausted operation attempts elapsed e)) →
      operation = scope.operation ∧ (tries.length < UInt32.size → attempts.toNat = tries.length) ∧
      ∃ last, tries.getLast? = some last ∧ Undisturbed scope last e ∧
        elapsed = Span.ofNanos (last.after.scene.now - w.scene.now) ∧
        scope.retries.retries e = true ∧
        ((asked (firstRound scope w) tries.dropLast).next last.after.scene.now).1 = none
  /-- An error is reported alone if it is that of the last attempt and not tried
    again after. -/
  session_iff : ∀ operation e, result.1 = .finished (.error (.session operation e)) ↔
    operation = scope.operation ∧ ∃ last, tries.getLast? = some last ∧
      Undisturbed scope last e ∧ scope.retries.retries e = false

/-! ## The two errors -/

variable {round : Round} {e : SessionError} {w w' : World σ} {outcome : Outcome α}

/-- A stop is noted only where the backoff is reported to have given up, so the
    trace tells that end of a run from all others. -/
theorem exhausted_of_stop (h : Aftermath b scope round e w (.inl outcome, w'))
    (htrace : w'.trace = .interval none :: w.trace) :
    outcome = .finished (.error (.exhausted scope.operation round.attempt
      (Span.ofNanos (w.scene.now - round.started)) e)) := by
  cases h with
  | interrupted | unclear | cutShort | final =>
      exact absurd htrace.symm (List.cons_ne_self _ _)
  | gaveUp => rfl
  | tooLong interval | woken interval =>
      -- What was noted is an interval.
      have hevent := (List.cons.inj htrace).1
      simp only [Event.interval.injEq, reduceCtorEq] at hevent

/-- An error that is not tried again after is reported, unless something else
    explains it. The backoff has no say in this: it is not even asked. -/
theorem session_of_refused (h : Aftermath b scope round e w (.inl outcome, w'))
    (calm : w.scene.check scope.signal scope.deadline = none)
    (early : standing scope.deadline w.scene.now e = .before)
    (refused : scope.retries.retries e = false) :
    outcome = .finished (.error (.session scope.operation e)) := by
  -- Each other end was reached by a test that this failure does not pass.
  cases h with
  | interrupted interrupt found => simp only [calm, reduceCtorEq] at found
  | unclear _ close | cutShort _ close => simp only [early, reduceCtorEq] at close
  | final => rfl
  | gaveUp _ _ retried | tooLong _ _ _ retried | woken _ _ _ _ _ retried =>
      simp only [refused, Bool.false_eq_true] at retried

variable {rounds : Nat} {last : Attempt σ} {tries : List (Attempt σ)}
  {result : Outcome α × World σ}

/-- A session error that is reported is that of the last attempt. It comes alone if
    it is not tried again after, and with the number of attempts if the backoff gave
    up. -/
theorem Closing.reported (h : Closing b scope attempt round last result)
    (hsource : result.1.source? = some e) : Undisturbed scope last e ∧
    (scope.retries.retries e = false ∧
      result.1 = .finished (.error (.session scope.operation e)) ∨
    scope.retries.retries e = true ∧ (round.generator.next last.after.scene.now).1 = none ∧
      result.1 = .finished (.error (.exhausted scope.operation round.attempt
        (Span.ofNanos (last.after.scene.now - round.started)) e)) ∧
      result.2.trace = .interval none :: last.after.trace) := by
  cases h with
  | succeeded | unfinished =>
      simp only [Outcome.source?, Outcome.error?, Option.bind_none, reduceCtorEq] at hsource
  | failed e' outcome w failure after =>
      rcases reported_of_aftermath after hsource with ⟨rfl, calm, early, hcase⟩
      exact ⟨⟨failure, calm, early⟩, hcase⟩

/-- If the last that was noted of a loop is a stop, then that is what it reports.
    This is the converse of the last part of `Closing.reported`. -/
theorem Closing.exhausted_of_stop (h : Closing b scope attempt round last result)
    (htrace : result.2.trace = .interval none :: last.after.trace) :
    ∃ elapsed e, result.1 =
      .finished (.error (.exhausted scope.operation round.attempt elapsed e)) := by
  cases h with
  -- A success notes nothing after its attempt.
  | succeeded => exact absurd htrace.symm (List.cons_ne_self _ _)
  | failed e outcome w failure after => exact ⟨_, e, Retry.exhausted_of_stop after htrace⟩
  | unfinished e interval w failure retried resumed =>
      rw [resumed.trace_eq] at htrace
      simp only [List.cons.injEq, Event.interval.injEq, reduceCtorEq, false_and] at htrace

/-- A last attempt that fails with an error that is not tried again after,
    undisturbed, has the loop report that error. -/
theorem Closing.session_of_refused (h : Closing b scope attempt round last result)
    (undisturbed : Undisturbed scope last e) (refused : scope.retries.retries e = false) :
    result.1 = .finished (.error (.session scope.operation e)) := by
  cases h with
  | succeeded a fine => simp only [undisturbed.failure, reduceCtorEq] at fine
  | failed e' outcome w failure after =>
      rw [undisturbed.failure, Option.some.injEq] at failure
      subst failure
      exact Retry.session_of_refused after undisturbed.calm undisturbed.early refused
  -- After a wait the error was one that is tried again after.
  | unfinished e' interval w failure retried =>
      rw [undisturbed.failure, Option.some.injEq] at failure
      subst failure
      simp only [refused, Bool.false_eq_true] at retried

/-- Without attempts there is no session error to report. -/
theorem Ran.source?_nil (h : Ran b scope attempt rounds round w [] result) :
    result.1.source? = none := by
  cases h with
  | unfinished => rfl
  | interrupted interrupt => exact Outcome.source?_ofInterrupt interrupt

/-- A loop with a last attempt ends with what followed it. -/
theorem Ran.closing_of_getLast? (h : Ran b scope attempt rounds round w tries result)
    (hlast : tries.getLast? = some last) : ∃ init, tries = init ++ [last] ∧
    Closing b scope attempt (roundAfter round init) last result := by
  have hne : tries ≠ [] := by
    rintro rfl
    exact Option.some_ne_none last hlast.symm
  rcases h.closing hne with ⟨init, last', rfl, hclosing⟩
  rw [List.getLast?_concat, Option.some.injEq] at hlast
  exact ⟨init, by rw [hlast], hlast ▸ hclosing⟩

/-- A loop that reports a session error made an attempt: without one there is no
    error of the session that it could report. -/
theorem Ran.getLast?_of_source? (h : Ran b scope attempt rounds round w tries result)
    (hsource : result.1.source? = some e) : ∃ last, tries.getLast? = some last := by
  cases htries : tries.getLast? with
  | some last => exact ⟨last, rfl⟩
  | none =>
      obtain rfl := List.getLast?_eq_none_iff.mp htries
      simp only [h.source?_nil, reduceCtorEq] at hsource

/-! ## Runs -/

/-- What it means that the backoff is reported to have given up: the error is that
    of the last attempt, the generator said stop after it, and the count is the
    number that the attempt had. -/
theorem Ran.of_exhausted (h : Ran b scope attempt rounds round w tries result)
    {operation : Operation} {count : UInt32} {elapsed : Span}
    (heq : result.1 = .finished (.error (.exhausted operation count elapsed e))) :
    ∃ init last, tries = init ++ [last] ∧ Undisturbed scope last e ∧
      operation = scope.operation ∧ count = round.attempt + UInt32.ofNat init.length ∧
      elapsed = Span.ofNanos (last.after.scene.now - round.started) ∧
      scope.retries.retries e = true ∧ ((asked round init).next last.after.scene.now).1 = none ∧
      result.2.trace = .interval none :: last.after.trace := by
  have hsource : result.1.source? = some e := congrArg Outcome.source? heq
  rcases h.getLast?_of_source? hsource with ⟨last, hlast⟩
  rcases h.closing_of_getLast? hlast with ⟨init, htries, hclosing⟩
  -- Of the two ways in which a session error is reported, the first has another constructor.
  rcases hclosing.reported hsource with ⟨hundisturbed, ⟨-, heq'⟩ | ⟨retried, stop, heq', htrace⟩⟩
  · simp only [heq, Outcome.finished.injEq, Except.error.injEq, reduceCtorEq] at heq'
  · simp only [heq, Outcome.finished.injEq, Except.error.injEq, WorkerError.exhausted.injEq,
      and_true] at heq'
    exact ⟨init, last, htries, hundisturbed, heq'.1, heq'.2.1, heq'.2.2, retried, stop, htrace⟩

/-- What it means that an error is reported alone: it is that of the last attempt,
    and one that is not tried again after. -/
theorem Ran.of_session (h : Ran b scope attempt rounds round w tries result)
    {operation : Operation} (heq : result.1 = .finished (.error (.session operation e))) :
    operation = scope.operation ∧ ∃ last, tries.getLast? = some last ∧
      Undisturbed scope last e ∧ scope.retries.retries e = false := by
  have hsource : result.1.source? = some e := congrArg Outcome.source? heq
  rcases h.getLast?_of_source? hsource with ⟨last, hlast⟩
  rcases h.closing_of_getLast? hlast with ⟨init, -, hclosing⟩
  rcases hclosing.reported hsource with ⟨hundisturbed, ⟨refused, heq'⟩ | ⟨-, -, heq', -⟩⟩
  · simp only [heq, Outcome.finished.injEq, Except.error.injEq, WorkerError.session.injEq,
      and_true] at heq'
    exact ⟨heq', last, hlast, hundisturbed, refused⟩
  · simp only [heq, Outcome.finished.injEq, Except.error.injEq, reduceCtorEq] at heq'

/-- The books of every run are in order. Both halves of each equivalence come from
    the end of the loop: `Ran.of_exhausted` and `Ran.of_session` read the error, and
    the lemmas on `Closing` make it. -/
theorem accounted_run (b : Outside σ) (rounds : Nat) (scope : Scope)
    (attempt : UInt32 → World σ → Except SessionError α × World σ) (w : World σ) :
    Accounted b rounds scope attempt w (attempts b rounds scope attempt w)
      (run b rounds scope attempt w) := by
  have hran := ran_run b rounds scope attempt w
  generalize attempts b rounds scope attempt w = tries at hran
  generalize run b rounds scope attempt w = result at hran
  refine ⟨hran, ?first, hran.numbers_toNat rfl, fun x hx => (hran.made x hx).2, hran.retried,
    ⟨?stopped, ?gaveUp⟩, ?exhausted, fun operation e => ⟨hran.of_session, ?refused⟩⟩
  case first =>
    intro x hx
    cases tries with
    | nil => simp only [List.head?_nil, reduceCtorEq] at hx
    | cons y rest =>
        obtain rfl := Option.some.inj hx
        exact hran.before_head
  case stopped =>
    rintro ⟨_, _, _, e, heq⟩
    rcases hran.of_exhausted heq with ⟨init, last, rfl, -, -, -, -, -, -, htrace⟩
    exact ⟨last, List.getLast?_concat, htrace⟩
  -- The converse starts from the trace, and has to find the error.
  case gaveUp =>
    rintro ⟨last, hlast, htrace⟩
    rcases hran.closing_of_getLast? hlast with ⟨init, -, hclosing⟩
    rcases hclosing.exhausted_of_stop htrace with ⟨elapsed, e, heq⟩
    exact ⟨_, _, elapsed, e, heq⟩
  case exhausted =>
    intro operation count elapsed e heq
    rcases hran.of_exhausted heq with
      ⟨init, last, rfl, hundisturbed, hoperation, hcount, helapsed, retried, stop, -⟩
    refine ⟨hoperation, fun hlt => ?_, last, List.getLast?_concat, hundisturbed, helapsed, retried,
      ?_⟩
    · -- It is the number that the last attempt had.
      rw [hcount, List.length_append] at *
      exact toNat_one_add_ofNat hlt
    · rw [List.dropLast_concat]
      exact stop
  case refused =>
    rintro ⟨rfl, last, hlast, hundisturbed, refused⟩
    rcases hran.closing_of_getLast? hlast with ⟨init, -, hclosing⟩
    exact hclosing.session_of_refused hundisturbed refused

/-! ## Limits on retries -/

/-- A limit is what ends a loop if nothing else does: the policy inside does not
    stop, all attempts fail, and where the loop ends there is no signal, no deadline
    and no end of the clock to explain it. -/
theorem length_eq_of_maxRetries {inner : Generator} {limit : Nat}
    (h : Ran b scope attempt rounds round w tries result)
    (later : ∀ (n : UInt32) (w : World σ), w.scene.Later (attempt n w).2.scene)
    (hgenerator : round.generator = .maxRetries inner limit 0)
    (gives : inner.Gives (fun _ _ => True) result.2.scene.now limit) (enough : limit < rounds)
    (failing : ∀ x ∈ tries, x.failure.any scope.retries.retries = true)
    (early : ∀ x ∈ tries, ∀ e, x.failure = some e →
      standing scope.deadline x.after.scene.now e = .before)
    (calm : result.2.scene.check scope.signal scope.deadline = none)
    (shown : result.1 ≠ .beyondClock) : tries.length = limit + 1 := by
  have hgives : round.generator.Gives (fun _ _ => True) result.2.scene.now limit := by
    rw [hgenerator]
    exact Generator.gives_maxRetries gives (Nat.le_of_eq (Nat.zero_add limit))
  refine Nat.le_antisymm (length_le_of_maxRetries h hgenerator)
    (h.lt_length ?_ enough fun init last htries hfew hclosing => ?_)
  · rintro rfl
    cases h with
    | unfinished => exact absurd enough (Nat.not_lt_zero _)
    | interrupted interrupt found => exact absurd (calm.symm.trans found) nofun
  · -- With retries left, each way in which a loop can end is excluded.
    rcases h.exists_answer later hgives htries hfew with ⟨interval, hanswer, -⟩
    have hmem : last ∈ tries := htries ▸ List.mem_append_right _ (.head _)
    have hretries := failing last hmem
    cases hclosing with
    | unfinished => rfl
    | succeeded a fine => simp only [fine, Option.any_none, Bool.false_eq_true] at hretries
    | failed e outcome w failure after =>
        rw [failure, Option.any_some] at hretries
        rcases outcome_of_aftermath after calm (early last hmem e failure) with
          ⟨refused, -⟩ | ⟨-, ⟨stop, -⟩ | ⟨_, -, -, hbeyond⟩⟩
        · simp only [hretries, reduceCtorEq] at refused
        · rw [roundAfter] at stop
          simp only [hanswer, reduceCtorEq] at stop
        · exact absurd hbeyond shown

end Retry

namespace World

variable {σ : Type} {b : Outside σ} {rounds : Nat} {limit : Nat}

/-- A limit on retries holds for an operation that begins in the world `w`. -/
structure Limited (b : Outside σ) (rounds : Nat) (inner : Policy) (limit : Nat) (action : Action)
    (w : World σ) : Prop where
  /-- The attempts that are counted are those that the operation makes. -/
  made : ∀ outcome, (w.perform b rounds action).1.outcome? = some outcome →
    w.Made b rounds action (w.attempts b rounds action) outcome (w.perform b rounds action).2
  /-- There is one attempt more than there may be retries, at most. -/
  most : (w.attempts b rounds action).length ≤ limit + 1
  /-- There are as many if the policy inside does not stop, every attempt fails
      with an error that is tried again after, and nothing interrupts the operation:
      it comes to its loop, and when it is over, the signal of the loop is not
      cancelled, its deadline is ahead, and the clock has not run out. -/
  all : ∀ l outcome, w.loop? b action = some l →
    (w.perform b rounds action).1.outcome? = some outcome → limit < rounds →
    (inner.start w.scene.now).Gives (fun _ _ => True) (w.perform b rounds action).2.scene.now
      limit →
    (∀ x ∈ w.attempts b rounds action, x.failure.any action.retries.retries = true) →
    (w.perform b rounds action).2.scene.check l.scope.signal l.scope.deadline = none →
    outcome ≠ .beyondClock → (w.attempts b rounds action).length = limit + 1

/-- The loop of an operation begins with a new generator of the worker's policy, at
    the time at which the operation was called. -/
theorem generator_of_begun {l : Loop σ} {action : Action} {w : World σ} {inner : Policy}
    (hbegun : l.Begun action w) (h : w.worker.config.backoff = .maxRetries inner limit) :
    (Retry.firstRound l.scope l.start).generator =
      .maxRetries (inner.start w.scene.now) limit 0 := by
  rw [Retry.firstRound, hbegun.policy_eq, hbegun.now_eq, h]
  rfl

/-- An error that is tried again after never came too close to the deadline: only a
    timeout can, and claims, which alone have a deadline, are not tried again after
    timeouts. -/
theorem standing_of_begun {l : Loop σ} {action : Action} {w : World σ} (hbegun : l.Begun action w)
    {e : SessionError} (hretried : action.retries.retries e = true) (now : Moment) :
    Retry.standing l.scope.deadline now e = .before := by
  have hdeadline := hbegun.deadline_eq
  -- Claims retry after an empty queue only, and the other operations have no deadline that an
  -- error could come close to.
  cases hclaim : action.isClaim with
  | true =>
      rw [Action.retries, if_pos hclaim] at hretried
      have htimeout : e.isTimeout = false := by
        cases e with
        | noWork => rfl
        | _ => exact absurd hretried Bool.false_ne_true
      unfold Retry.standing
      cases l.scope.deadline with
      | none => rfl
      | some deadline => simp only [htimeout, Bool.false_eq_true, if_false]
  | false =>
      rw [Action.deadline?, hclaim, if_neg Bool.false_ne_true] at hdeadline
      rw [← Option.some.inj hdeadline]
      rfl

/-- A limit on retries in the settings of a worker holds for each operation, from
    whatever world it begins in. -/
theorem limited_of_backoff {action : Action} {w : World σ} {inner : Policy}
    (h : w.worker.config.backoff = .maxRetries inner limit) :
    w.Limited b rounds inner limit action where
  made := fun _ => made_perform
  most := by
    -- An operation that does not come to its loop makes no attempt at all.
    cases hloop : w.loop? b action with
    | none =>
        rw [attempts_eq_nil hloop]
        exact Nat.zero_le _
    | some l =>
        rw [attempts_eq hloop]
        exact Retry.length_le_of_maxRetries (Retry.ran_run b rounds l.scope l.attempt l.start)
          (generator_of_begun (begun_of_loop? hloop) h)
  all := by
    intro l outcome hloop houtcome enough gives failing calm hbeyond
    cases performed_perform houtcome with
    | looped l' found shown =>
        -- The scene of the operation is that of its loop, as far as time and cancellations go.
        obtain rfl := Option.some.inj (hloop.symm.trans found)
        have hbegun := begun_of_loop? found
        have hcalm := Scene.check_eq_none.mp calm
        rw [attempts_eq found] at failing ⊢
        rw [shown.now_eq] at gives
        rw [shown.now_eq, shown.cancelled_eq] at hcalm
        have hearly : ∀ x ∈ l.attempts b rounds, ∀ e, x.failure = some e →
            Retry.standing l.scope.deadline x.after.scene.now e = .before := fun x hx e he =>
          standing_of_begun hbegun (by simpa only [he, Option.any_some] using failing x hx) _
        rw [← hbegun.retries_eq] at failing
        refine Retry.length_eq_of_maxRetries (Retry.ran_run b rounds l.scope l.attempt l.start)
          hbegun.lasts (generator_of_begun hbegun h) gives enough failing hearly
          (Scene.check_eq_none.mpr hcalm) fun heq => hbeyond ?_
        rw [shown.outcome_eq, Loop.run, heq]
        rfl
    | full _ found | timeless _ found =>
        exact absurd (hloop.symm.trans found) (Option.some_ne_none l)

/-- The books of every run are in order, and a limit on retries holds for every
    operation of a worker by itself, whatever was done with the worker before. -/
theorem retries_accounted (b : Outside σ) (rounds : Nat) :
    (∀ (α : Type) (scope : Scope) (attempt : UInt32 → World σ → Except SessionError α × World σ)
      (w : World σ), Retry.Accounted b rounds scope attempt w
        (Retry.attempts b rounds scope attempt w) (Retry.run b rounds scope attempt w)) ∧
    ∀ (w : World σ) (inner : Policy) (limit : Nat),
      w.worker.config.backoff = .maxRetries inner limit →
      ∀ (actions : List (Nat × Action)) (action : Action),
        (w.performAll b actions).2.Limited b rounds inner limit action := by
  refine ⟨fun α scope attempt w => Retry.accounted_run b rounds scope attempt w, ?_⟩
  intro w inner limit h actions action
  -- Nothing that is done with a worker changes its settings, so the limit is still the one that
  -- it was made with.
  apply limited_of_backoff
  rw [(config_performAll b actions w).1, h]

end World

/-- A backend that has nothing to do. It answers each claim after 5 ns, with the one
    error that claims are tried again after. -/
def Outside.idle : Outside Unit where
  connect := fun _ e => (⟨.ok (), []⟩, e, ())
  answer := fun _ call _ e =>
    (match call with
      | .claim _ => ⟨.error .noWork, [⟨5, []⟩]⟩
      | .fetch _ | .acknowledge _ _ | .reserve | .submit _ _ => ⟨.error .notFound, []⟩, e, ())
  wait := fun _ _ _ => ([], ())

/-- A worker that tries twice more. -/
def Config.twice : Config :=
  { Config.oneClaim with backoff := .maxRetries .zero 2 }

namespace World

/-- The second claim of a worker makes as many attempts as the first, that is one
    and two retries. A limit kept across operations would have been used up by then. -/
theorem retries_accounted_idle : ∃ w, prepare .twice ⟨0, .empty⟩ () = .ok w ∧
    ((w.performAll .idle [(3, .consume)]).2.attempts .idle 3 .consume).length = 3 := by
  refine ⟨_, rfl, ?_⟩
  refine Limited.all ((retries_accounted .idle 3).2 _ .zero 2 ?_ [(3, .consume)] .consume)
    _ (.finished (.error (.exhausted .consume 3 (.ofNanos 15) .noWork))) rfl rfl ?_ ?_ ?_ ?_ nofun
  · rfl
  · decide
  · exact Generator.gives_zero (fun _ _ => trivial) 2
  · decide
  · decide +kernel

end World

end EventFlow
