import EventFlow.Proofs.Signal.Waiting
import EventFlow.Worker.Retry

/-!
# Reasoning about the Loop

Everything that a round of the retry loop can do, said once, and a rule that
carries facts about attempts over to whole runs.

A round is a function with many exits: an interruption before the attempt, a
success, and after a failure another interruption, a timeout that counts as
the deadline, an error that is not tried again after, a backoff that gives up,
a wait that is cut short, a wait that is not. `Stepped` has one constructor for
the first two and hands the third over to `Aftermath`, which has one for each
of the others. Whoever needs to know what a round did splits one of them, and
never unfolds the loop.

Between its attempts the loop neither touches the worker nor asks anything of
a session. `Idled` says what it may do, and `run_rule` makes use of it: what
failing attempts and idling keep, the whole run keeps, and what a success
establishes, a run that succeeds establishes. The rule asks nothing about
signals, deadlines or policies, so it holds of runs that end in any way.

## Main definitions

* `World.await`: A wait, as the loop makes it.
* `Aftermath`: What can follow a failed attempt.
* `Stepped`: What a round can do.
* `Idled`: What the loop does between two attempts.

## Theorems

* `aftermath_afterFailure`: Nothing else follows a failed attempt.
* `stepped_step`: A round does nothing else.
* `idled_of_aftermath`: All that follows a failed attempt is idling.
* `loop_rule`: What attempts and idling keep, a loop keeps.
* `run_rule`: The same for a whole run.
* `run_frame`: What attempts, notes and waits keep, a run keeps.
* `run_of_ok`: A run that succeeds at once.
* `check_await`, `later_await`, `now_await_le`, `now_await`: What a wait of the
  loop does.
-/

namespace EventFlow

namespace World

variable {σ : Type}

/-- A wait until `wake`, during which others are heard, and the reason if it ends
    early. It is the middle of `pause`, which says nothing about the wait itself, so
    what a wait does is said of this. -/
def await (b : Outside σ) (scope : Scope) (wake : Moment) (w : World σ) :
    Option Signals.Interrupt × World σ :=
  let (happenings, outside) := b.wait w.scene.now (Scene.limit wake scope.deadline) w.outside
  let (interrupt, scene) := w.scene.sleepUntil scope.signal wake scope.deadline happenings
  (interrupt, { w with scene, outside })

@[simp] theorem scene_record (w : World σ) (event : Event) :
    (w.record event).scene = w.scene := rfl

theorem check_await (b : Outside σ) (scope : Scope) (wake : Moment) (w : World σ) :
    (w.await b scope wake).2.scene.check scope.signal scope.deadline = (w.await b scope wake).1 :=
  Scene.check_sleepUntil ..

theorem later_await (b : Outside σ) (scope : Scope) (wake : Moment) (w : World σ) :
    w.scene.Later (w.await b scope wake).2.scene :=
  Scene.later_sleepUntil ..

theorem now_await_le (b : Outside σ) (scope : Scope) (wake : Moment) (w : World σ) :
    (w.await b scope wake).2.scene.now ≤ max w.scene.now (Scene.limit wake scope.deadline) :=
  Scene.now_sleepUntil_le ..

theorem now_await {b : Outside σ} {scope : Scope} {wake : Moment} {w : World σ}
    (hwake : w.scene.now ≤ wake) (h : (w.await b scope wake).1 = none) :
    (w.await b scope wake).2.scene.now = wake :=
  Scene.now_sleepUntil hwake h

end World

namespace Retry

variable {σ α : Type} {b : Outside σ} {scope : Scope}
  {attempt : UInt32 → World σ → Except SessionError α × World σ}

/-- A loop that fails does not succeed. -/
theorem fail_ne (e : WorkerError) (a : α) : fail e ≠ .inl (.finished (.ok a)) := by
  simp only [fail, ne_eq, Sum.inl.injEq, Outcome.finished.injEq, reduceCtorEq, not_false_eq_true]

theorem beyondClock_ne (a : α) : (.inl .beyondClock : Next α) ≠ .inl (.finished (.ok a)) := by
  simp only [ne_eq, Sum.inl.injEq, reduceCtorEq, not_false_eq_true]

/-! ## What a round can do -/

/-- What can follow an attempt that failed with `e` in the world `w`. The
    constructors stand in the order in which the loop looks for them, and each has
    the negations of those before it, so that no two of them are about the same
    case. -/
inductive Aftermath (b : Outside σ) (scope : Scope) (round : Round) (e : SessionError)
    (w : World σ) : Next α × World σ → Prop where
  /-- It was interrupted. -/
  | interrupted (interrupt : Signals.Interrupt)
      (found : w.scene.check scope.signal scope.deadline = some interrupt) :
      Aftermath b scope round e w (fail (.ofInterrupt interrupt), w)
  /-- The clock cannot tell how close the deadline is. -/
  | unclear (calm : w.scene.check scope.signal scope.deadline = none)
      (close : standing scope.deadline w.scene.now e = .unknown) :
      Aftermath b scope round e w (.inl .beyondClock, w)
  /-- It was cut short by the deadline. -/
  | cutShort (calm : w.scene.check scope.signal scope.deadline = none)
      (close : standing scope.deadline w.scene.now e = .cutShort) :
      Aftermath b scope round e w (fail .deadlineExceeded, w)
  /-- Its error is not tried again after. -/
  | final (calm : w.scene.check scope.signal scope.deadline = none)
      (early : standing scope.deadline w.scene.now e = .before)
      (refused : scope.retries.retries e = false) :
      Aftermath b scope round e w (fail (.session scope.operation e), w)
  /-- The backoff gave up. -/
  | gaveUp (calm : w.scene.check scope.signal scope.deadline = none)
      (early : standing scope.deadline w.scene.now e = .before)
      (retried : scope.retries.retries e = true)
      (asked : (round.generator.next w.scene.now).1 = none) :
      Aftermath b scope round e w
        (fail (.exhausted scope.operation round.attempt
          (Span.ofNanos (w.scene.now - round.started)) e), w.record (.interval none))
  /-- The clock cannot show the end of the wait. -/
  | tooLong (interval : Span) (calm : w.scene.check scope.signal scope.deadline = none)
      (early : standing scope.deadline w.scene.now e = .before)
      (retried : scope.retries.retries e = true)
      (asked : (round.generator.next w.scene.now).1 = some interval)
      (long : Moment.add? w.scene.now interval = none) :
      Aftermath b scope round e w (.inl .beyondClock, w.record (.interval (some interval)))
  /-- The wait was cut short. -/
  | woken (interval : Span) (wake : Moment) (interrupt : Signals.Interrupt)
      (calm : w.scene.check scope.signal scope.deadline = none)
      (early : standing scope.deadline w.scene.now e = .before)
      (retried : scope.retries.retries e = true)
      (asked : (round.generator.next w.scene.now).1 = some interval)
      (ends : Moment.add? w.scene.now interval = some wake)
      (waited : ((w.record (.interval (some interval))).await b scope wake).1 = some interrupt) :
      Aftermath b scope round e w (fail (.ofInterrupt interrupt),
        ((w.record (.interval (some interval))).await b scope wake).2)
  /-- There is another round. -/
  | again (interval : Span) (wake : Moment)
      (calm : w.scene.check scope.signal scope.deadline = none)
      (early : standing scope.deadline w.scene.now e = .before)
      (retried : scope.retries.retries e = true)
      (asked : (round.generator.next w.scene.now).1 = some interval)
      (ends : Moment.add? w.scene.now interval = some wake)
      (waited : ((w.record (.interval (some interval))).await b scope wake).1 = none) :
      Aftermath b scope round e w
        (.inr { round with
            generator := (round.generator.next w.scene.now).2, attempt := round.attempt + 1 },
          ((w.record (.interval (some interval))).await b scope wake).2)

/-- What a round that begins in the world `w` can do. Only the last constructor
    leads to another round, and it says why there is one. -/
inductive Stepped (b : Outside σ) (scope : Scope)
    (attempt : UInt32 → World σ → Except SessionError α × World σ) (round : Round) (w : World σ) :
    Next α × World σ → Prop where
  /-- It was interrupted before its attempt. -/
  | interrupted (interrupt : Signals.Interrupt)
      (found : w.scene.check scope.signal scope.deadline = some interrupt) :
      Stepped b scope attempt round w (fail (.ofInterrupt interrupt), w)
  /-- Its attempt succeeded. -/
  | succeeded (a : α) (w' : World σ)
      (calm : w.scene.check scope.signal scope.deadline = none)
      (tried : attempt round.attempt w = (.ok a, w')) :
      Stepped b scope attempt round w (.inl (.finished (.ok a)), w')
  /-- Its attempt failed. -/
  | failed (e : SessionError) (w' : World σ) (result : Next α × World σ)
      (calm : w.scene.check scope.signal scope.deadline = none)
      (tried : attempt round.attempt w = (.error e, w'))
      (after : Aftermath b scope round e w' result) :
      Stepped b scope attempt round w result

/-- The pause before the next attempt, told by the wait that it makes. -/
theorem pause_eq (b : Outside σ) (scope : Scope) (round : Round) (interval : Span)
    (w : World σ) :
    pause (α := α) b scope round interval w =
      match Moment.add? w.scene.now interval with
      | none => (.inl .beyondClock, w)
      | some wake =>
        match (w.await b scope wake).1 with
        | some interrupt => (fail (.ofInterrupt interrupt), (w.await b scope wake).2)
        | none => (.inr { round with attempt := round.attempt + 1 }, (w.await b scope wake).2) :=
  rfl

theorem aftermath_afterFailure (b : Outside σ) (scope : Scope) (round : Round) (e : SessionError)
    (w : World σ) :
    Aftermath b scope round e w (afterFailure (α := α) b scope round e w) := by
  rw [afterFailure]
  -- The exits come one behind the other, and so do the cases: an interruption first, then the
  -- deadline, the kind of the error, the backoff, and the wait.
  cases hc : w.scene.check scope.signal scope.deadline with
  | some interrupt => exact .interrupted interrupt hc
  | none =>
      cases hs : standing scope.deadline w.scene.now e with
      | unknown => exact .unclear hc hs
      | cutShort => exact .cutShort hc hs
      | before =>
          by_cases hr : scope.retries.retries e = true
          · simp only [if_pos hr]
            rw [backOff]
            cases hn : (round.generator.next w.scene.now).1 with
            | none =>
                simp only [hn]
                exact .gaveUp hc hs hr hn
            | some interval =>
                simp only [hn]
                rw [pause_eq]
                cases ha : Moment.add? w.scene.now interval with
                | none =>
                    simp only [World.scene_record, ha]
                    exact .tooLong interval hc hs hr hn ha
                | some wake =>
                    simp only [World.scene_record, ha]
                    cases hi : ((w.record (.interval (some interval))).await b scope wake).1 with
                    | none => exact .again interval wake hc hs hr hn ha hi
                    | some interrupt => exact .woken interval wake interrupt hc hs hr hn ha hi
          · simp only [if_neg hr]
            exact .final hc hs (Bool.not_eq_true _ ▸ hr)

/-- An attempt that failed well before the end is followed by a wait, if the backoff
    gives an interval for it. This is the way to go on, where
    `aftermath_afterFailure` is the way to look back. -/
theorem afterFailure_of_retried {round : Round} {e : SessionError} {w : World σ} {interval : Span}
    (calm : w.scene.check scope.signal scope.deadline = none)
    (early : standing scope.deadline w.scene.now e = .before)
    (retried : scope.retries.retries e = true)
    (asked : (round.generator.next w.scene.now).1 = some interval) :
    afterFailure (α := α) b scope round e w =
      pause b scope { round with generator := (round.generator.next w.scene.now).2 } interval
        (w.record (.interval (some interval))) := by
  rw [afterFailure, calm]
  simp only [early, if_pos retried]
  rw [backOff]
  simp only [asked]

/-- And it is the end of the loop, if the backoff gives none. -/
theorem afterFailure_of_stop {round : Round} {e : SessionError} {w : World σ}
    (calm : w.scene.check scope.signal scope.deadline = none)
    (early : standing scope.deadline w.scene.now e = .before)
    (retried : scope.retries.retries e = true)
    (stop : (round.generator.next w.scene.now).1 = none) :
    afterFailure (α := α) b scope round e w =
      (fail (.exhausted scope.operation round.attempt
        (Span.ofNanos (w.scene.now - round.started)) e), w.record (.interval none)) := by
  rw [afterFailure, calm]
  simp only [early, if_pos retried]
  rw [backOff]
  simp only [stop, World.scene_record]

theorem stepped_step (b : Outside σ) (scope : Scope)
    (attempt : UInt32 → World σ → Except SessionError α × World σ) (round : Round) (w : World σ) :
    Stepped b scope attempt round w (step b scope attempt round w) := by
  rw [step]
  cases hc : w.scene.check scope.signal scope.deadline with
  | some interrupt => exact .interrupted interrupt hc
  | none =>
      -- Without an interruption there is an attempt, and its result decides.
      rcases ht : attempt round.attempt w with ⟨_ | a, w'⟩
      · exact .failed _ w' _ hc ht (aftermath_afterFailure b scope round _ w')
      · exact .succeeded a w' hc ht

/-! ## What a run keeps -/

/-- What the loop does between two attempts: it leaves the worker alone, and the
    outside up to a wait, and may note an interval. The clock and the signals are
    not part of this; a wait lets time pass and others act. -/
structure Idled (b : Outside σ) (w w' : World σ) : Prop where
  worker_eq : w'.worker = w.worker
  outside_eq : w'.outside = w.outside ∨
    ∃ start finish, w'.outside = (b.wait start finish w.outside).2
  trace_eq : w'.trace = w.trace ∨ ∃ interval, w'.trace = .interval interval :: w.trace

theorem Idled.refl (b : Outside σ) (w : World σ) : Idled b w w :=
  ⟨rfl, .inl rfl, .inl rfl⟩

theorem idled_record (b : Outside σ) (w : World σ) (interval : Option Span) :
    Idled b w (w.record (.interval interval)) :=
  ⟨rfl, .inl rfl, .inr ⟨interval, rfl⟩⟩

theorem idled_await (b : Outside σ) (scope : Scope) (wake : Moment) (w : World σ)
    (interval : Option Span) :
    Idled b w ((w.record (.interval interval)).await b scope wake).2 :=
  ⟨rfl, .inr ⟨_, _, rfl⟩, .inr ⟨interval, rfl⟩⟩

/-- All that follows a failed attempt is idling, and none of it is a success. -/
theorem idled_of_aftermath {round : Round} {e : SessionError} {w : World σ}
    {result : Next α × World σ} (h : Aftermath b scope round e w result) :
    Idled b w result.2 ∧ ∀ a, result.1 ≠ .inl (.finished (.ok a)) := by
  -- Case by case: some ends come before the backoff is asked, some after it has noted its
  -- answer, and the last two after a wait.
  cases h with
  | interrupted interrupt => exact ⟨.refl b w, fail_ne _⟩
  | unclear => exact ⟨.refl b w, beyondClock_ne⟩
  | cutShort => exact ⟨.refl b w, fail_ne _⟩
  | final => exact ⟨.refl b w, fail_ne _⟩
  | gaveUp => exact ⟨idled_record b w _, fail_ne _⟩
  | tooLong => exact ⟨idled_record b w _, beyondClock_ne⟩
  | woken => exact ⟨idled_await b scope _ w _, fail_ne _⟩
  | again =>
      refine ⟨idled_await b scope _ w _, fun a => ?_⟩
      simp only [ne_eq, reduceCtorEq, not_false_eq_true]

/-- A fact that failing attempts and idling keep holds until the loop ends or an
    attempt succeeds. Nothing is asked of the round, so the fact cannot be about the
    number of the attempt or the generator; `Ran` is for those. -/
theorem loop_rule {P : World σ → Prop} {S : α → World σ → Prop}
    (idle : ∀ w w', P w → Idled b w w' → P w')
    (failed : ∀ n w e w', P w → attempt n w = (.error e, w') → P w')
    (succeeded : ∀ n w a w', P w → attempt n w = (.ok a, w') → S a w')
    (rounds : Nat) (round : Round) (w : World σ) (start : P w) :
    (∃ a, (loop b scope attempt rounds round w).1 = .finished (.ok a) ∧
      S a (loop b scope attempt rounds round w).2) ∨
    ((∀ a, (loop b scope attempt rounds round w).1 ≠ .finished (.ok a)) ∧
      P (loop b scope attempt rounds round w).2) := by
  -- By induction on the rounds that are left, for any round and any world, since a round leads
  -- to another round in another world.
  induction rounds generalizing round w with
  | zero => exact .inr ⟨fun a => by simp only [loop, ne_eq, reduceCtorEq, not_false_eq_true], start⟩
  | succ rounds ih =>
      rw [loop]
      have hstep := stepped_step b scope attempt round w
      generalize step b scope attempt round w = result at hstep
      rcases result with ⟨outcome | next, w'⟩
      · -- The loop ends with this round.
        simp only
        cases hstep with
        | interrupted interrupt =>
            exact .inr ⟨fun a heq => fail_ne _ a (congrArg Sum.inl heq), start⟩
        | succeeded a _ _ tried => exact .inl ⟨a, rfl, succeeded _ w a w' start tried⟩
        | failed e w₁ _ _ tried after =>
            rcases idled_of_aftermath after with ⟨hidle, hne⟩
            -- What follows a failure is not a success, so the fact itself is left to show.
            exact .inr ⟨fun a heq => hne a (congrArg Sum.inl heq),
              idle w₁ w' (failed _ w e w₁ start tried) hidle⟩
      · -- Only a failed attempt is followed by another round.
        simp only
        cases hstep with
        | failed e w₁ _ _ tried after =>
            rcases idled_of_aftermath after with ⟨hidle, -⟩
            exact ih next w' (idle w₁ w' (failed _ w e w₁ start tried) hidle)

/-- A fact that failing attempts and idling keep holds until the run ends or an
    attempt succeeds, and then what the success establishes holds. It has to hold
    after the note that the run has begun. -/
theorem run_rule {P : World σ → Prop} {S : α → World σ → Prop} (rounds : Nat) (w : World σ)
    (idle : ∀ w w', P w → Idled b w w' → P w')
    (failed : ∀ n w e w', P w → attempt n w = (.error e, w') → P w')
    (succeeded : ∀ n w a w', P w → attempt n w = (.ok a, w') → S a w')
    (start : P (w.record (.start scope.operation))) :
    (∃ a, (run b rounds scope attempt w).1 = .finished (.ok a) ∧
      S a (run b rounds scope attempt w).2) ∨
    ((∀ a, (run b rounds scope attempt w).1 ≠ .finished (.ok a)) ∧
      P (run b rounds scope attempt w).2) :=
  loop_rule idle failed succeeded rounds _ _ start

/-- What follows a failed attempt is a note of an interval and a wait at most. -/
theorem frame_of_aftermath {P : World σ → Prop} {round : Round} {e : SessionError} {w : World σ}
    {result : Next α × World σ} (noted : ∀ w event, P w → P (w.record event))
    (waited : ∀ w wake, P w → P (w.await b scope wake).2)
    (h : Aftermath b scope round e w result) (start : P w) : P result.2 := by
  cases h with
  | interrupted | unclear | cutShort | final => exact start
  | gaveUp | tooLong => exact noted w _ start
  | woken | again => exact waited _ _ (noted w _ start)

theorem frame_of_stepped {P : World σ → Prop} {round : Round} {w : World σ}
    {result : Next α × World σ} (noted : ∀ w event, P w → P (w.record event))
    (waited : ∀ w wake, P w → P (w.await b scope wake).2)
    (tried : ∀ n w, P w → P (attempt n w).2) (h : Stepped b scope attempt round w result)
    (start : P w) : P result.2 := by
  cases h with
  | interrupted => exact start
  | succeeded a w' _ htry =>
      have hend := tried round.attempt w start
      rwa [htry] at hend
  | failed e w' result _ htry after =>
      have hfailed := tried round.attempt w start
      rw [htry] at hfailed
      exact frame_of_aftermath noted waited after hfailed

/-- A fact that attempts, notes and waits keep, a run keeps. Unlike `run_rule`,
    this is told of each wait as a wait of this loop. -/
theorem run_frame {P : World σ → Prop} (noted : ∀ w event, P w → P (w.record event))
    (waited : ∀ w wake, P w → P (w.await b scope wake).2)
    (tried : ∀ n w, P w → P (attempt n w).2) (rounds : Nat) {w : World σ} (start : P w) :
    P (run b rounds scope attempt w).2 := by
  have hloop : ∀ rounds round w, P w → P (loop b scope attempt rounds round w).2 := by
    intro rounds
    -- By induction on the rounds: what one of them keeps, the rest of the loop begins with.
    induction rounds with
    | zero => exact fun _ _ h => h
    | succ rounds ih =>
        intro round w h
        rw [loop]
        have hstep := frame_of_stepped noted waited tried (stepped_step b scope attempt round w) h
        rcases hresult : step b scope attempt round w with ⟨outcome | next, w'⟩
        · rwa [hresult] at hstep
        · rw [hresult] at hstep
          exact ih next w' hstep
  exact hloop rounds _ _ (noted w _ start)

/-- A run whose first attempt succeeds ends with it. Nothing is asked of the policy
    or the deadline but that the attempt is made, since these are looked at after a
    failure only. -/
theorem run_of_ok {rounds : Nat} {w w' : World σ} {a : α} (hrounds : 0 < rounds)
    (calm : w.scene.check scope.signal scope.deadline = none)
    (tried : attempt 1 (w.record (.start scope.operation)) = (.ok a, w')) :
    run b rounds scope attempt w = (.finished (.ok a), w') := by
  cases rounds with
  | zero => exact absurd hrounds (Nat.lt_irrefl 0)
  | succ rounds =>
      unfold run
      simp only [loop]
      unfold step
      simp only [World.scene_record, calm, tried]

end Retry

end EventFlow
