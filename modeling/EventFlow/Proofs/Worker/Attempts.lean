import EventFlow.Proofs.Backoff.Answers
import EventFlow.Proofs.Worker.Loop

/-!
# The Attempts of a Loop

What a loop tried, one attempt after the other, and how it came to its end.

`loop` returns an outcome and forgets how it got there. `attemptsOfLoop` is the
same recursion with what was tried on the way for its result: a list that has the
number of each attempt, the worlds in which it began and ended, and its error
if it failed. Whatever is said of the course of a loop is said of this list.

`Ran` ties the list to the loop, with a constructor for each way in which a
round can go on, and all that follows is by induction on it. The inside of the
list is told by `Retried`: one attempt and the next, with one interval in
between that the generator gave and that was waited for. The end of the list is
told by `Closing`: what the last attempt and its aftermath made of the loop.
Both name the generator, which is the one that the loop was given, asked once
after each of the attempts before.

## Main definitions

* `Attempt`: An attempt that was made.
* `Retry.attemptsOfLoop`, `Retry.attempts`: The attempts that a loop makes, and
  a whole run.
* `Retry.Ran`: How a loop can go.
* `Retry.Retried`: What lies between two attempts.
* `Retry.Closing`: How a loop ends after its last attempt.
* `Outcome.source?`: The session error that a loop reports.

## Theorems

* `ran_loop`, `ran_run`: A loop, and a run, goes in no other way.
* `Ran.made`, `Ran.numbers`, `Ran.retried`: The attempts, in order.
* `Ran.closing`: The end, with attempts or without.
* `reported_of_aftermath`: Which session errors are reported.
* `Ran.later`: Time passes, and nothing that lasts is lost.
* `Ran.counted`: What each failure adds to, the whole loop adds up.
-/

namespace EventFlow

/-- An attempt that a loop made. What it was called with and what it gave are both
    kept, so that a list of attempts can be compared with what is attempted. -/
structure Attempt (σ : Type) where
  number : UInt32
  /-- The world in which it began. -/
  before : World σ
  /-- The error with which it failed, if it did. -/
  failure : Option SessionError
  /-- The world in which it ended. -/
  after : World σ

/-- The error in a result, if it is one. -/
def failureOf {α : Type} : Except SessionError α → Option SessionError
  | .ok _ => none
  | .error e => some e

namespace Outcome

variable {α : Type}

/-- The error of an operation that failed. -/
def error? : Outcome α → Option WorkerError
  | .finished (.error e) => some e
  | _ => none

/-- The session error that a failed operation reports. -/
def source? (outcome : Outcome α) : Option SessionError :=
  outcome.error?.bind WorkerError.source?

/-- An interrupt reports no session error, so an operation that was cancelled or ran
    out of time is never mistaken for one that the backend refused. -/
theorem source?_ofInterrupt (interrupt : Signals.Interrupt) :
    (Outcome.finished (.error (.ofInterrupt interrupt)) : Outcome α).source? = none := by
  cases interrupt <;> rfl

end Outcome

namespace Retry

variable {σ α : Type} {b : Outside σ} {scope : Scope}
  {attempt : UInt32 → World σ → Except SessionError α × World σ}

/-- The attempts that a loop makes, in order. The recursion is that of `loop`, down
    to the check before each attempt, so that `ran_loop` can go through both in
    step. -/
def attemptsOfLoop (b : Outside σ) (scope : Scope)
    (attempt : UInt32 → World σ → Except SessionError α × World σ) :
    (rounds : Nat) → Round → World σ → List (Attempt σ)
  | 0, _, _ => []
  | rounds + 1, round, w =>
    match w.scene.check scope.signal scope.deadline with
    | some _ => []
    | none =>
      ⟨round.attempt, w, failureOf (attempt round.attempt w).1, (attempt round.attempt w).2⟩ ::
        match step b scope attempt round w with
        | (.inl _, _) => []
        | (.inr round, w) => attemptsOfLoop b scope attempt rounds round w

/-- How a loop can go that makes at most so many rounds: the attempts that it
    makes, its outcome, and the world that it leaves behind. -/
inductive Ran (b : Outside σ) (scope : Scope)
    (attempt : UInt32 → World σ → Except SessionError α × World σ) :
    (rounds : Nat) → Round → World σ → List (Attempt σ) → Outcome α × World σ → Prop where
  /-- The rounds are used up. -/
  | unfinished {round : Round} {w : World σ} :
      Ran b scope attempt 0 round w [] (.unfinished, w)
  /-- It was interrupted before the attempt of a round. -/
  | interrupted {rounds : Nat} {round : Round} {w : World σ} (interrupt : Signals.Interrupt)
      (found : w.scene.check scope.signal scope.deadline = some interrupt) :
      Ran b scope attempt (rounds + 1) round w []
        (.finished (.error (.ofInterrupt interrupt)), w)
  /-- An attempt succeeded. -/
  | succeeded {rounds : Nat} {round : Round} {w : World σ} (a : α) (w' : World σ)
      (calm : w.scene.check scope.signal scope.deadline = none)
      (tried : attempt round.attempt w = (.ok a, w')) :
      Ran b scope attempt (rounds + 1) round w [⟨round.attempt, w, none, w'⟩]
        (.finished (.ok a), w')
  /-- An attempt failed, and that was the end. -/
  | ended {rounds : Nat} {round : Round} {w : World σ} (e : SessionError) (w' : World σ)
      (outcome : Outcome α) (w'' : World σ)
      (calm : w.scene.check scope.signal scope.deadline = none)
      (tried : attempt round.attempt w = (.error e, w'))
      (after : Aftermath b scope round e w' (.inl outcome, w'')) :
      Ran b scope attempt (rounds + 1) round w [⟨round.attempt, w, some e, w'⟩] (outcome, w'')
  /-- An attempt failed, and there was another round. -/
  | again {rounds : Nat} {round : Round} {w : World σ} (e : SessionError) (w' : World σ)
      (next : Round) (w'' : World σ) (rest : List (Attempt σ)) (result : Outcome α × World σ)
      (calm : w.scene.check scope.signal scope.deadline = none)
      (tried : attempt round.attempt w = (.error e, w'))
      (after : Aftermath (α := α) b scope round e w' (.inr next, w''))
      (ran : Ran b scope attempt rounds next w'' rest result) :
      Ran b scope attempt (rounds + 1) round w (⟨round.attempt, w, some e, w'⟩ :: rest) result

/-- A loop goes in no other way, and `attemptsOfLoop` are those that it makes. -/
theorem ran_loop (b : Outside σ) (scope : Scope)
    (attempt : UInt32 → World σ → Except SessionError α × World σ) (rounds : Nat) (round : Round)
    (w : World σ) :
    Ran b scope attempt rounds round w (attemptsOfLoop b scope attempt rounds round w)
      (loop b scope attempt rounds round w) := by
  -- The induction is on the rounds, as both recursions are; what a step does is read off
  -- `Stepped`, so neither is unfolded further than to the step.
  induction rounds generalizing round w with
  | zero => exact .unfinished
  | succ rounds ih =>
      rw [attemptsOfLoop, loop]
      have hstep := stepped_step b scope attempt round w
      generalize step b scope attempt round w = result at hstep
      cases hstep with
      | interrupted interrupt found =>
          rw [found]
          exact .interrupted interrupt found
      | succeeded a w' calm tried =>
          rw [calm, tried]
          exact .succeeded a w' calm tried
      | failed e w' result calm tried after =>
          rw [calm, tried]
          rcases result with ⟨outcome | next, w''⟩
          · exact .ended e w' outcome w'' calm tried after
          · exact .again e w' next w'' _ _ calm tried after (ih next w'')

/-! ## Between two attempts -/

/-- From an attempt that ended in the world `w` to the next one, which begins
    in `w'`: the generator was asked once and gave an interval, and exactly
    that was waited for, without an interruption. -/
structure Resumed (scope : Scope) (g : Generator) (w w' : World σ) (interval : Span) : Prop where
  answer : (g.next w.scene.now).1 = some interval
  trace_eq : w'.trace = .interval (some interval) :: w.trace
  now_eq : w'.scene.now = w.scene.now + interval.nanos
  worker_eq : w'.worker = w.worker
  later : w.scene.Later w'.scene
  calm : w'.scene.check scope.signal scope.deadline = none

/-- The attempt `x` failed with an error that is tried again after, and was followed
    by `y`, when the generator was `g`. There is nothing else between the two: the
    generator is not asked twice, and no wait is left out. -/
structure Retried (scope : Scope) (g : Generator) (x y : Attempt σ) : Prop where
  failure : ∃ e, x.failure = some e ∧ scope.retries.retries e = true
  resumed : ∃ interval, Resumed scope g x.after y.before interval

/-- A failure that is followed by another round: the error is tried again after, the
    number and the generator go on by one, and the interval has been waited for. -/
theorem resumed_of_aftermath {round next : Round} {e : SessionError} {w w' : World σ}
    (h : Aftermath (α := α) b scope round e w (.inr next, w')) :
    scope.retries.retries e = true ∧
    next = ⟨round.attempt + 1, (round.generator.next w.scene.now).2, round.started⟩ ∧
    ∃ interval, Resumed scope round.generator w w' interval := by
  cases h with
  | again interval wake calm early retried asked ends waited =>
      -- The wake time is the interval away from the world as it was before the interval was
      -- noted, and noting it takes no time.
      have hwake := Moment.add?_eq_some ends
      have hle : (w.record (.interval (some interval))).scene.now ≤ wake :=
        hwake ▸ Nat.le_add_right _ _
      refine ⟨retried, rfl, interval, asked, rfl, (World.now_await hle waited).trans hwake, rfl,
        World.later_await b scope wake (w.record (.interval (some interval))), ?_⟩
      rw [World.check_await, waited]

variable {rounds : Nat} {round : Round} {w : World σ} {tries : List (Attempt σ)}
  {result : Outcome α × World σ}

/-- Every attempt was made while nothing interrupted the loop, and its result is
    what the attempt makes of the world. So the list cannot claim attempts that the
    operation would have answered otherwise. -/
theorem Ran.made (h : Ran b scope attempt rounds round w tries result) :
    ∀ x ∈ tries, x.before.scene.check scope.signal scope.deadline = none ∧
      failureOf (attempt x.number x.before).1 = x.failure ∧
      (attempt x.number x.before).2 = x.after := by
  -- The first attempt of a round is what the constructor says; the later ones are those of the
  -- rest of the loop.
  induction h with
  | unfinished | interrupted => exact fun x hx => absurd hx List.not_mem_nil
  | succeeded a w' calm tried =>
      intro x hx
      obtain rfl := List.mem_singleton.mp hx
      exact ⟨calm, by rw [tried]; rfl, by rw [tried]⟩
  | ended e w' outcome w'' calm tried after =>
      intro x hx
      obtain rfl := List.mem_singleton.mp hx
      exact ⟨calm, by rw [tried]; rfl, by rw [tried]⟩
  | again e w' next w'' rest result calm tried after ran ih =>
      intro x hx
      rcases List.mem_cons.mp hx with rfl | hx
      · exact ⟨calm, by rw [tried]; rfl, by rw [tried]⟩
      · exact ih x hx

/-- An attempt that succeeded ends the loop with its result: there is no attempt
    after it, and none of the errors comes in between. -/
theorem Ran.ok_of_succeeded (h : Ran b scope attempt rounds round w tries result)
    {x : Attempt σ} (hx : x ∈ tries) (fine : x.failure = none) :
    ∃ a, result = (.finished (.ok a), x.after) := by
  induction h with
  | unfinished | interrupted => exact absurd hx List.not_mem_nil
  | succeeded a w' calm tried =>
      obtain rfl := List.mem_singleton.mp hx
      exact ⟨a, rfl⟩
  | ended e w' outcome w'' calm tried after =>
      obtain rfl := List.mem_singleton.mp hx
      simp only [reduceCtorEq] at fine
  | again e w' next w'' rest result calm tried after ran ih =>
      rcases List.mem_cons.mp hx with rfl | hx
      · simp only [reduceCtorEq] at fine
      · exact ih hx

/-- Counting one more from `number` on is counting from the next number on. -/
theorem number_add_succ (number : UInt32) (n : Nat) :
    number + UInt32.ofNat (n + 1) = number + 1 + UInt32.ofNat n := by
  rw [Nat.add_comm n 1, UInt32.ofNat_add, ← UInt32.add_assoc]
  rfl

/-- The attempts are numbered one after the other, in 32 bits. The number goes round
    where they end, which is why the statement is about sums and not about positions
    in the list. -/
theorem Ran.numbers (h : Ran b scope attempt rounds round w tries result) :
    tries.map Attempt.number =
      (List.range tries.length).map (round.attempt + UInt32.ofNat ·) := by
  have hzero : round.attempt + UInt32.ofNat 0 = round.attempt := UInt32.add_zero _
  induction h with
  | unfinished | interrupted => rfl
  | succeeded | ended =>
      rw [List.length_singleton, List.range_one, List.map_singleton, List.map_singleton, hzero]
  | again e w' next w'' rest result calm tried after ran ih =>
      -- The attempts of the rest begin with the next number, and are counted on from there.
      rcases resumed_of_aftermath after with ⟨-, rfl, -⟩
      rw [List.map_cons, ih (UInt32.add_zero _), List.length_cons, List.range_succ_eq_map,
        List.map_cons, List.map_map, hzero]
      exact congrArg _ (List.map_congr_left fun n _ => (number_add_succ _ n).symm)

/-- The attempt after `n` others has the number `n + 1`, if 32 bits have room for it. -/
theorem toNat_one_add_ofNat {n : Nat} (hlt : n + 1 < UInt32.size) :
    ((1 : UInt32) + UInt32.ofNat n).toNat = n + 1 := by
  have hsum : (1 : UInt32) + UInt32.ofNat n = UInt32.ofNat (1 + n) := (UInt32.ofNat_add 1 n).symm
  rw [hsum, UInt32.toNat_ofNat_of_lt' (Nat.add_comm n 1 ▸ hlt), Nat.add_comm]

/-- As long as the number does not go round, it is the attempts themselves that it counts. -/
theorem Ran.numbers_toNat (h : Ran b scope attempt rounds round w tries result)
    (first : round.attempt = 1) (hlt : tries.length < UInt32.size) :
    tries.map (·.number.toNat) = List.range' 1 tries.length := by
  have hnumbers := congrArg (List.map UInt32.toNat) h.numbers
  rw [List.map_map, List.map_map, first] at hnumbers
  refine hnumbers.trans ?_
  rw [List.range'_eq_map_range]
  refine List.map_congr_left fun n hn => ?_
  exact (toNat_one_add_ofNat (Nat.lt_of_le_of_lt (List.mem_range.mp hn) hlt)).trans
    (Nat.add_comm n 1)

/-- A loop makes no more attempts than it is allowed rounds. -/
theorem Ran.length_le (h : Ran b scope attempt rounds round w tries result) :
    tries.length ≤ rounds := by
  induction h with
  | unfinished | interrupted => exact Nat.zero_le _
  | succeeded | ended => exact Nat.succ_le_succ (Nat.zero_le _)
  | again e w' next w'' rest result calm tried after ran ih => exact Nat.succ_le_succ ih

/-- The first attempt begins where the loop does. -/
theorem Ran.before_head {x : Attempt σ} {rest : List (Attempt σ)}
    (h : Ran b scope attempt rounds round w (x :: rest) result) : x.before = w := by
  cases h <;> rfl

/-- The generator after the attempts before the one with this index. It is asked at
    the end of each of them, at the time that it then is, and never otherwise. -/
def asked (round : Round) (tries : List (Attempt σ)) : Generator :=
  round.generator.after (tries.map fun x => x.after.scene.now)

/-- The round that comes after these attempts: the number and the generator went on with each of
    them, and the loop began when it did. -/
def roundAfter (round : Round) (tries : List (Attempt σ)) : Round :=
  ⟨round.attempt + UInt32.ofNat tries.length, asked round tries, round.started⟩

/-- Before the first attempt the round is the one that the loop began with. -/
theorem roundAfter_nil (round : Round) : roundAfter round ([] : List (Attempt σ)) = round := by
  rw [roundAfter, List.length_nil]
  change Round.mk (round.attempt + 0) round.generator round.started = round
  rw [UInt32.add_zero]

/-- The first of several attempts takes its round to the next one. -/
theorem roundAfter_cons (round : Round) (x : Attempt σ) (tries : List (Attempt σ)) :
    roundAfter round (x :: tries) =
      roundAfter ⟨round.attempt + 1, (round.generator.next x.after.scene.now).2, round.started⟩
        tries := by
  rw [roundAfter, List.length_cons, number_add_succ]
  rfl

/-- Between each attempt and the next there was one interval, which the
    generator gave after it was asked once for each attempt before. -/
theorem Ran.retried (h : Ran b scope attempt rounds round w tries result) :
    ∀ (i : Nat) (x y : Attempt σ), tries[i]? = some x → tries[i + 1]? = some y →
      Retried scope (asked round (tries.take i)) x y := by
  induction h with
  | unfinished | interrupted => exact fun i x y hx => absurd hx.symm (Option.some_ne_none x)
  | succeeded | ended => exact fun i x y _ hy => absurd hy.symm (Option.some_ne_none y)
  | again e w' next w'' rest result calm tried after ran ih =>
      intro i x y hx hy
      rcases resumed_of_aftermath after with ⟨hretries, rfl, interval, hresumed⟩
      -- Between the first attempt and the second stands the aftermath of the first; all other
      -- gaps are gaps in the rest of the loop.
      cases i with
      | zero =>
          obtain rfl := Option.some.inj hx
          refine ⟨⟨e, rfl, hretries⟩, interval, ?_⟩
          cases rest with
          | nil => exact absurd hy.symm (Option.some_ne_none y)
          | cons z rest =>
              obtain rfl := Option.some.inj hy
              rw [ran.before_head]
              exact hresumed
      | succ i => exact ih i x y hx hy

/-! ## The end -/

/-- How a loop ends whose last attempt was `last`, made in the round `round`.
    Interrupts before an attempt do not occur: after a wait that ended without one,
    the check before the next attempt finds none either. -/
inductive Closing (b : Outside σ) (scope : Scope)
    (attempt : UInt32 → World σ → Except SessionError α × World σ) (round : Round)
    (last : Attempt σ) : Outcome α × World σ → Prop where
  /-- The attempt succeeded. -/
  | succeeded (a : α) (fine : last.failure = none)
      (tried : attempt last.number last.before = (.ok a, last.after)) :
      Closing b scope attempt round last (.finished (.ok a), last.after)
  /-- The attempt failed, and that was the end. -/
  | failed (e : SessionError) (outcome : Outcome α) (w : World σ)
      (failure : last.failure = some e)
      (after : Aftermath b scope round e last.after (.inl outcome, w)) :
      Closing b scope attempt round last (outcome, w)
  /-- The attempt failed, and there were no more rounds. -/
  | unfinished (e : SessionError) (interval : Span) (w : World σ)
      (failure : last.failure = some e) (retried : scope.retries.retries e = true)
      (resumed : Resumed scope round.generator last.after w interval) :
      Closing b scope attempt round last (.unfinished, w)

/-- A loop that makes attempts ends with what follows the last of them. The round in
    which that is made is told by the attempts before it. -/
theorem Ran.closing (h : Ran b scope attempt rounds round w tries result) (hne : tries ≠ []) :
    ∃ init last, tries = init ++ [last] ∧
      Closing b scope attempt (roundAfter round init) last result := by
  induction h with
  | unfinished | interrupted => exact absurd rfl hne
  | succeeded a w' calm tried => exact ⟨[], _, rfl, .succeeded a rfl tried⟩
  | @ended rounds round w e w' outcome w'' calm tried after =>
      exact ⟨[], _, rfl, .failed e outcome w'' rfl (by rw [roundAfter_nil]; exact after)⟩
  | again e w' next w'' rest result calm tried after ran ih =>
      rcases resumed_of_aftermath after with ⟨hretries, rfl, interval, hresumed⟩
      cases rest with
      | nil =>
          cases ran with
          | unfinished => exact ⟨[], _, rfl, .unfinished e interval w'' rfl hretries hresumed⟩
          | interrupted interrupt found =>
              -- The wait before this round ended without an interruption.
              simp only [hresumed.calm, reduceCtorEq] at found
      | cons x rest =>
          rcases ih (List.cons_ne_nil x rest) with ⟨init, last, hrest, hclosing⟩
          refine ⟨_ :: init, last, by rw [hrest, List.cons_append], ?_⟩
          rw [roundAfter_cons]
          exact hclosing

/-- What follows a failure leads to a later scene: either the loop ends where it is,
    or it waits, and waiting only lets time pass. -/
theorem later_of_aftermath {e : SessionError} {result : Next α × World σ}
    (h : Aftermath b scope round e w result) : w.scene.Later result.2.scene := by
  cases h with
  | interrupted | unclear | cutShort | final | gaveUp | tooLong => exact .refl w.scene
  | woken interval wake | again interval wake =>
      exact World.later_await b scope wake (w.record (.interval (some interval)))

/-- A session error that is reported after a failure is the one that the
    attempt failed with, undisturbed by a signal or the deadline: either it is
    not tried again after, or the backoff gave up. -/
theorem reported_of_aftermath {e e' : SessionError} {w w' : World σ} {outcome : Outcome α}
    (h : Aftermath b scope round e w (.inl outcome, w')) (hsource : outcome.source? = some e') :
    e' = e ∧ w.scene.check scope.signal scope.deadline = none ∧
    standing scope.deadline w.scene.now e = .before ∧
    (scope.retries.retries e = false ∧
      outcome = .finished (.error (.session scope.operation e)) ∨
    scope.retries.retries e = true ∧ (round.generator.next w.scene.now).1 = none ∧
      outcome = .finished (.error (.exhausted scope.operation round.attempt
        (Span.ofNanos (w.scene.now - round.started)) e)) ∧
      w'.trace = .interval none :: w.trace) := by
  cases h with
  -- Cancellations, timeouts and the end of the clock carry no session error, so they are not
  -- what was reported.
  | interrupted | woken => simp only [Outcome.source?_ofInterrupt, reduceCtorEq] at hsource
  | unclear | tooLong =>
      simp only [Outcome.source?, Outcome.error?, Option.bind_none, reduceCtorEq] at hsource
  | cutShort =>
      simp only [Outcome.source?, Outcome.error?, Option.bind_some, WorkerError.source?,
        reduceCtorEq] at hsource
  | final calm early refused =>
      exact ⟨(Option.some.inj hsource).symm, calm, early, .inl ⟨refused, rfl⟩⟩
  | gaveUp calm early retried asked =>
      exact ⟨(Option.some.inj hsource).symm, calm, early, .inr ⟨retried, asked, rfl, rfl⟩⟩

/-- What a failure comes to that neither a signal nor the deadline has to do with,
    and that is followed by no other round. -/
theorem outcome_of_aftermath {e : SessionError} {w w' : World σ} {outcome : Outcome α}
    (h : Aftermath b scope round e w (.inl outcome, w'))
    (calm : w'.scene.check scope.signal scope.deadline = none)
    (early : standing scope.deadline w.scene.now e = .before) :
    (scope.retries.retries e = false ∧
      outcome = .finished (.error (.session scope.operation e))) ∨
    scope.retries.retries e = true ∧ ((round.generator.next w.scene.now).1 = none ∧
      outcome = .finished (.error (.exhausted scope.operation round.attempt
        (Span.ofNanos (w.scene.now - round.started)) e)) ∨
      ∃ interval, (round.generator.next w.scene.now).1 = some interval ∧
        Moment.add? w.scene.now interval = none ∧ outcome = .beyondClock) := by
  cases h with
  | interrupted interrupt found => simp only [found, reduceCtorEq] at calm
  | unclear _ close | cutShort _ close => simp only [early, reduceCtorEq] at close
  | final _ _ refused => exact .inl ⟨refused, rfl⟩
  | gaveUp _ _ retried asked => exact .inr ⟨retried, .inl ⟨asked, rfl⟩⟩
  | tooLong interval _ _ retried asked long =>
      exact .inr ⟨retried, .inr ⟨interval, asked, long, rfl⟩⟩
  | woken interval wake interrupt _ _ _ _ _ waited =>
      -- The interrupt is still found when the wait is over.
      have hfound := World.check_await b scope wake (w.record (.interval (some interval)))
      rw [calm, waited] at hfound
      simp only [reduceCtorEq] at hfound

/-- An outcome that follows a failure is not that there were no more rounds: only a
    loop that finds its rounds used up ends like that. -/
theorem ne_unfinished_of_aftermath {e : SessionError} {outcome : Outcome α} {w' : World σ}
    (h : Aftermath b scope round e w (.inl outcome, w')) : outcome ≠ .unfinished := by
  rintro rfl
  cases h

/-- A loop is unfinished only if it made as many attempts as it was allowed rounds.
    With enough rounds, then, each loop comes to an end of its own. -/
theorem Ran.length_of_unfinished (h : Ran b scope attempt rounds round w tries result)
    (hout : result.1 = .unfinished) : tries.length = rounds := by
  induction h with
  | unfinished => rfl
  | interrupted | succeeded => simp only [reduceCtorEq] at hout
  | ended e w' outcome w'' calm tried after => exact absurd hout (ne_unfinished_of_aftermath after)
  | again e w' next w'' rest result calm tried after ran ih =>
      rw [List.length_cons, ih hout]

/-- If time passes in attempts, it does in the loop, and nothing that lasts is
    lost from the beginning to each attempt and from there to the end. -/
theorem Ran.later (later : ∀ (n : UInt32) (w : World σ), w.scene.Later (attempt n w).2.scene)
    (h : Ran b scope attempt rounds round w tries result) :
    w.scene.Later result.2.scene ∧ ∀ x ∈ tries, w.scene.Later x.before.scene ∧
      x.before.scene.Later x.after.scene ∧ x.after.scene.Later result.2.scene := by
  -- The premise is about `attempt` as a function; the constructors have its result as a pair.
  have htried : ∀ {n : UInt32} {w : World σ} {r : Except SessionError α} {w' : World σ},
      attempt n w = (r, w') → w.scene.Later w'.scene := by
    intro n w r w' htry
    have := later n w
    rwa [htry] at this
  induction h with
  | unfinished | interrupted => exact ⟨.refl _, fun x hx => absurd hx List.not_mem_nil⟩
  | succeeded a w' calm tried =>
      refine ⟨htried tried, fun x hx => ?_⟩
      obtain rfl := List.mem_singleton.mp hx
      exact ⟨.refl _, htried tried, .refl _⟩
  | ended e w' outcome w'' calm tried after =>
      have hafter := later_of_aftermath after
      refine ⟨(htried tried).trans hafter, fun x hx => ?_⟩
      obtain rfl := List.mem_singleton.mp hx
      exact ⟨.refl _, htried tried, hafter⟩
  | again e w' next w'' rest result calm tried after ran ih =>
      have hafter := later_of_aftermath after
      have hnext := (htried tried).trans hafter
      refine ⟨hnext.trans ih.1, fun x hx => ?_⟩
      rcases List.mem_cons.mp hx with rfl | hx
      · exact ⟨.refl _, htried tried, hafter.trans ih.1⟩
      · rcases ih.2 x hx with ⟨hbefore, hduring, hend⟩
        exact ⟨hnext.trans hbefore, hduring, hend⟩

/-- A fact that may depend on the number of failures so far: idling keeps it,
    and every failure takes it to the next number. Then it holds when the last
    attempt begins, if that succeeds, and otherwise at the end. -/
theorem Ran.counted {P : Nat → World σ → Prop}
    (idle : ∀ n w w', P n w → Idled b w w' → P n w')
    (failed : ∀ (n : Nat) i w e w', P n w → attempt i w = (.error e, w') → P (n + 1) w')
    (h : Ran b scope attempt rounds round w tries result) {n : Nat} (start : P n w) :
    (∃ a init last, result = (.finished (.ok a), last.after) ∧ tries = init ++ [last] ∧
      P (n + init.length) last.before ∧
      attempt last.number last.before = (.ok a, last.after)) ∨
    (∀ a, result.1 ≠ .finished (.ok a)) ∧ P (n + tries.length) result.2 := by
  induction h generalizing n with
  | unfinished => exact .inr ⟨fun a => by simp only [ne_eq, reduceCtorEq, not_false_eq_true], start⟩
  -- An end by an interrupt is no success, whatever it is an interrupt of.
  | interrupted interrupt found =>
      exact .inr ⟨fun a heq => fail_ne _ a (congrArg Sum.inl heq), start⟩
  | succeeded a w' calm tried => exact .inl ⟨a, [], _, rfl, rfl, start, tried⟩
  | ended e w' outcome w'' calm tried after =>
      rcases idled_of_aftermath after with ⟨hidle, hne⟩
      exact .inr ⟨fun a heq => hne a (congrArg Sum.inl heq),
        idle _ _ _ (failed _ _ _ _ _ start tried) hidle⟩
  | again e w' next w'' rest result calm tried after ran ih =>
      have hnext := idle _ _ _ (failed _ _ _ _ _ start tried) (idled_of_aftermath after).1
      -- The failures of the rest are counted on from the next number, so one is added at the
      -- front of the list and not at its end.
      rcases ih hnext with ⟨a, init, last, hresult, hrest, hlast, htry⟩ | ⟨hne, hend⟩
      · refine .inl ⟨a, _ :: init, last, hresult, by rw [hrest, List.cons_append], ?_, htry⟩
        rwa [List.length_cons, Nat.add_comm init.length, ← Nat.add_assoc]
      · refine .inr ⟨hne, ?_⟩
        rwa [List.length_cons, Nat.add_comm rest.length, ← Nat.add_assoc]

/-! ## Runs -/

/-- The first round of a run that begins in the world `w`. The generator is made
    anew for it, so no run goes on with the intervals of another. -/
def firstRound (scope : Scope) (w : World σ) : Round :=
  ⟨1, scope.policy.start w.scene.now, w.scene.now⟩

/-- The attempts that a run makes, in order: those of its loop, which begins when
    the start of the operation has been noted. -/
def attempts (b : Outside σ) (rounds : Nat) (scope : Scope)
    (attempt : UInt32 → World σ → Except SessionError α × World σ) (w : World σ) :
    List (Attempt σ) :=
  attemptsOfLoop b scope attempt rounds (firstRound scope w) (w.record (.start scope.operation))

/-- A run goes in no other way than its loop, and `attempts` are those that it
    makes. -/
theorem ran_run (b : Outside σ) (rounds : Nat) (scope : Scope)
    (attempt : UInt32 → World σ → Except SessionError α × World σ) (w : World σ) :
    Ran b scope attempt rounds (firstRound scope w) (w.record (.start scope.operation))
      (attempts b rounds scope attempt w) (run b rounds scope attempt w) :=
  ran_loop b scope attempt rounds _ _

end Retry

end EventFlow
