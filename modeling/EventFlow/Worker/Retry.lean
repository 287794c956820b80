import EventFlow.Worker

/-!
# Trying again

The loop that all operations of a worker share.

An operation is attempted until it succeeds, fails in a way that is not tried again after, is
interrupted, or its backoff gives up. Interruption is looked for before every attempt and again
after a failed one, so a call that came back only because its time ran out is reported as what ended
it; for the same reason a timeout this close to the deadline counts as the deadline. A successful
attempt is always reported as such.

The loop need not end, so it is counted: `Retry.run` makes at most so many rounds. A result that was
reached does not depend on how many more were allowed.

The attempts are numbered in 32 bits, and the number goes round after the last one. A program that
is built to check its arithmetic stops with a fault there, when the wait after the last number is
over: it is the loop with `Retry.numbers` rounds, and its fault is that they are used up.

## Main definitions

* `Outcome`: how an operation ended.
* `Scope`: what an operation runs under.
* `Retry.step`: one round of the loop.
* `Retry.run`: at most so many rounds.
* `Retry.numbers`: how many rounds are numbered before the number goes round.
-/

namespace EventFlow

/-- How an operation ended. -/
inductive Outcome (α : Type) where
  /-- It came to a result. -/
  | finished (result : Except WorkerError α)
  /-- It needed a moment that the clock cannot show. -/
  | beyondClock
  /-- It was still being tried when the rounds were used up. -/
  | unfinished
  deriving Inhabited

/-- What an operation runs under. -/
structure Scope where
  operation : Operation
  /-- Which errors it is tried again after. -/
  retries : RetryClass
  policy : Policy
  /-- The signal it observes. -/
  signal : SignalId
  deadline : Option Moment
  deriving DecidableEq, Inhabited

/-- How far a loop is. -/
structure Round where
  /-- The number of the attempt that comes next, the first one being one. -/
  attempt : UInt32
  generator : Generator
  /-- When the loop began. -/
  started : Moment
  deriving DecidableEq, Inhabited

namespace Retry

variable {σ α : Type}

/-- How close to the deadline a timeout counts as the deadline: ten milliseconds, which covers the
    granularity of the timers of a transport. -/
def slack : Span := .ofMillis 10

/-- How many attempts have a number of their own: all that 32 bits have room for but zero. -/
def numbers : Nat := UInt32.size - 1

/-- How a failed attempt stands to the deadline. -/
inductive Standing where
  /-- Well before it. -/
  | before
  /-- Cut short by it. -/
  | cutShort
  /-- The clock cannot tell. -/
  | unknown
  deriving DecidableEq, Repr, Inhabited

/-- How an attempt that failed now stands to the deadline. Only timeouts are cut short. -/
def standing (deadline : Option Moment) (now : Moment) (e : SessionError) : Standing :=
  match deadline with
  | none => .before
  | some deadline =>
    if e.isTimeout then
      match Moment.add? now slack with
      | none => .unknown
      | some soon => if deadline ≤ soon then .cutShort else .before
    else .before

/-- How a step of the loop ends: with an outcome, or with another round. -/
abbrev Next (α : Type) := Outcome α ⊕ Round

/-- The end of a loop that failed. -/
def fail (e : WorkerError) : Next α := .inl (.finished (.error e))

/-- Waits before the next attempt. -/
def pause (b : Outside σ) (scope : Scope) (round : Round) (interval : Span) (w : World σ) :
    Next α × World σ :=
  match Moment.add? w.scene.now interval with
  | none => (.inl .beyondClock, w)
  | some wake =>
    -- Others are heard up to the end of the wait, and no longer than to the deadline.
    let (happenings, outside) := b.wait w.scene.now (Scene.limit wake scope.deadline) w.outside
    let (interrupt, scene) := w.scene.sleepUntil scope.signal wake scope.deadline happenings
    let w := { w with scene, outside }
    match interrupt with
    | some interrupt => (fail (.ofInterrupt interrupt), w)
    | none => (.inr { round with attempt := round.attempt + 1 }, w)

/-- Asks the backoff after a failed attempt. -/
def backOff (b : Outside σ) (scope : Scope) (round : Round) (e : SessionError) (w : World σ) :
    Next α × World σ :=
  let (interval, generator) := round.generator.next w.scene.now
  let w := w.record (.interval interval)
  match interval with
  | none =>
    let elapsed := Span.ofNanos (w.scene.now - round.started)
    (fail (.exhausted scope.operation round.attempt elapsed e), w)
  | some interval => pause b scope { round with generator } interval w

/-- What follows a failed attempt. -/
def afterFailure (b : Outside σ) (scope : Scope) (round : Round) (e : SessionError)
    (w : World σ) : Next α × World σ :=
  -- What interrupted the attempt is reported, not what the attempt made of it.
  match w.scene.check scope.signal scope.deadline with
  | some interrupt => (fail (.ofInterrupt interrupt), w)
  | none =>
    match standing scope.deadline w.scene.now e with
    | .unknown => (.inl .beyondClock, w)
    | .cutShort => (fail .deadlineExceeded, w)
    | .before =>
      if scope.retries.retries e then backOff b scope round e w
      else (fail (.session scope.operation e), w)

/-- One round: an attempt, and what follows it. -/
def step (b : Outside σ) (scope : Scope)
    (attempt : UInt32 → World σ → Except SessionError α × World σ) (round : Round) (w : World σ) :
    Next α × World σ :=
  match w.scene.check scope.signal scope.deadline with
  | some interrupt => (fail (.ofInterrupt interrupt), w)
  | none =>
    match attempt round.attempt w with
    -- A result counts even when it comes after a cancellation or the deadline.
    | (.ok a, w) => (.inl (.finished (.ok a)), w)
    | (.error e, w) => afterFailure b scope round e w

/-- At most so many rounds. -/
def loop (b : Outside σ) (scope : Scope)
    (attempt : UInt32 → World σ → Except SessionError α × World σ) :
    (rounds : Nat) → Round → World σ → Outcome α × World σ
  | 0, _, w => (.unfinished, w)
  | rounds + 1, round, w =>
    match step b scope attempt round w with
    | (.inl outcome, w) => (outcome, w)
    | (.inr round, w) => loop b scope attempt rounds round w

/-- The loop of an operation, with a generator of its own. -/
def run (b : Outside σ) (rounds : Nat) (scope : Scope)
    (attempt : UInt32 → World σ → Except SessionError α × World σ) (w : World σ) :
    Outcome α × World σ :=
  let w := w.record (.start scope.operation)
  loop b scope attempt rounds ⟨1, scope.policy.start w.scene.now, w.scene.now⟩ w

end Retry

end EventFlow
