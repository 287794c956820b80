import EventFlow.Span

/-!
# Backoff

How long to wait before the next attempt, and when to give up.

A `Policy` is what a configuration holds. Every operation makes a `Generator` of its own from it
and asks that for one interval after another; `none` means to stop and report the last error. The
limits of a policy are wrappers, so they can be nested in any order and depth. A caller may also
bring generators of its own; all that an operation learns of one is what it answers, so such a
policy is the list of its answers.

The exponential policy grows its interval in floating point seconds. The comparison with the cap
is made before the conversion back, so the conversion is only ever given a number of seconds that
is below that of a span.

## Main definitions

* `Policy`: how intervals are to be generated.
* `Generator`: a policy at work.
* `Policy.start`: a fresh generator.
* `Generator.next`: the next interval.
* `RetrySettings`: the retry section of a configuration file, and its policy.
-/

namespace EventFlow

/-- Intervals that grow by a factor up to a cap. -/
structure Growth where
  /-- The first interval. -/
  initial : Span
  /-- The factor from one interval to the next. -/
  multiplier : Binary64
  /-- The longest interval. -/
  cap : Span
  deriving DecidableEq, Repr, Inhabited

namespace Growth

/-- A growth whose factor is at least one, an unusable factor counting as one, and whose cap is no
    shorter than its first interval. -/
def of (initial : Span) (multiplier : Binary64) (cap : Span) : Growth where
  initial := initial
  multiplier :=
    if multiplier.isFinite && Binary64.one.le multiplier then multiplier else Binary64.one
  cap := cap.max initial

/-- Half a second, growing by half, up to a minute. -/
def standard : Growth :=
  of (.ofMillis 500) (.ofDecimal false 15 (-1)) (.ofSecs 60)

/-- The seconds that follow an interval, before the cap is applied. -/
def grown (g : Growth) (current : Span) : Binary64 :=
  current.toSeconds.mul g.multiplier

/-- The interval after `current`. -/
def after (g : Growth) (current : Span) : Span :=
  let seconds := g.grown current
  if g.cap.toSeconds.le seconds then g.cap
  else (Span.ofSeconds? seconds).getD g.cap

end Growth

/-- How the intervals between attempts are generated. -/
inductive Policy where
  /-- Growing intervals without end. -/
  | exponential (growth : Growth)
  /-- The same interval without end. -/
  | constant (interval : Span)
  /-- No waiting, without end. -/
  | zero
  /-- No second attempt. -/
  | stop
  /-- At most so many intervals of a policy. -/
  | maxRetries (inner : Policy) (limit : Nat)
  /-- A policy until so much time has passed. -/
  | maxElapsed (inner : Policy) (limit : Span)
  /-- Whatever generators of the caller's own answer, one answer after the other, and then stop. -/
  | scripted (answers : List (Option Span))
  deriving DecidableEq, Repr, Inhabited

/-- A policy at work for one operation. -/
inductive Generator where
  /-- Growing intervals, the next of which is `current`. -/
  | exponential (growth : Growth) (current : Span)
  /-- The same interval every time. -/
  | constant (interval : Span)
  /-- No waiting. -/
  | zero
  /-- Nothing but stop. -/
  | stop
  /-- A generator that stops once it has been asked `limit` times. -/
  | maxRetries (inner : Generator) (limit used : Nat)
  /-- A generator that stops once `limit` has passed since `started`. -/
  | maxElapsed (inner : Generator) (limit : Span) (started : Moment)
  /-- A generator of the caller's own, by the answers that it has left. -/
  | scripted (answers : List (Option Span))
  deriving DecidableEq, Repr, Inhabited

namespace Policy

/-- The policy used unless another one is chosen. -/
def standard : Policy := .exponential .standard

/-- A generator made at a moment. -/
def start (now : Moment) : Policy → Generator
  | .exponential growth => .exponential growth growth.initial
  | .constant interval => .constant interval
  | .zero => .zero
  | .stop => .stop
  | .maxRetries inner limit => .maxRetries (inner.start now) limit 0
  | .maxElapsed inner limit => .maxElapsed (inner.start now) limit now
  | .scripted answers => .scripted answers

end Policy

namespace Generator

/-- The next interval, if there is one, and the generator afterwards. A limit that has been reached
    leaves the generator inside it alone; an inner stop still uses up an outer retry. -/
def next (now : Moment) : Generator → Option Span × Generator
  | .exponential growth current => (some current, .exponential growth (growth.after current))
  | .constant interval => (some interval, .constant interval)
  | .zero => (some .zero, .zero)
  | .stop => (none, .stop)
  | .maxRetries inner limit used =>
    -- Once at the limit the generator stays there, whatever the one inside would say.
    if limit ≤ used then (none, .maxRetries inner limit used)
    else
      let (interval, inner) := inner.next now
      (interval, .maxRetries inner limit (used + 1))
  | .maxElapsed inner limit started =>
    if limit.nanos ≤ now - started then (none, .maxElapsed inner limit started)
    else
      let (interval, inner) := inner.next now
      (interval, .maxElapsed inner limit started)
  | .scripted [] => (none, .scripted [])
  | .scripted (answer :: answers) => (answer, .scripted answers)

/-- Starts growing intervals over from the first one; no other generator has a way back. -/
def reset : Generator → Generator
  | .exponential growth _ => .exponential growth growth.initial
  | generator => generator

end Generator

/-- The retry section of a configuration file. -/
structure RetrySettings where
  /-- The first interval in milliseconds. -/
  initialMillis : UInt64
  /-- The factor from one interval to the next. -/
  multiplier : Binary64
  /-- The longest interval in milliseconds. -/
  capMillis : UInt64
  /-- How many retries there may be. -/
  maxRetries : Option UInt32
  /-- After how many seconds to give up. -/
  maxElapsedSecs : Option UInt64
  deriving DecidableEq, Repr, Inhabited

namespace RetrySettings

/-- Half a second, growing by half, up to a minute, without a limit. -/
def standard : RetrySettings where
  initialMillis := 500
  multiplier := .ofDecimal false 15 (-1)
  capMillis := 60000
  maxRetries := none
  maxElapsedSecs := none

/-- The policy that a retry section describes: growing intervals inside the limit on retries inside
    the limit on time. -/
def policy (settings : RetrySettings) : Policy :=
  let base := Policy.exponential
    (.of (.ofMillis settings.initialMillis) settings.multiplier (.ofMillis settings.capMillis))
  let counted := match settings.maxRetries with
    | some n => .maxRetries base n.toNat
    | none => base
  match settings.maxElapsedSecs with
  | some secs => .maxElapsed counted (.ofSecs secs)
  | none => counted

end RetrySettings

end EventFlow
