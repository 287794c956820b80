import EventFlow.Binary64

/-!
# Spans of time

A length of time in whole nanoseconds: a timeout, a backoff interval, a limit.

The whole seconds of a span fit 64 bits, and this bound is part of the type. It matters twice:
the growth of a backoff interval is computed in floating point seconds and must come back as a
span, and a moment that lies a span in the future may not exist (see `Moment.add?`).

## Main definitions

* `Span`: a length of time.
* `Span.toSeconds`, `Span.ofSeconds?`: seconds as a floating point number and back.
* `Moment`: a reading of the clock.
-/

namespace EventFlow

/-- A length of time. -/
structure Span where
  /-- The length in nanoseconds. -/
  nanos : Nat
  /-- The whole seconds fit 64 bits. -/
  nanos_lt : nanos < 0x1_0000_0000_0000_0000 * 1_000_000_000
  deriving DecidableEq, Repr

namespace Span

def zero : Span := ⟨0, by decide⟩

instance : Inhabited Span := ⟨zero⟩

/-- The longest span. -/
def longest : Span := ⟨0x1_0000_0000_0000_0000 * 1_000_000_000 - 1, by decide⟩

/-- The span of so many nanoseconds, or the longest one. -/
def ofNanos (n : Nat) : Span :=
  if h : n < 0x1_0000_0000_0000_0000 * 1_000_000_000 then ⟨n, h⟩ else longest

/-- The span of so many milliseconds. -/
def ofMillis (n : UInt64) : Span :=
  ⟨n.toNat * 1_000_000, by have := n.toNat_lt; omega⟩

/-- The span of so many seconds. -/
def ofSecs (n : UInt64) : Span :=
  ⟨n.toNat * 1_000_000_000, by have := n.toNat_lt; omega⟩

def secs (s : Span) : Nat := s.nanos / 1_000_000_000

def subsecNanos (s : Span) : Nat := s.nanos % 1_000_000_000

def isZero (s : Span) : Bool := s.nanos == 0

/-- The longer of two spans. -/
def max (s t : Span) : Span :=
  if s.nanos ≤ t.nanos then t else s

/-- The span less an amount, zero if that is more than the span. -/
def sub (s : Span) (nanos : Nat) : Span :=
  ⟨s.nanos - nanos, Nat.lt_of_le_of_lt (Nat.sub_le _ _) s.nanos_lt⟩

/-- The seconds as a floating point number: the whole seconds and the fraction are rounded each,
    and so is their sum. -/
def toSeconds (s : Span) : Binary64 :=
  (Binary64.ofNat s.secs).add ((Binary64.ofNat s.subsecNanos).div (Binary64.ofNat 1_000_000_000))

/-- The span of so many floating point seconds, to the nearest nanosecond, a tie going to the even
    one; nothing for a number that is negative, too large or not finite. -/
def ofSeconds? : Binary64 → Option Span
  | .finite negative units =>
    let n := roundTiesEven (units * 1_000_000_000) Binary64.unitsPerOne
    if negative && units != 0 then none
    else if h : n < 0x1_0000_0000_0000_0000 * 1_000_000_000 then some ⟨n, h⟩
    else none
  | _ => none

/-- The milliseconds of a span, a started one counting in full. -/
def ceilMillis (s : Span) : Nat := (s.nanos + 999_999) / 1_000_000

@[simp] theorem nanos_zero : zero.nanos = 0 := rfl

@[simp] theorem nanos_sub (s : Span) (n : Nat) : (s.sub n).nanos = s.nanos - n := rfl

theorem nanos_max (s t : Span) : (s.max t).nanos = Nat.max s.nanos t.nanos := by
  unfold max
  split
  · exact (Nat.max_eq_right (by assumption)).symm
  · exact (Nat.max_eq_left (by omega)).symm

theorem ofNanos_of_lt {n : Nat} (h : n < 0x1_0000_0000_0000_0000 * 1_000_000_000) :
    ofNanos n = ⟨n, h⟩ :=
  dif_pos h

end Span

/-- A reading of the clock, in nanoseconds since the clock was started. -/
abbrev Moment := Nat

namespace Moment

/-- The clock counts seconds in 63 bits, so no moment is as late as this. -/
def horizon : Nat := 0x8000_0000_0000_0000 * 1_000_000_000

/-- The moment a span later, if the clock can still show it. -/
def add? (t : Moment) (s : Span) : Option Moment :=
  if t + s.nanos < horizon then some (t + s.nanos) else none

theorem add?_eq_some {t u : Moment} {s : Span} (h : t.add? s = some u) : u = t + s.nanos := by
  unfold add? at h
  split at h
  · exact (Option.some.inj h).symm
  · exact absurd h (by simp only [reduceCtorEq, not_false_eq_true])

end Moment

end EventFlow
