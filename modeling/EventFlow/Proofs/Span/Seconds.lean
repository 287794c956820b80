import EventFlow.Proofs.Binary64.Rounding
import EventFlow.Span
import Mathlib.Tactic.Ring

/-!
# Spans in Floating Point Seconds

What is less than the seconds of a span is no longer than the span.

A span is turned into seconds by three roundings: of the whole seconds, of the
fraction, and of their sum. From `2 ^ 53` seconds on the result can be more
than the span by many nanoseconds, so it does not bound the span from above or
from below. It still does what a cap is there for. A number of the format that
is less than the result is less than the sum before it was rounded, since
rounding passes no such number. If the whole seconds are exact, the sum is off
by less than half a nanosecond, and that is lost when the number is turned into
nanoseconds again. If they are not, there is no room for the fraction in the
result at all, and the number is less than the whole seconds were before they
were rounded.

## Main definitions

* `Span.wholeUnits`, `Span.fractionUnits`: The two parts, rounded each.
* `Span.secondUnits`: Their sum, rounded.

## Theorems

* `toSeconds_eq`: The seconds of a span.
* `secondUnits_le`: They are at most `2 ^ 64`.
* `ofSeconds?_of_lt`: What is less is read as a span that is no longer.
-/

namespace EventFlow

namespace Binary64

variable {m n : Nat}

/-- The quotient of two whole numbers. -/
theorem div_whole (m : Nat) (hn : 0 < n) : (whole m).div (whole n) =
    ofUnits false (roundUnits (m * unitsPerOne * unitsPerOne) (n * unitsPerOne)) := by
  unfold whole div
  simp only
  rw [if_neg (Nat.ne_of_gt (Nat.mul_pos hn unitsPerOne_pos))]
  rfl

/-- A power of two has a single bit. -/
theorem short_pow (k : Nat) : Short (Nat.pow 2 k) :=
  ⟨1, k, by decide, (Nat.one_mul _).symm⟩

end Binary64

open Binary64

namespace Span

/-- A span is its nanoseconds. -/
theorem eq_of_nanos {r s : Span} (h : r.nanos = s.nanos) : r = s := by
  cases r
  cases s
  cases h
  rfl

variable (s : Span)

/-- The whole seconds in units of the format, rounded. -/
def wholeUnits : Nat := roundUnits (s.secs * unitsPerOne) 1

/-- The fraction of a second in such units, rounded. It is a quotient of two whole
    numbers that are exact. -/
def fractionUnits : Nat :=
  roundUnits (s.subsecNanos * unitsPerOne * unitsPerOne) (1_000_000_000 * unitsPerOne)

/-- There are fewer seconds than fit 64 bits, but they may well be more than the 53
    bits that the format holds. -/
theorem secs_lt : s.secs < 0x1_0000_0000_0000_0000 :=
  (Nat.div_lt_iff_lt_mul (by decide)).mpr s.nanos_lt

/-- And less than a second beside them. -/
theorem subsecNanos_lt : s.subsecNanos < 1_000_000_000 :=
  Nat.mod_lt _ (by decide)

/-- A span is its seconds and the rest. -/
theorem nanos_eq : s.nanos = s.secs * 1_000_000_000 + s.subsecNanos := by
  rw [secs, subsecNanos, Nat.mul_comm]
  exact (Nat.div_add_mod ..).symm

/-- Rounding takes the whole seconds to `2 ^ 64` at most, which the format holds. -/
theorem wholeUnits_le : s.wholeUnits ≤ Nat.pow 2 64 * unitsPerOne := by
  rcases exists_scale with ⟨k, -, hone, -⟩
  refine roundUnits_le Nat.one_pos ?_ ?_
  · rw [hone, ← two_pow_add]
    exact short_pow _
  · rw [Nat.mul_one]
    exact Nat.mul_le_mul_right _ (Nat.le_of_lt s.secs_lt)

/-- Less than a second stays less than a second. A fraction has nine decimal places,
    so it ends before the last number of the format below one. -/
theorem fractionUnits_lt : s.fractionUnits < unitsPerOne := by
  rcases exists_scale with ⟨k, -, hone, -, hk, -⟩
  -- A fraction of a second ends some way below the next one.
  have hsplit : unitsPerOne = 1099511627776 * Nat.pow 2 (k - 40) := by
    rw [hone, ← Nat.sub_add_cancel (Nat.le_trans (by decide) hk : 40 ≤ k), two_pow_add,
      Nat.mul_comm, Nat.add_sub_cancel]
  have hpos := two_pow_pos (k - 40)
  have hle : s.fractionUnits ≤ 1099511627775 * Nat.pow 2 (k - 40) := by
    refine roundUnits_le (Nat.mul_pos (by decide) unitsPerOne_pos) ⟨_, _, by decide, rfl⟩ ?_
    have hsub : s.subsecNanos * 1099511627776 ≤ 1099511627775 * 1_000_000_000 := by
      have := s.subsecNanos_lt
      omega
    calc s.subsecNanos * unitsPerOne * unitsPerOne
        = s.subsecNanos * 1099511627776 * (Nat.pow 2 (k - 40) * unitsPerOne) := by
          conv => lhs; rw [hsplit]
          rw [hsplit]
          ring
      _ ≤ 1099511627775 * 1_000_000_000 * (Nat.pow 2 (k - 40) * unitsPerOne) :=
          Nat.mul_le_mul_right _ hsub
      _ = 1099511627775 * Nat.pow 2 (k - 40) * (1_000_000_000 * unitsPerOne) := by ring
  omega

/-- The numbers around a fraction of a second are at most a nanosecond apart,
    whether they are as fine as the format has them or as coarse as 53 bits of the
    fraction allow. -/
theorem gridStep_fraction_le :
    1_000_000_000 * gridStep (s.subsecNanos * unitsPerOne * unitsPerOne)
      (1_000_000_000 * unitsPerOne) ≤ unitsPerOne := by
  have hden : 0 < 1_000_000_000 * unitsPerOne := Nat.mul_pos (by decide) unitsPerOne_pos
  rcases (excess_spec (s.subsecNanos * unitsPerOne * unitsPerOne) hden).2 with hzero | hlarge
  · -- The finest grid there is has steps of one unit.
    rw [gridStep, hzero]
    rcases exists_scale with ⟨k, -, hone, -, hk, -⟩
    calc 1_000_000_000 * Nat.pow 2 0 ≤ Nat.pow 2 53 := by decide
      _ ≤ Nat.pow 2 k := Nat.pow_le_pow_right (by decide) hk
      _ = unitsPerOne := hone.symm
  · -- On a coarser one the quotient has 53 bits, and it is less than a second.
    generalize gridStep _ _ = step at hlarge ⊢
    refine Nat.le_of_mul_le_mul_right (c := 1_000_000_000 * unitsPerOne) ?_ hden
    calc 1_000_000_000 * step * (1_000_000_000 * unitsPerOne)
        = 1_000_000_000 * (1_000_000_000 * unitsPerOne * step) := by ring
      _ ≤ Nat.pow 2 52 * (1_000_000_000 * unitsPerOne * step) :=
          Nat.mul_le_mul_right _ (by decide)
      _ ≤ s.subsecNanos * unitsPerOne * unitsPerOne := hlarge
      _ ≤ 1_000_000_000 * unitsPerOne * unitsPerOne :=
          Nat.mul_le_mul_right _ (Nat.mul_le_mul_right _ (Nat.le_of_lt s.subsecNanos_lt))
      _ = unitsPerOne * (1_000_000_000 * unitsPerOne) := by ring

/-- The fraction is rounded by half a nanosecond at most. -/
theorem fractionUnits_le :
    2 * (s.fractionUnits * 1_000_000_000) ≤ 2 * (s.subsecNanos * unitsPerOne) + unitsPerOne := by
  have hround := two_mul_roundUnits_le (s.subsecNanos * unitsPerOne * unitsPerOne)
    (1_000_000_000 * unitsPerOne)
  have hstep := s.gridStep_fraction_le
  change 2 * (s.fractionUnits * (1_000_000_000 * unitsPerOne)) ≤ _ at hround
  generalize gridStep _ _ = step at hround hstep
  refine Nat.le_of_mul_le_mul_right (c := unitsPerOne) ?_ unitsPerOne_pos
  calc 2 * (s.fractionUnits * 1_000_000_000) * unitsPerOne
      = 2 * (s.fractionUnits * (1_000_000_000 * unitsPerOne)) := by ring
    _ ≤ 2 * (s.subsecNanos * unitsPerOne * unitsPerOne) + 1_000_000_000 * unitsPerOne * step :=
        hround
    _ = 2 * (s.subsecNanos * unitsPerOne * unitsPerOne) +
          1_000_000_000 * step * unitsPerOne := by ring
    _ ≤ 2 * (s.subsecNanos * unitsPerOne * unitsPerOne) + unitsPerOne * unitsPerOne :=
        Nat.add_le_add_left (Nat.mul_le_mul_right _ hstep) _
    _ = (2 * (s.subsecNanos * unitsPerOne) + unitsPerOne) * unitsPerOne := by ring

/-! ## The sum of the parts -/

/-- The seconds of a span, in units. -/
def secondUnits : Nat := roundUnits (s.wholeUnits + s.fractionUnits) 1

/-- The sum was rounded, so the format holds it. -/
theorem short_secondUnits : Short s.secondUnits := short_roundUnits _ Nat.one_pos

/-- Few seconds are exact: the format has room for all of their bits. -/
theorem wholeUnits_of_le (h : s.secs ≤ Nat.pow 2 53) : s.wholeUnits = s.secs * unitsPerOne := by
  have hround := roundUnits_of_short (short_whole h) Nat.one_pos
  rwa [Nat.mul_one] at hround

/-- Beside many seconds there is no room for a fraction: the numbers of the format
    are two seconds or more apart there, and the fraction is less than one. -/
theorem secondUnits_of_le (h : Nat.pow 2 53 ≤ s.secs) : s.secondUnits = s.wholeUnits := by
  have hlarge : Nat.pow 2 53 * unitsPerOne ≤ s.wholeUnits :=
    le_roundUnits Nat.one_pos (short_whole (Nat.le_refl _)) (by
      rw [Nat.mul_one]
      exact Nat.mul_le_mul_right _ h)
  have hrest := s.fractionUnits_lt
  rcases exists_scale with ⟨k, -, hone, -⟩
  rw [hone] at hlarge hrest
  rw [← two_pow_add] at hlarge
  exact roundUnits_add (short_roundUnits _ Nat.one_pos) hlarge hrest

/-- The seconds of a span are `2 ^ 64` at most. That many come about by rounding,
    though no span has them. -/
theorem secondUnits_le : s.secondUnits ≤ Nat.pow 2 64 * unitsPerOne := by
  rcases Nat.lt_or_ge s.secs (Nat.pow 2 53) with hlt | hge
  · -- The fraction does not complete the last second.
    have hsum : s.wholeUnits + s.fractionUnits ≤ Nat.pow 2 53 * unitsPerOne := by
      rw [s.wholeUnits_of_le (Nat.le_of_lt hlt)]
      have hnext := Nat.mul_le_mul_right unitsPerOne hlt
      rw [Nat.succ_mul] at hnext
      exact Nat.le_trans (Nat.add_le_add_left (Nat.le_of_lt s.fractionUnits_lt) _) hnext
    refine Nat.le_trans (roundUnits_le Nat.one_pos (short_whole (Nat.le_refl _)) ?_)
      (Nat.mul_le_mul_right _ (Nat.pow_le_pow_right (by decide) (by decide)))
    rwa [Nat.mul_one]
  · rw [s.secondUnits_of_le hge]
    exact s.wholeUnits_le

/-- So they are far from what the format cannot hold. -/
theorem lt_overflowUnits {units : Nat} (h : units ≤ Nat.pow 2 64 * unitsPerOne) :
    units < overflowUnits := by
  rcases exists_scale with ⟨k, limit, hone, hlimit, -, hlt⟩
  calc units ≤ Nat.pow 2 64 * unitsPerOne := h
    _ = Nat.pow 2 (64 + k) := by rw [hone, two_pow_add]
    _ < Nat.pow 2 limit := two_pow_lt hlt
    _ = overflowUnits := hlimit.symm

/-- The seconds of a span are a finite number that is not negative, formed by the
    three roundings. -/
theorem toSeconds_eq : s.toSeconds = .finite false s.secondUnits := by
  have hwhole : Binary64.ofNat s.secs = .finite false s.wholeUnits := by
    rw [Binary64.ofNat, ofRatio, ← wholeUnits, ofUnits_of_lt (lt_overflowUnits s.wholeUnits_le)]
  have hnano : s.subsecNanos ≤ Nat.pow 2 53 :=
    Nat.le_trans (Nat.le_of_lt s.subsecNanos_lt) (by decide)
  have hfraction : (Binary64.ofNat s.subsecNanos).div (Binary64.ofNat 1_000_000_000) =
      .finite false s.fractionUnits := by
    have hle : s.fractionUnits ≤ Nat.pow 2 64 * unitsPerOne :=
      Nat.le_trans (Nat.le_of_lt s.fractionUnits_lt) (Nat.le_mul_of_pos_left _ (two_pow_pos 64))
    rw [ofNat_of_le hnano, ofNat_of_le (by decide), div_whole _ (by decide), ← fractionUnits,
      ofUnits_of_lt (lt_overflowUnits hle)]
  rw [toSeconds, hwhole, hfraction, add_finite, ← secondUnits,
    ofUnits_of_lt (lt_overflowUnits s.secondUnits_le)]

/-! ## Back again -/

variable {s : Span} {units : Nat}

/-- What is less than the seconds of a span is no longer than the span, when it is
    made into nanoseconds again. Whether there are few seconds or many decides which
    rounding has to be followed. -/
theorem roundTiesEven_le_nanos (hunits : Short units) (h : units < s.secondUnits) :
    roundTiesEven (units * 1_000_000_000) unitsPerOne ≤ s.nanos := by
  have hone := unitsPerOne_pos
  have hnanos := s.nanos_eq
  rcases Nat.lt_or_ge s.secs (Nat.pow 2 53) with hlt | hge
  · -- Rounding passes no number of the format, so `units` is less than the sum before.
    have hsum : units < s.wholeUnits + s.fractionUnits := by
      refine Nat.not_le.mp fun hle => Nat.not_lt.mpr ?_ h
      exact roundUnits_le Nat.one_pos hunits (by rwa [Nat.mul_one])
    rw [s.wholeUnits_of_le (Nat.le_of_lt hlt)] at hsum
    have hfraction := s.fractionUnits_le
    refine roundTiesEven_le_of_lt hone ?_
    have hmul : s.nanos * unitsPerOne =
        s.secs * unitsPerOne * 1_000_000_000 + s.subsecNanos * unitsPerOne := by
      rw [hnanos]
      ring
    omega
  · rw [s.secondUnits_of_le hge] at h
    -- The fraction is lost, so it is the whole seconds that bound it.
    have hwhole : units < s.secs * unitsPerOne := by
      refine Nat.not_le.mp fun hle => Nat.not_lt.mpr ?_ h
      exact roundUnits_le Nat.one_pos hunits (by rwa [Nat.mul_one])
    refine roundTiesEven_le_of_le hone ?_
    calc units * 1_000_000_000 ≤ s.secs * unitsPerOne * 1_000_000_000 :=
          Nat.mul_le_mul_right _ (Nat.le_of_lt hwhole)
      _ = s.secs * 1_000_000_000 * unitsPerOne := Nat.mul_right_comm ..
      _ ≤ s.nanos * unitsPerOne := Nat.mul_le_mul_right _ (by omega)

/-- So it is read as a span that is no longer. In particular it is read at all,
    since it is in the range of spans. -/
theorem ofSeconds?_of_lt (hunits : Short units) (h : units < s.secondUnits) :
    ∃ r, ofSeconds? (.finite false units) = some r ∧ r.nanos ≤ s.nanos := by
  have hle := roundTiesEven_le_nanos hunits h
  unfold ofSeconds?
  simp only [Bool.false_and, Bool.false_eq_true, if_false]
  generalize roundTiesEven (units * 1_000_000_000) unitsPerOne = n at hle
  have hlt := Nat.lt_of_le_of_lt hle s.nanos_lt
  exact ⟨⟨n, hlt⟩, dif_pos hlt, hle⟩

end Span

end EventFlow
