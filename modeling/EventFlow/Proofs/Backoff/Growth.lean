import EventFlow.Backoff
import EventFlow.Proofs.Span.Seconds

/-!
# Growing Intervals and Their Cap

Intervals that grow never get past their cap, whatever they grow by.

The factor may be read from a file, so it can be anything that is a number of
the format or none: not a number, infinite, negative, or so large that the
first product overflows. All that is unusable counts as one (`of_multiplier`),
and a product is compared with the cap before it is made into an interval. The
comparison is one of floating point seconds, and from there to an interval
there is one more rounding; `Span.ofSeconds?_of_lt` is what makes the bound
hold of the interval as well. It also shows that the conversion never fails, so
there is always a next interval (`after_cases`).

Since the factor is at least one and rounding passes no number of the format,
the product with the cap is no less than the cap (`after_cap`). An interval
that is the cap is therefore followed by itself, until somebody starts over.

## Main definitions

* `Generator.Turn`, `Generator.turns`: What is done with a generator.

## Theorems

* `of_multiplier`: Which factors are used.
* `after_cases`: An interval is followed by the cap or by what the seconds say,
  which is no longer.
* `after_cap`: The cap is followed by the cap.
* `turns_exponential`: No turns take an interval beyond the cap.
* `growth_bounded`: What a generator of growing intervals does.
-/

namespace EventFlow

open Binary64

namespace Growth

variable {g : Growth} {n : Nat}

/-- Whatever factor was asked for, the one that is used is finite and at least one.
    A factor below one would shrink intervals, and one that is no number could not
    be compared. -/
theorem of_multiplier (initial : Span) (multiplier : Binary64) (cap : Span) :
    ∃ n, (of initial multiplier cap).multiplier = .finite false n ∧ unitsPerOne ≤ n := by
  unfold of
  split
  · rename_i husable
    rw [Bool.and_eq_true] at husable
    rcases husable with ⟨hfinite, hle⟩
    cases multiplier with
    | nan | infinite negative => exact absurd hfinite Bool.false_ne_true
    | finite negative n =>
        have hpos := unitsPerOne_pos
        unfold one le at hle
        simp only [signedUnits, Bool.false_eq_true, if_false, decide_eq_true_eq] at hle
        -- A negative number is not at least one.
        cases negative with
        | true =>
            simp only [if_true] at hle
            omega
        | false =>
            simp only [Bool.false_eq_true, if_false] at hle
            exact ⟨n, rfl, Int.ofNat_le.mp hle⟩
  · exact ⟨unitsPerOne, rfl, Nat.le_refl _⟩

/-- The cap is no shorter than the first interval, whichever of them is asked to be. -/
theorem nanos_of_cap (initial : Span) (multiplier : Binary64) (cap : Span) :
    (of initial multiplier cap).cap.nanos = max initial.nanos cap.nanos :=
  (Span.nanos_max ..).trans (Nat.max_comm ..)

/-- The product with a factor that is not negative: exact, and rounded once. -/
theorem grown_eq (h : g.multiplier = .finite false n) (current : Span) : g.grown current =
    ofUnits false (roundUnits (current.secondUnits * n) unitsPerOne) := by
  rw [grown, h, current.toSeconds_eq]
  unfold mul
  simp only [Bool.xor_false]

/-- The seconds of a span are no more than infinitely many. -/
theorem le_infinite (x : Span) : x.toSeconds.le (.infinite false) = true := by
  rw [x.toSeconds_eq]
  unfold le
  rfl

/-- What would reach the cap is the cap. -/
theorem after_of_le {current : Span} (h : g.cap.toSeconds.le (g.grown current) = true) :
    g.after current = g.cap := by
  unfold after
  simp only [h, if_true]

/-- Anything else is made into an interval, and it is the cap only if that cannot be
    done. -/
theorem after_of_not_le {current : Span} (h : ¬ g.cap.toSeconds.le (g.grown current) = true) :
    g.after current = (Span.ofSeconds? (g.grown current)).getD g.cap := by
  unfold after
  simp only [h, Bool.false_eq_true, if_false]

/-- An interval is followed by the cap, or by what the seconds say. These are then
    a finite number of seconds, less than `2 ^ 64`, and make an interval that is
    no longer than the cap. -/
theorem after_cases (h : g.multiplier = .finite false n) (current : Span) :
    (g.cap.toSeconds.le (g.grown current) = true ∧ g.after current = g.cap) ∨
    ∃ units, g.grown current = .finite false units ∧ units < Nat.pow 2 64 * unitsPerOne ∧
      Span.ofSeconds? (g.grown current) = some (g.after current) ∧
      (g.after current).nanos ≤ g.cap.nanos := by
  by_cases hcap : g.cap.toSeconds.le (g.grown current) = true
  · exact .inl ⟨hcap, after_of_le hcap⟩
  · refine .inr ?_
    have hafter := after_of_not_le hcap
    rw [grown_eq h] at hcap hafter ⊢
    have hshort := short_roundUnits (current.secondUnits * n) unitsPerOne_pos
    generalize roundUnits (current.secondUnits * n) unitsPerOne = units at hcap hafter hshort ⊢
    by_cases hover : units < overflowUnits
    · rw [ofUnits_of_lt hover] at hcap hafter ⊢
      -- Both are numbers of seconds, so the comparison is one of units.
      have hlt : units < g.cap.secondUnits := by
        rw [g.cap.toSeconds_eq] at hcap
        unfold le at hcap
        simp only [signedUnits, Bool.false_eq_true, if_false, decide_eq_true_eq] at hcap
        omega
      rcases Span.ofSeconds?_of_lt hshort hlt with ⟨next, hnext, hle⟩
      rw [hnext, Option.getD_some] at hafter
      rw [hafter]
      exact ⟨units, rfl, Nat.lt_of_lt_of_le hlt g.cap.secondUnits_le, hnext, hle⟩
    · -- A product that overflows is at least any cap.
      exact absurd (le_infinite g.cap) (by rwa [ofUnits, if_neg hover] at hcap)

/-- So no interval that follows another one is longer than the cap. -/
theorem after_le_cap (h : g.multiplier = .finite false n) (current : Span) :
    (g.after current).nanos ≤ g.cap.nanos := by
  rcases after_cases h current with ⟨-, hafter⟩ | ⟨units, -, -, -, hle⟩
  · rw [hafter]
  · exact hle

/-- The cap is followed by the cap. The product with a factor of at least one is no
    less than it, even when it is rounded, and it may overflow. -/
theorem after_cap (h : g.multiplier = .finite false n) (hn : unitsPerOne ≤ n) :
    g.after g.cap = g.cap := by
  refine after_of_le ?_
  rw [grown_eq h]
  have hle : g.cap.secondUnits ≤ roundUnits (g.cap.secondUnits * n) unitsPerOne :=
    le_roundUnits unitsPerOne_pos g.cap.short_secondUnits (Nat.mul_le_mul_left _ hn)
  generalize roundUnits (g.cap.secondUnits * n) unitsPerOne = units at hle
  by_cases hover : units < overflowUnits
  · rw [ofUnits_of_lt hover, g.cap.toSeconds_eq]
    unfold le
    simp only [signedUnits, Bool.false_eq_true, if_false, decide_eq_true_eq]
    exact Int.ofNat_le.mpr hle
  · rw [ofUnits, if_neg hover]
    exact le_infinite g.cap

end Growth

namespace Generator

/-- What is done with a generator. -/
inductive Turn where
  /-- It is asked for the next interval. -/
  | ask (now : Moment)
  /-- It starts over. -/
  | startOver
  deriving DecidableEq, Repr

/-- The generator after a turn. -/
def turn (g : Generator) : Turn → Generator
  | .ask now => (g.next now).2
  | .startOver => g.reset

/-- The generator after some turns. -/
def turns (g : Generator) (done : List Turn) : Generator :=
  done.foldl turn g

/-- Turns are taken one after the other. -/
theorem turns_append (g : Generator) (first second : List Turn) :
    g.turns (first ++ second) = (g.turns first).turns second :=
  List.foldl_append

variable {growth : Growth} {n : Nat}

/-- No turns take an interval beyond the cap. -/
theorem turns_exponential (h : growth.multiplier = .finite false n)
    (hinitial : growth.initial.nanos ≤ growth.cap.nanos) (done : List Turn) {current : Span}
    (hcurrent : current.nanos ≤ growth.cap.nanos) : ∃ interval,
      (Generator.exponential growth current).turns done = .exponential growth interval ∧
        interval.nanos ≤ growth.cap.nanos := by
  induction done generalizing current with
  | nil => exact ⟨current, rfl, hcurrent⟩
  | cons first done ih =>
      cases first with
      | ask now =>
          rw [turns, List.foldl_cons, turn, next]
          -- What follows keeps to the cap, whatever the interval was.
          exact ih (Growth.after_le_cap h current)
      | startOver =>
          rw [turns, List.foldl_cons, turn, reset]
          -- Starting over leads back to the first interval.
          exact ih hinitial

/-- Once at the cap, a generator stays there as long as it is only asked. -/
theorem turns_cap (h : growth.after growth.cap = growth.cap) (moments : List Moment) :
    (Generator.exponential growth growth.cap).turns (moments.map .ask) =
      .exponential growth growth.cap := by
  induction moments with
  | nil => rfl
  | cons now moments ih =>
      rw [List.map_cons, turns, List.foldl_cons, turn, next, h]
      exact ih

/-- After no turns, or after starting over, the next interval is the first one. -/
theorem turns_initial (h : growth.multiplier = .finite false n)
    (hinitial : growth.initial.nanos ≤ growth.cap.nanos) {done : List Turn}
    (hdone : done = [] ∨ done.getLast? = some .startOver) :
    (Generator.exponential growth growth.initial).turns done =
      .exponential growth growth.initial := by
  rcases hdone with rfl | hlast
  · rfl
  · rcases List.getLast?_eq_some_iff.mp hlast with ⟨before, rfl⟩
    rcases turns_exponential h hinitial before hinitial with ⟨interval, hbefore, -⟩
    rw [turns_append, hbefore]
    rfl

/-- Whatever first interval, factor and cap were asked for, and whatever was done
    with the generator before, it has a next interval. This is at most the cap, or
    the first interval if that is longer; it is the first interval if nothing was
    done or the generator has just been started over; and if it is as long as it
    may be, it is followed by the same one until the next start. What follows it
    is settled by a comparison with the cap, or else it is made of a number of
    seconds that is finite, not negative and less than `2 ^ 64`. -/
theorem growth_bounded (initial : Span) (multiplier : Binary64) (cap : Span) (started : Moment)
    (done : List Turn) (now : Moment) :
    let growth := Growth.of initial multiplier cap
    let g := (Policy.exponential growth).start started
    ∃ interval, ((g.turns done).next now).1 = some interval ∧
      interval.nanos ≤ max initial.nanos cap.nanos ∧
      (done = [] ∨ done.getLast? = some .startOver → interval = initial) ∧
      (interval.nanos = max initial.nanos cap.nanos → ∀ (moments : List Moment) (later : Moment),
        ((g.turns (done ++ .ask now :: moments.map .ask)).next later).1 = some interval) ∧
      (growth.cap.toSeconds.le (growth.grown interval) = true ∨
        ∃ units, growth.grown interval = .finite false units ∧
          units < Nat.pow 2 64 * unitsPerOne ∧
          Span.ofSeconds? (growth.grown interval) = some (growth.after interval)) := by
  intro growth g
  rcases Growth.of_multiplier initial multiplier cap with ⟨n, hfactor, hn⟩
  have hmax : growth.cap.nanos = max initial.nanos cap.nanos :=
    Growth.nanos_of_cap initial multiplier cap
  have hinitial : growth.initial.nanos ≤ growth.cap.nanos := by
    rw [hmax]
    exact Nat.le_max_left _ _
  rcases turns_exponential hfactor hinitial done hinitial with ⟨interval, hturns, hle⟩
  have hturns : g.turns done = .exponential growth interval := hturns
  refine ⟨interval, by rw [hturns]; rfl, by rwa [← hmax], fun hdone => ?_, fun hreached => ?_, ?_⟩
  · have hstart : g.turns done = .exponential growth growth.initial :=
      turns_initial hfactor hinitial hdone
    rw [hturns] at hstart
    exact (Generator.exponential.inj hstart).2
  · intro moments later
    -- As long as it may be means as long as the cap.
    have hcap : interval = growth.cap := Span.eq_of_nanos (hreached.trans hmax.symm)
    have hafter := Growth.after_cap hfactor hn
    rw [turns_append, hturns, hcap, turns, List.foldl_cons, turn, next, hafter]
    change (((Generator.exponential growth growth.cap).turns (moments.map .ask)).next later).1 = _
    rw [turns_cap hafter, next]
  · rcases Growth.after_cases hfactor interval with ⟨hreached, -⟩ | ⟨units, hgrown, hlt, hread, -⟩
    · exact .inl hreached
    · exact .inr ⟨units, hgrown, hlt, hread⟩

end Generator

end EventFlow
