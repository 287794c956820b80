import EventFlow.Backoff

/-!
# Answers of a Generator

What a generator says when it is asked over and over again.

A loop asks its generator after every failed attempt, at the moment at which
the attempt failed, and so what it is told depends on those moments and on
nothing else. `after` is the generator that a list of moments leaves behind,
and the next answer is that of this generator.

How many retries a policy allows cannot be read off a single number: limits on
retries and on time may be nested in any order, and generators of the caller's
own may do as they like. `Gives` says it by what is observed. Asked so many
times, at any moments that are not after `finish`, the generator never says
stop, and each interval fits the moment at which it is given. The lemmas on
the single policies show which of them give what.

## Main definitions

* `Generator.after`: The generator after some questions.
* `Generator.Gives`: So many intervals in a row, however late they are asked for.
* `Generator.Allows`: The same, each ending at a moment that the clock shows.

## Theorems

* `exists_of_gives`: What a generator answers to one of these questions.
* `gives_constant`, `gives_zero`, `gives_exponential`: Policies without a limit.
* `gives_maxRetries`, `gives_maxElapsed`, `gives_scripted`: Policies with one.
* `after_maxRetries`: Where a limit on retries stands.
-/

namespace EventFlow

namespace Generator

variable {g : Generator} {fits : Moment → Span → Prop} {finish : Moment}

/-- The generator after it was asked at these moments. -/
def after (g : Generator) (moments : List Moment) : Generator :=
  moments.foldl (fun g now => (g.next now).2) g

@[simp] theorem after_nil (g : Generator) : g.after [] = g := rfl

@[simp] theorem after_cons (g : Generator) (now : Moment) (moments : List Moment) :
    g.after (now :: moments) = (g.next now).2.after moments := rfl

/-- A generator that no question changes is the same after all of them. -/
theorem after_of_next (h : ∀ now, (g.next now).2 = g) (moments : List Moment) :
    g.after moments = g := by
  induction moments with
  | nil => rfl
  | cons now moments ih => rw [after_cons, h, ih]

/-- Asked so many times, at whatever moments up to `finish`, the generator
    gives an interval that fits the moment. -/
def Gives (fits : Moment → Span → Prop) (finish : Moment) : Nat → Generator → Prop
  | 0, _ => True
  | n + 1, g => ∀ now ≤ finish, ∃ interval, (g.next now).1 = some interval ∧
      fits now interval ∧ Gives fits finish n (g.next now).2

/-- So many retries may be made up to `finish`: there is an interval to wait
    before each, and the clock can show when it is over. -/
def Allows (finish : Moment) (retries : Nat) (g : Generator) : Prop :=
  Gives (fun now interval => (Moment.add? now interval).isSome = true) finish retries g

/-- One of so many questions is answered by an interval that fits. -/
theorem exists_of_gives {n : Nat} (h : g.Gives fits finish n) {moments : List Moment}
    (early : ∀ now ∈ moments, now ≤ finish) (few : moments.length < n) {now : Moment}
    (hnow : now ≤ finish) :
    ∃ interval, ((g.after moments).next now).1 = some interval ∧ fits now interval := by
  induction moments generalizing g n with
  | nil =>
      -- The first question takes one of those that are promised.
      cases n with
      | zero => exact absurd few (Nat.not_lt_zero _)
      | succ n =>
          rcases h now hnow with ⟨interval, hnext, hfits, -⟩
          exact ⟨interval, hnext, hfits⟩
  | cons first moments ih =>
      cases n with
      | zero => exact absurd few (Nat.not_lt_zero _)
      | succ n =>
          rcases h first (early first (.head _)) with ⟨-, -, -, hrest⟩
          exact ih hrest (fun now hmem => early now (.tail _ hmem)) (Nat.lt_of_succ_lt_succ few)

/-! ## Policies without a limit -/

/-- One interval, if it fits all moments, is given without end. -/
theorem gives_constant {interval : Span} (h : ∀ now ≤ finish, fits now interval) (n : Nat) :
    (Generator.constant interval).Gives fits finish n := by
  induction n with
  | zero => trivial
  | succ n ih => exact fun now hnow => ⟨interval, rfl, h now hnow, ih⟩

/-- So is no wait at all. -/
theorem gives_zero (h : ∀ now ≤ finish, fits now .zero) (n : Nat) :
    Generator.zero.Gives fits finish n := by
  induction n with
  | zero => trivial
  | succ n ih => exact fun now hnow => ⟨.zero, rfl, h now hnow, ih⟩

/-- What never waits has nothing to keep count of. -/
theorem after_zero (moments : List Moment) : Generator.zero.after moments = .zero :=
  after_of_next (fun _ => rfl) moments

/-- Growing intervals never come to an end. -/
theorem gives_exponential (growth : Growth) (n : Nat) (current : Span) :
    (Generator.exponential growth current).Gives (fun _ _ => True) finish n := by
  induction n generalizing current with
  | zero => trivial
  | succ n ih => exact fun now _ => ⟨current, rfl, trivial, ih (growth.after current)⟩

/-! ## Policies with a limit -/

/-- A limit on retries leaves as many as are not used up. -/
theorem gives_maxRetries {n limit : Nat} (h : g.Gives fits finish n) {used : Nat}
    (le : used + n ≤ limit) : (Generator.maxRetries g limit used).Gives fits finish n := by
  induction n generalizing g used with
  | zero => trivial
  | succ n ih =>
      intro now hnow
      rcases h now hnow with ⟨interval, hnext, hfits, hrest⟩
      -- Something is left, so the question is passed on.
      have hused : ¬ limit ≤ used := by omega
      rw [next, if_neg hused]
      exact ⟨interval, hnext, hfits, ih hrest (by omega)⟩

/-- A limit on time leaves all that is asked for before it. Up to `finish` it has
    not run out, so it passes every question on. -/
theorem gives_maxElapsed {n : Nat} {limit : Span} {started : Moment}
    (h : g.Gives fits finish n) (lt : finish - started < limit.nanos) :
    (Generator.maxElapsed g limit started).Gives fits finish n := by
  induction n generalizing g with
  | zero => trivial
  | succ n ih =>
      intro now hnow
      rcases h now hnow with ⟨interval, hnext, hfits, hrest⟩
      -- What has passed by then is no more than at the end.
      have hlimit : ¬ limit.nanos ≤ now - started :=
        Nat.not_le.mpr (Nat.lt_of_le_of_lt (Nat.sub_le_sub_right hnow started) lt)
      rw [next, if_neg hlimit]
      exact ⟨interval, hnext, hfits, ih hrest⟩

/-- A generator of the caller's own gives the intervals that it answers first. -/
theorem gives_scripted {intervals : List Span} (rest : List (Option Span))
    (h : ∀ now ≤ finish, ∀ interval ∈ intervals, fits now interval) :
    (Generator.scripted (intervals.map some ++ rest)).Gives fits finish intervals.length := by
  induction intervals with
  | nil => trivial
  | cons interval intervals ih =>
      intro now hnow
      exact ⟨interval, rfl, h now hnow interval (.head _),
        ih fun now hnow other hmem => h now hnow other (.tail _ hmem)⟩

/-- As long as retries are left, each question uses up one, whatever the
    generator inside answers. -/
theorem after_maxRetries {limit used : Nat} {moments : List Moment}
    (le : used + moments.length ≤ limit) :
    (Generator.maxRetries g limit used).after moments =
      .maxRetries (g.after moments) limit (used + moments.length) := by
  induction moments generalizing g used with
  | nil => rfl
  | cons now moments ih =>
      rw [List.length_cons] at le
      -- The one inside is asked, and one retry is used up, even if it says stop.
      have hnext : ((Generator.maxRetries g limit used).next now).2 =
          .maxRetries (g.next now).2 limit (used + 1) := by
        rw [next, if_neg (by omega)]
      rw [after_cons, hnext, ih (by omega), after_cons, List.length_cons, Nat.add_assoc,
        Nat.add_comm 1]

end Generator

end EventFlow
