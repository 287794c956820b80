import EventFlow.Proofs.Worker.Attempts

/-!
# Counting Retries

How many attempts a loop makes that has so many retries, and what it has come
to when none of them succeeded.

A limit on retries is a counter inside a generator. As long as it has not been
reached, the counter is the number of the attempts so far, since the generator
was asked after each of them, and so there is never more than one attempt more
than there are retries (`length_le_of_maxRetries`).

The other bound needs more. A loop that is tried again after every error and has
no deadline goes on as long as its generator gives intervals that the clock can
show the end of, unless it is cancelled (`Ran.persists`). `run_retries` puts the
two together for retries that are made at once: such a run either succeeds, or
fails `limit + 1` times, or comes to a halt, and what it is used for only has to
look at single attempts.

## Main definitions

* `Scope.Counts`: All errors are tried again after at once, so many times.
* `World.Halted`: Whatever runs under a scope cannot go on.

## Theorems

* `asked_maxRetries`: The limit counts the attempts.
* `length_le_of_maxRetries`: There are no more attempts than a limit allows.
* `Ran.exists_answer`: What a generator that gives enough answers.
* `Ran.persists`: There are as many attempts as the generator allows.
* `run_retries`: A whole run.
-/

namespace EventFlow

/-- After every error there is another attempt at once, but no more than so many,
    and there is no deadline. Only a success, the limit, a signal or the clock can
    end what runs under such a scope. -/
structure Scope.Counts (scope : Scope) (limit : Nat) : Prop where
  retries_eq : scope.retries = .allErrors
  policy_eq : scope.policy = .maxRetries .zero limit
  deadline_eq : scope.deadline = none

/-- What runs under the scope has to stop, or the clock has come to its end. -/
def World.Halted {σ : Type} (scope : Scope) (w : World σ) : Prop :=
  w.scene.check scope.signal scope.deadline ≠ none ∨ Moment.horizon ≤ w.scene.now

namespace Retry

variable {σ α : Type} {b : Outside σ} {scope : Scope} {limit : Nat}
  {attempt : UInt32 → World σ → Except SessionError α × World σ} {rounds : Nat} {round : Round}
  {w : World σ} {tries : List (Attempt σ)} {last : Attempt σ} {result : Outcome α × World σ}
  {inner : Generator}

/-! ## At most -/

/-- A limit that has not been passed yet counts the attempts so far. -/
theorem asked_maxRetries (hgenerator : round.generator = .maxRetries inner limit 0)
    (few : tries.length ≤ limit) : asked round tries =
      .maxRetries (inner.after (tries.map fun x => x.after.scene.now)) limit tries.length := by
  have hfew : 0 + (tries.map fun x => x.after.scene.now).length ≤ limit := by
    rwa [List.length_map, Nat.zero_add]
  rw [asked, hgenerator, Generator.after_maxRetries hfew, List.length_map, Nat.zero_add]

/-- A limit answers nothing once it has been reached, and otherwise what the
    generator inside of it does. -/
theorem next_maxRetries (now : Moment) (used : Nat) :
    ((Generator.maxRetries inner limit used).next now).1 =
      if limit ≤ used then none else (inner.next now).1 := by
  rw [Generator.next]
  by_cases h : limit ≤ used
  · rw [if_pos h, if_pos h]
  · rw [if_neg h, if_neg h]

/-- After as many retries as there may be, there is no other: a further attempt
    would need an interval, and the generator has said stop instead. -/
theorem length_le_of_maxRetries (h : Ran b scope attempt rounds round w tries result)
    (hgenerator : round.generator = .maxRetries inner limit 0) : tries.length ≤ limit + 1 := by
  -- Suppose there were one more, and look at the interval before it.
  refine Nat.le_of_not_lt fun hmore => ?_
  have htake : (tries.take limit).length = limit :=
    List.length_take_of_le (Nat.le_of_lt (Nat.lt_of_succ_lt hmore))
  have hretried := h.retried limit _ _ (List.getElem?_eq_getElem (Nat.lt_of_succ_lt hmore))
    (List.getElem?_eq_getElem hmore)
  rcases hretried.resumed with ⟨interval, hresumed⟩
  have hanswer := hresumed.answer
  rw [asked_maxRetries hgenerator (Nat.le_of_eq htake), htake, next_maxRetries,
    if_pos (Nat.le_refl limit)] at hanswer
  exact Option.some_ne_none interval hanswer.symm

/-! ## At least -/

/-- After its last attempt, a loop leads to a later scene. -/
theorem Closing.later (h : Closing b scope attempt round last result) :
    last.after.scene.Later result.2.scene := by
  cases h with
  | succeeded => exact .refl _
  | failed e outcome w failure after => exact later_of_aftermath after
  | unfinished e interval w failure retried resumed => exact resumed.later

/-- With another interval to wait, nothing but a cancellation ends a loop that is
    tried again after every error and has no deadline. -/
theorem Closing.persists (h : Closing b scope attempt round last result)
    (retries : scope.retries = .allErrors) (deadline : scope.deadline = none)
    (answer : ∃ interval, (round.generator.next last.after.scene.now).1 = some interval ∧
      (Moment.add? last.after.scene.now interval).isSome = true)
    (calm : result.2.scene.check scope.signal scope.deadline = none)
    (hne : ∀ a, result.1 ≠ .finished (.ok a)) : result.1 = .unfinished := by
  rcases answer with ⟨interval, hanswer, hshown⟩
  -- Without a deadline, no error is close to it.
  have hstanding : ∀ e, standing scope.deadline last.after.scene.now e = .before := by
    rw [deadline]
    exact fun _ => rfl
  cases h with
  | succeeded a => exact absurd rfl (hne a)
  | unfinished => rfl
  | failed e outcome w failure after =>
      rcases outcome_of_aftermath after calm (hstanding e) with
        ⟨refused, -⟩ | ⟨-, ⟨stop, -⟩ | ⟨other, asked, long, -⟩⟩
      · simp only [retries, RetryClass.retries, reduceCtorEq] at refused
      · simp only [hanswer, reduceCtorEq] at stop
      · rw [hanswer, Option.some.injEq] at asked
        subst asked
        simp only [long, Option.isSome_none, Bool.false_eq_true] at hshown

/-- A loop that none of its first `n` attempts ends makes more. It suffices to look
    at the last attempt: if that was an early one, the loop would have gone on. -/
theorem Ran.lt_length (h : Ran b scope attempt rounds round w tries result) (hne : tries ≠ [])
    {n : Nat} (enough : n < rounds)
    (goes : ∀ init last, tries = init ++ [last] → init.length < n → Closing b scope attempt
      (roundAfter round init) last result → result.1 = .unfinished) : n < tries.length := by
  rcases h.closing hne with ⟨init, last, htries, hclosing⟩
  refine Nat.lt_of_not_le fun hfew => ?_
  have hinit : init.length < n := by
    rw [htries, List.length_append] at hfew
    exact hfew
  -- What was left to try only ends with the rounds.
  rw [h.length_of_unfinished (goes init last htries hinit hclosing)] at hfew
  exact absurd enough (Nat.not_lt.mpr hfew)

/-- A generator that gives so many intervals up to the end of a loop gives one after
    each of as many attempts. The generator is asked at the ends of the attempts,
    and none of these is later than the end of the loop. -/
theorem Ran.exists_answer (h : Ran b scope attempt rounds round w tries result)
    (later : ∀ (n : UInt32) (w : World σ), w.scene.Later (attempt n w).2.scene)
    {fits : Moment → Span → Prop} {n : Nat}
    (gives : round.generator.Gives fits result.2.scene.now n) {init : List (Attempt σ)}
    (htries : tries = init ++ [last]) (few : init.length < n) :
    ∃ interval, ((asked round init).next last.after.scene.now).1 = some interval ∧
      fits last.after.scene.now interval := by
  subst htries
  have hnow : ∀ x ∈ init ++ [last], x.after.scene.now ≤ result.2.scene.now :=
    fun x hx => ((h.later later).2 x hx).2.2.now_le
  have hearly : ∀ now ∈ init.map fun x => x.after.scene.now, now ≤ result.2.scene.now := by
    intro now hmem
    rcases List.mem_map.mp hmem with ⟨x, hx, rfl⟩
    exact hnow x (List.mem_append_left _ hx)
  exact Generator.exists_of_gives gives hearly (by rwa [List.length_map])
    (hnow last (List.mem_append_right _ (.head _)))

/-- A loop that is tried again after every error makes more attempts than its
    generator gives intervals, unless one of them succeeds. -/
theorem Ran.persists (h : Ran b scope attempt rounds round w tries result)
    (retries : scope.retries = .allErrors) (deadline : scope.deadline = none) {n : Nat}
    (enough : n < rounds)
    (answers : ∀ init last, tries = init ++ [last] → init.length < n →
      last.after.scene.now ≤ result.2.scene.now → ∃ interval,
      ((asked round init).next last.after.scene.now).1 = some interval ∧
        (Moment.add? last.after.scene.now interval).isSome = true)
    (calm : result.2.scene.check scope.signal scope.deadline = none)
    (hne : ∀ a, result.1 ≠ .finished (.ok a)) : n < tries.length := by
  refine h.lt_length ?_ enough fun init last htries hinit hclosing => hclosing.persists retries
    deadline (answers init last htries hinit hclosing.later.now_le) calm hne
  -- With rounds left and no interruption, a loop makes an attempt.
  rintro rfl
  cases h with
  | unfinished => exact absurd enough (Nat.not_lt_zero n)
  | interrupted interrupt found => exact absurd (calm.symm.trans found) (Option.some_ne_none _).symm

/-! ## Retries at once -/

/-- Waiting for no time at all is no trouble for the clock. -/
theorem isSome_add?_zero {now : Moment} (h : now < Moment.horizon) :
    (Moment.add? now .zero).isSome = true := by
  have hlt : now + Span.zero.nanos < Moment.horizon := h
  rw [Moment.add?, if_pos hlt]
  rfl

/-- A run that counts succeeds, or fails once more often than it may retry, or comes
    to a halt. The fact `P` is carried from failure to failure, so whoever uses this
    has to look at one attempt only. -/
theorem run_retries {P : Nat → World σ → Prop} {S : α → World σ → Prop}
    (counts : scope.Counts limit) {rounds : Nat} (enough : limit < rounds) (w : World σ)
    (idle : ∀ n w w', P n w → Idled b w w' → P n w')
    (failed : ∀ n i w e w', P n w → attempt i w = (.error e, w') → P (n + 1) w')
    (succeeded : ∀ n i w a w', n ≤ limit → P n w → attempt i w = (.ok a, w') → S a w')
    (start : P 0 (w.record (.start scope.operation))) :
    (∃ a, (run b rounds scope attempt w).1 = .finished (.ok a) ∧
      S a (run b rounds scope attempt w).2) ∨
    (∀ a, (run b rounds scope attempt w).1 ≠ .finished (.ok a)) ∧
      (P (limit + 1) (run b rounds scope attempt w).2 ∨
        (run b rounds scope attempt w).2.Halted scope) := by
  have hran := ran_run b rounds scope attempt w
  have hgenerator : (firstRound scope w).generator = .maxRetries .zero limit 0 := by
    rw [firstRound, counts.policy_eq]
    rfl
  have hmost := length_le_of_maxRetries hran hgenerator
  rcases hran.counted idle failed start with
    ⟨a, init, last, hresult, htries, hlast, htry⟩ | ⟨hne, hend⟩
  · rw [htries, List.length_append] at hmost
    rw [hresult]
    exact .inl ⟨a, rfl, succeeded (0 + init.length) _ _ a _
      (by rw [Nat.zero_add]; exact Nat.le_of_succ_le_succ hmost) hlast htry⟩
  · refine .inr ⟨hne, ?_⟩
    by_cases hhalted : (run b rounds scope attempt w).2.Halted scope
    · exact .inr hhalted
    · -- Every attempt was followed by another, up to the limit.
      rw [World.Halted, not_or, ne_eq, Decidable.not_not, Nat.not_le] at hhalted
      have hleast := hran.persists counts.retries_eq counts.deadline_eq enough
        (fun init last htries hinit hlate => ?_) hhalted.1 hne
      · rw [Nat.zero_add, Nat.le_antisymm hmost hleast] at hend
        exact .inl hend
      · rw [asked_maxRetries hgenerator (Nat.le_of_lt hinit), next_maxRetries,
          if_neg (Nat.not_le.mpr hinit), Generator.after_zero]
        exact ⟨.zero, rfl, isSome_add?_zero (Nat.lt_of_le_of_lt hlate hhalted.2)⟩

end Retry

end EventFlow
