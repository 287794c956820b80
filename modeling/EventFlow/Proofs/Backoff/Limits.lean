import EventFlow.Proofs.Backoff.Answers
import Mathlib.Data.List.MinMax
import Mathlib.Logic.Function.Iterate

/-!
# Limits in Any Order

What a policy with limits answers, however these are nested.

Every limit keeps a count or a starting time of its own, and they do not see
the same questions: a limit that has been reached does not pass a question on,
so those inside it fall behind, while a stop from inside still uses up a retry
outside. The generators of two nestings of the same limits are therefore
different ones. Their answers are not, and the reason is that a limit which
was reached stays reached. Where an outer limit swallows a question, it
swallows all that follow, and nobody learns any more what is inside
(`answer_maxRetries`, `answer_maxElapsed`). So as long as a limit is asked at
all it has seen every question, and what it adds to the answer is a condition
on the number of the question, or on the time that has passed.

By induction on the nesting, the answer to a question is that of the policy
inside all limits if every limit allows it, and none otherwise. No order is
left in this, and of several limits of one kind only the least one matters.

A policy may be made into any number of generators, and these may be asked in
turns. `Use` is one thing that is done with a policy, and `generators` is what
a list of uses leads to: every generator is the one that its own questions
lead to.

## Main definitions

* `Policy.base`, `Policy.retryLimits`, `Policy.timeLimits`: A policy taken apart.
* `Policy.Within`: All limits allow a question.
* `Policy.IsBasic`, `Policy.kth`: What is inside the limits, and what it answers.
* `Generator.answer`: The answer to a question that comes after others.
* `Use`, `Policy.generators`: Several generators of one policy.

## Theorems

* `answer_maxRetries`, `answer_maxElapsed`: What one limit makes of an answer.
* `answer_start`: What all limits together make of it.
* `answer_basic`: What is answered inside the limits.
* `within_iff_min`: Only the least limits matter.
* `generators_eq`: No generator depends on the questions to another.
* `answers_within_limits`: The answers of limited policies.
-/

namespace EventFlow

namespace Generator

/-- The answer at a moment, after questions at the moments before. -/
def answer (g : Generator) (earlier : List Moment) (now : Moment) : Option Span :=
  ((g.after earlier).next now).1

/-- A limit on retries that is not reached gives the answer from inside. Once it is
    reached it does not pass questions on, but then the answer is none whatever is
    inside. -/
theorem answer_maxRetries (g : Generator) (limit used : Nat) (earlier : List Moment)
    (now : Moment) :
    (Generator.maxRetries g limit used).answer earlier now =
      if used + earlier.length < limit then g.answer earlier now else none := by
  induction earlier generalizing g used with
  | nil =>
      change ((Generator.maxRetries g limit used).next now).1 = _
      rw [next, List.length_nil]
      by_cases hreached : limit ≤ used
      · rw [if_pos hreached, if_neg (Nat.not_lt.mpr hreached : ¬ used + 0 < limit)]
      · rw [if_neg hreached, if_pos (Nat.not_le.mp hreached : used + 0 < limit)]
        rfl
  | cons first earlier ih =>
      change (((Generator.maxRetries g limit used).next first).2).answer earlier now = _
      rw [next]
      by_cases hreached : limit ≤ used
      · -- The question is not passed on, and neither are the others.
        rw [if_pos hreached, ih, if_neg (by omega), if_neg (by omega)]
      · rw [if_neg hreached]
        simp only
        rw [ih, List.length_cons, Nat.add_assoc, Nat.add_comm 1]
        rfl

/-- A limit on time that is not reached gives the answer from inside. -/
theorem answer_maxElapsed (g : Generator) (limit : Span) (started : Moment)
    {earlier : List Moment} {now : Moment} (ordered : ∀ moment ∈ earlier, moment ≤ now) :
    (Generator.maxElapsed g limit started).answer earlier now =
      if now - started < limit.nanos then g.answer earlier now else none := by
  induction earlier generalizing g with
  | nil =>
      change ((Generator.maxElapsed g limit started).next now).1 = _
      rw [next]
      by_cases hreached : limit.nanos ≤ now - started
      · rw [if_pos hreached, if_neg (Nat.not_lt.mpr hreached)]
      · rw [if_neg hreached, if_pos (Nat.not_le.mp hreached)]
        rfl
  | cons first earlier ih =>
      have hfirst : first ≤ now := ordered first (.head _)
      have ih := fun g => ih g fun moment hmem => ordered moment (.tail _ hmem)
      change (((Generator.maxElapsed g limit started).next first).2).answer earlier now = _
      rw [next]
      by_cases hreached : limit.nanos ≤ first - started
      · -- What had been reached at the first question has been reached now.
        have hnow : ¬ now - started < limit.nanos :=
          Nat.not_lt.mpr (Nat.le_trans hreached (Nat.sub_le_sub_right hfirst started))
        rw [if_pos hreached, ih, if_neg hnow, if_neg hnow]
      · rw [if_neg hreached]
        exact ih _

end Generator

namespace Policy

variable {p q : Policy} {k k' elapsed elapsed' : Nat}

/-! ## A policy taken apart -/

/-- The policy inside all limits. -/
def base : Policy → Policy
  | .maxRetries inner _ => inner.base
  | .maxElapsed inner _ => inner.base
  | policy => policy

/-- The limits on retries, the outermost first. -/
def retryLimits : Policy → List Nat
  | .maxRetries inner limit => limit :: inner.retryLimits
  | .maxElapsed inner _ => inner.retryLimits
  | _ => []

/-- The limits on time, the outermost first. -/
def timeLimits : Policy → List Span
  | .maxRetries inner _ => inner.timeLimits
  | .maxElapsed inner limit => limit :: inner.timeLimits
  | _ => []

/-- All limits allow the question with the number `k`, counted from one, when so
    many nanoseconds have passed since the generator was made. -/
def Within (p : Policy) (k elapsed : Nat) : Prop :=
  (∀ limit ∈ p.retryLimits, k ≤ limit) ∧ ∀ limit ∈ p.timeLimits, elapsed < limit.nanos

instance (p : Policy) (k elapsed : Nat) : Decidable (p.Within k elapsed) :=
  inferInstanceAs (Decidable (_ ∧ _))

/-- A limit on retries adds one condition on the number of the question. -/
theorem within_maxRetries (limit : Nat) :
    (Policy.maxRetries p limit).Within k elapsed ↔ k ≤ limit ∧ p.Within k elapsed := by
  unfold Within
  rw [retryLimits, timeLimits, List.forall_mem_cons, and_assoc]

/-- A limit on time adds one on the time that has passed. -/
theorem within_maxElapsed (limit : Span) :
    (Policy.maxElapsed p limit).Within k elapsed ↔
      elapsed < limit.nanos ∧ p.Within k elapsed := by
  unfold Within
  rw [retryLimits, timeLimits, List.forall_mem_cons, and_left_comm]

/-- What is not allowed is not allowed later on. -/
theorem Within.mono (h : p.Within k' elapsed') (hk : k ≤ k') (helapsed : elapsed ≤ elapsed') :
    p.Within k elapsed :=
  ⟨fun limit hmem => Nat.le_trans hk (h.1 limit hmem),
    fun limit hmem => Nat.lt_of_le_of_lt helapsed (h.2 limit hmem)⟩

/-- What holds of larger limits, too, holds of all limits if it holds of the least. -/
theorem forall_mem_iff_min? (fits : Nat → Prop) (mono : ∀ m n, m ≤ n → fits m → fits n)
    (limits : List Nat) : (∀ limit ∈ limits, fits limit) ↔
      ∀ least, limits.min? = some least → fits least := by
  constructor
  · intro h least hleast
    exact h least (List.min?_mem hleast)
  · intro h limit hmem
    rcases Option.isSome_iff_exists.mp (List.isSome_min?_of_mem hmem) with ⟨least, hleast⟩
    exact mono least limit ((List.min?_eq_some_iff.mp hleast).2 limit hmem) (h least hleast)

/-- Only the least limits matter, those on retries and those on time by themselves. -/
theorem within_iff_min : p.Within k elapsed ↔
    (∀ least, p.retryLimits.min? = some least → k ≤ least) ∧
      ∀ least, (p.timeLimits.map Span.nanos).min? = some least → elapsed < least := by
  unfold Within
  rw [forall_mem_iff_min? (fun n => k ≤ n) fun _ _ hle h => Nat.le_trans h hle,
    ← forall_mem_iff_min? (fun n => elapsed < n)
      fun _ _ hle h => Nat.lt_of_lt_of_le h hle, List.forall_mem_map]

/-! ## Answers -/

/-- What all limits make of an answer from inside them. The induction is on the
    nesting, and each limit adds its condition to those of the others. -/
theorem answer_start (p : Policy) (started : Moment) {earlier : List Moment} {now : Moment}
    (ordered : ∀ moment ∈ earlier, moment ≤ now) :
    (p.start started).answer earlier now =
      if p.Within (earlier.length + 1) (now - started) then
        (p.base.start started).answer earlier now
      else none := by
  induction p with
  | maxRetries inner limit ih =>
      rw [start, Generator.answer_maxRetries, ih, Nat.zero_add, base]
      simp only [within_maxRetries, Nat.add_one_le_iff, ite_and]
  | maxElapsed inner limit ih =>
      rw [start, Generator.answer_maxElapsed _ _ _ ordered, ih, base]
      simp only [within_maxElapsed, ite_and]
  | exponential | constant | zero | stop | scripted =>
      exact (if_pos ⟨List.forall_mem_nil _, List.forall_mem_nil _⟩).symm

/-- Growing intervals, one interval, no waiting or no second attempt. -/
def IsBasic : Policy → Prop
  | .exponential _ | .constant _ | .zero | .stop => True
  | _ => False

/-- The answer of such a policy to the question with the number `k`. -/
def kth (k : Nat) : Policy → Option Span
  | .exponential growth => some (growth.after^[k - 1] growth.initial)
  | .constant interval => some interval
  | .zero => some .zero
  | _ => none

/-- A growing interval has grown as often as it was asked for. -/
theorem after_exponential (growth : Growth) (current : Span) (earlier : List Moment) :
    (Generator.exponential growth current).after earlier =
      .exponential growth (growth.after^[earlier.length] current) := by
  induction earlier generalizing current with
  | nil => rfl
  | cons first earlier ih =>
      rw [Generator.after_cons, Generator.next, ih, List.length_cons, Function.iterate_succ_apply]

/-- What is answered inside the limits depends on the number of the question
    only. -/
theorem answer_basic (h : p.IsBasic) (started : Moment) (earlier : List Moment) (now : Moment) :
    (p.start started).answer earlier now = p.kth (earlier.length + 1) := by
  cases p with
  | exponential growth =>
      rw [start, Generator.answer, after_exponential, Generator.next, kth, Nat.add_sub_cancel]
  | constant interval | zero | stop =>
      rw [start, Generator.answer, Generator.after_of_next fun _ => rfl]
      rfl
  | maxRetries | maxElapsed | scripted => exact absurd h id

/-- Whether a policy stops does not depend on the number of the question. Of the
    basic ones, only the one without a second attempt does. -/
theorem kth_eq_none (h : p.kth k = none) (k' : Nat) : p.kth k' = none := by
  cases p with
  | exponential | constant | zero => exact absurd h nofun
  | stop | maxRetries | maxElapsed | scripted => rfl

/-- So the answer is told by the number of the question and the time that has
    passed. -/
theorem answer_eq_kth (h : p.base.IsBasic) (started : Moment) {earlier : List Moment}
    {now : Moment} (ordered : ∀ moment ∈ earlier, moment ≤ now) :
    (p.start started).answer earlier now =
      if p.Within (earlier.length + 1) (now - started) then p.base.kth (earlier.length + 1)
      else none := by
  rw [answer_start p started ordered, answer_basic h]

/-! ## Several generators -/

/-- What is done with a policy. -/
inductive Use where
  /-- A generator is made of it. -/
  | make
  /-- The generator that was made as the one with this number is asked. -/
  | ask (number : Nat)
  deriving DecidableEq, Repr

/-- The generators after some uses, of which the latest comes first. -/
def generators (p : Policy) : List (Moment × Use) → List Generator
  | [] => []
  | (now, .make) :: uses => p.generators uses ++ [p.start now]
  | (now, .ask number) :: uses => (p.generators uses).modify number fun g => (g.next now).2

/-- When the generators were made. -/
def made : List (Moment × Use) → List Moment
  | [] => []
  | (now, .make) :: uses => made uses ++ [now]
  | (_, .ask _) :: uses => made uses

/-- When one of them was asked. -/
def asked (number : Nat) : List (Moment × Use) → List Moment
  | [] => []
  | (_, .make) :: uses => asked number uses
  | (now, .ask other) :: uses =>
    if other = number then asked number uses ++ [now] else asked number uses

/-- Time does not run backwards, and only what was made is asked. -/
def Orderly : List (Moment × Use) → Prop
  | [] => True
  | (now, use) :: uses =>
    (∀ earlier ∈ uses, earlier.1 ≤ now) ∧
      (∀ number, use = .ask number → number < (made uses).length) ∧ Orderly uses

/-- A generator was asked at a moment if that is among its uses. -/
theorem mem_of_mem_asked {number : Nat} {uses : List (Moment × Use)} {moment : Moment}
    (h : moment ∈ asked number uses) : (moment, Use.ask number) ∈ uses := by
  induction uses with
  | nil => exact absurd h List.not_mem_nil
  | cons use uses ih =>
      rcases use with ⟨now, _ | other⟩
      · exact .tail _ (ih h)
      · rw [asked] at h
        -- A question to another generator is none to this one.
        by_cases heq : other = number
        · rw [if_pos heq, List.mem_append, List.mem_singleton] at h
          rcases h with hmem | rfl
          · exact .tail _ (ih hmem)
          · exact heq ▸ .head _
        · rw [if_neg heq] at h
          exact .tail _ (ih h)

/-- Nobody was asked who was not made. -/
theorem asked_eq_nil {number : Nat} {uses : List (Moment × Use)} (h : Orderly uses)
    (hnew : (made uses).length ≤ number) : asked number uses = [] := by
  induction uses with
  | nil => rfl
  | cons use uses ih =>
      rcases use with ⟨now, _ | other⟩
      · rw [made, List.length_append, List.length_singleton] at hnew
        exact ih h.2.2 (by omega)
      · have hne : other ≠ number := by
          rintro rfl
          exact absurd (h.2.1 other rfl) (Nat.not_lt.mpr hnew)
        rw [asked, if_neg hne]
        exact ih h.2.2 hnew

/-- There are as many generators as were made. -/
theorem length_generators (p : Policy) (uses : List (Moment × Use)) :
    (p.generators uses).length = (made uses).length := by
  induction uses with
  | nil => rfl
  | cons use uses ih =>
      rcases use with ⟨now, _ | other⟩
      · rw [generators, made, List.length_append, List.length_append, ih]
        rfl
      · rw [generators, made, List.length_modify, ih]

/-- Each generator is the one that the questions to itself lead to. The induction is
    on the uses, the latest first. -/
theorem generators_eq (p : Policy) {uses : List (Moment × Use)} (h : Orderly uses)
    (number : Nat) : (p.generators uses)[number]? =
      (made uses)[number]?.map fun started => (p.start started).after (asked number uses) := by
  induction uses with
  | nil => rfl
  | cons use uses ih =>
      have ih := ih h.2.2
      rcases use with ⟨now, _ | other⟩
      · rw [generators, made, asked]
        rcases Nat.lt_trichotomy number (made uses).length with hlt | rfl | hgt
        · rw [List.getElem?_append_left hlt,
            List.getElem?_append_left (by rwa [length_generators]), ih]
        · -- The new generator has not been asked yet.
          rw [List.getElem?_concat_length, asked_eq_nil h.2.2 (Nat.le_refl _),
            ← length_generators p, List.getElem?_concat_length]
          rfl
        · -- Further on there is none yet, neither a moment nor a generator.
          have hnone : ∀ {α : Type} {list : List α} (a : α),
              list.length = (made uses).length → (list ++ [a])[number]? = none := by
            intro α list a hlength
            refine List.getElem?_eq_none ?_
            rw [List.length_append, hlength, List.length_singleton]
            exact hgt
          rw [hnone _ rfl, hnone _ (length_generators p uses)]
          rfl
      · rw [generators, made, asked, List.getElem?_modify, ih]
        -- A question changes the generator that it is put to, and no other.
        by_cases heq : other = number
        · simp only [heq, if_true, Generator.after, List.foldl_append]
          cases (made uses)[number]? <;> rfl
        · simp only [heq, if_false]
          cases (made uses)[number]? <;> rfl

/-! ## What limited policies answer -/

/-- Limits in four layers, of which the two in the middle are the least. -/
def layered : Policy :=
  .maxRetries (.maxElapsed (.maxRetries (.maxElapsed (.constant (.ofNanos 7)) (.ofNanos 100)) 2)
    (.ofNanos 50)) 9

/-- The same limits in another order, less those that make no difference. -/
def levelled : Policy :=
  .maxElapsed (.maxRetries (.constant (.ofNanos 7)) 2) (.ofNanos 50)

/-- Of a policy that is one of the basic ones inside any limits, every generator
    answers each question as that one does, if the number of the question and
    the time that has passed are within all limits, and otherwise by a stop,
    whatever other generators are made and asked meanwhile. Policies that differ
    in nothing but the order of their limits, or in limits that are not the
    least, answer alike. And after a stop there is nothing but stops. A retry
    section describes a policy of this kind. -/
theorem answers_within_limits (p : Policy) (basic : p.base.IsBasic) :
    (∀ started earlier now,
      (p.base.start started).answer earlier now = p.base.kth (earlier.length + 1)) ∧
    (∀ uses number now, Orderly ((now, .ask number) :: uses) → ∃ started g,
      (made uses)[number]? = some started ∧ (p.generators uses)[number]? = some g ∧
      (g.next now).1 =
        if p.Within ((asked number uses).length + 1) (now - started) then
          p.base.kth ((asked number uses).length + 1)
        else none) ∧
    (∀ q : Policy, q.base = p.base → q.retryLimits.min? = p.retryLimits.min? →
      (q.timeLimits.map Span.nanos).min? = (p.timeLimits.map Span.nanos).min? →
      ∀ started earlier now, (∀ moment ∈ earlier, moment ≤ now) →
        (q.start started).answer earlier now = (p.start started).answer earlier now) ∧
    (∀ started earlier now between later, (∀ moment ∈ earlier, moment ≤ now) →
      (∀ moment ∈ earlier ++ now :: between, moment ≤ later) →
      (p.start started).answer earlier now = none →
      (p.start started).answer (earlier ++ now :: between) later = none) ∧
    ∀ settings : RetrySettings, settings.policy.base.IsBasic ∧
      settings.policy.base = .exponential (.of (.ofMillis settings.initialMillis)
        settings.multiplier (.ofMillis settings.capMillis)) ∧
      settings.policy.retryLimits = settings.maxRetries.toList.map UInt32.toNat ∧
      settings.policy.timeLimits = settings.maxElapsedSecs.toList.map Span.ofSecs := by
  refine ⟨fun started earlier now => answer_basic basic started earlier now, ?_, ?_, ?_, ?_⟩
  · intro uses number now horderly
    have hmade : number < (made uses).length := horderly.2.1 number rfl
    refine ⟨(made uses)[number], (p.start (made uses)[number]).after (asked number uses),
      List.getElem?_eq_getElem hmade, ?_, ?_⟩
    · rw [generators_eq p horderly.2.2, List.getElem?_eq_getElem hmade]
      rfl
    · refine answer_eq_kth basic _ fun moment hmem => ?_
      exact horderly.1 _ (mem_of_mem_asked hmem)
  · intro q hbase hretries htime started earlier now ordered
    -- The least limits are the same, so the same questions are allowed.
    have hwithin : q.Within (earlier.length + 1) (now - started) ↔
        p.Within (earlier.length + 1) (now - started) := by
      rw [within_iff_min, within_iff_min, hretries, htime]
    rw [answer_start q started ordered, answer_start p started ordered, hbase]
    simp only [hwithin]
  · intro started earlier now between later ordered ordered' hstop
    rw [answer_eq_kth basic started ordered] at hstop
    rw [answer_eq_kth basic started ordered']
    split
    · -- What is allowed later on was allowed before, so it was the policy inside that stopped.
      rename_i hlater
      have hlength : earlier.length + 1 ≤ (earlier ++ now :: between).length + 1 := by
        rw [List.length_append]
        omega
      have hnow : now ≤ later :=
        ordered' now (List.mem_append_right _ (.head _))
      rw [if_pos (hlater.mono hlength (Nat.sub_le_sub_right hnow started))] at hstop
      exact kth_eq_none hstop _
    · rfl
  · intro settings
    unfold RetrySettings.policy
    cases settings.maxRetries <;> cases settings.maxElapsedSecs <;>
      exact ⟨trivial, rfl, rfl, rfl⟩

/-- Such policies answer alike, and stop when a limit is reached. -/
theorem answers_within_limits_layered :
    layered.base.IsBasic ∧
    -- The third question is one too many, and so is the second when it comes too late.
    (∀ earlier : List Moment, (∀ moment ∈ earlier, moment ≤ 30) →
      (layered.start 10).answer earlier 30 = (levelled.start 10).answer earlier 30) ∧
    (layered.start 10).answer [20] 30 = some (.ofNanos 7) ∧
    (layered.start 10).answer [20, 30] 30 = none ∧ (layered.start 10).answer [20] 60 = none ∧
    (layered.start 10).answer ([20, 30] ++ 30 :: []) 40 = none := by
  have hbasic : layered.base.IsBasic := trivial
  rcases answers_within_limits layered hbasic with ⟨-, -, hsame, hstops, -⟩
  refine ⟨hbasic, fun earlier ordered => ?_, by decide, by decide, by decide,
    hstops 10 [20, 30] 30 [] 40 (by decide) (by decide) (by decide)⟩
  exact (hsame levelled rfl (by decide) (by decide) 10 earlier 30 ordered).symm

end Policy

end EventFlow
