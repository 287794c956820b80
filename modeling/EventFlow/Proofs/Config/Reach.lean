import EventFlow.Proofs.Backoff.Growth
import EventFlow.Proofs.Backoff.Limits
import EventFlow.Proofs.Http.Requests
import EventFlow.Proofs.Http.Routes
import EventFlow.Proofs.Worker.Horizon

/-!
# How Far a Configuration Reaches

Which configurations stay within the clock, whichever way their values were
collected.

`Settings.overflows_iff` asks about a generator at all moments at which that may be
asked. Where the intervals do not depend on these there is one way to look at:
attempts that take no time. They leave the most time for the waits, and they come to
each interval with the least of a time limit used up. So it is enough to add up
intervals (`Policy.Overruns`, `Policy.overreaches_iff`).

It is easier yet to put a bound on all spans. `Policy.AtMost` is read off a policy,
and every interval keeps it (`atMost_next`), so none leads from a moment further than
that (`horizon_le_of_overreaches`). As the bound is a parameter, a program that sets
spans itself is asked to keep to one of its choice (`Step.AtMost`), and nothing is
asked of files and variables: what these tell fits 64 bits in nanoseconds or, in a
retry section, in milliseconds, which is less than a five hundredth part of what the
clock can count.

## Main definitions

* `Policy.waited`, `Policy.Overruns`: Intervals that add up to the end of the clock.
* `Policy.AtMost`, `Generator.AtMost`: No interval is longer than the bound.
* `Settings.AtMost`, `Step.AtMost`: No span that was collected, or is given, is.
* `FileConfig.longest`: The longest span that a file can tell.

## Theorems

* `overreaches_iff`: A policy leads beyond the clock if its intervals add up to it.
* `atMost_start`, `atMost_next`: A generator keeps to the bound of its policy.
* `horizon_le_of_overreaches`: What leads beyond the clock is longer than the rest
  of it.
* `ofText?_lt`, `atMost_policy`: Texts and retry sections keep to a bound by
  themselves.
* `atMost_foldlM`: Settings keep to the bound of the steps.
* `overflows_collected`: When a worker can be led beyond the clock.
-/

namespace EventFlow

/-! ## The longest way -/

/-- After one more question. -/
theorem Generator.after_concat (g : Generator) (moments : List Moment) (now : Moment) :
    g.after (moments ++ [now]) = ((g.after moments).next now).2 :=
  List.foldl_append

namespace Policy

variable {p : Policy} {started now latest : Moment} {interval : Span} {k : Nat}

/-- What the first intervals of a policy add up to, so many of them. -/
def waited (p : Policy) : Nat → Nat
  | 0 => 0
  | k + 1 => p.waited k + ((p.base.kth (k + 1)).map Span.nanos).getD 0

/-- After so many intervals the next one leads beyond the clock, if the last moment
    at which a wait may begin is `latest`. No attempt has to take any time for it,
    and the policy still allows this interval, by its limits on retries and on the
    time that has passed. -/
structure Overruns (p : Policy) (latest : Moment) (k : Nat) (interval : Span) : Prop where
  early : p.waited k ≤ latest
  within : p.Within (k + 1) (p.waited k)
  asked : p.base.kth (k + 1) = some interval
  long : Moment.horizon ≤ latest + interval.nanos

/-- A generator asked for the first time, or once more. It gives what the policy has
    in that place, as long as its limits let it, and they see no more than the
    number of questions and the time since the start. -/
theorem next_after_iff (basic : p.base.IsBasic) {earlier : List Moment}
    (ordered : ∀ moment ∈ earlier, moment ≤ now) :
    (((p.start started).after earlier).next now).1 = some interval ↔
      p.Within (earlier.length + 1) (now - started) ∧
        p.base.kth (earlier.length + 1) = some interval := by
  change (p.start started).answer earlier now = _ ↔ _
  rw [answer_eq_kth basic started ordered]
  split
  · rename_i hwithin
    exact (and_iff_right hwithin).symm
  · rename_i hnot
    exact iff_of_false nofun fun h => hnot h.1

/-- One interval more adds its length. -/
theorem waited_succ (h : p.base.kth (k + 1) = some interval) :
    p.waited (k + 1) = p.waited k + interval.nanos := by
  rw [waited, h]
  rfl

/-- More intervals add up to more. -/
theorem waited_mono (p : Policy) {j k : Nat} (h : j ≤ k) : p.waited j ≤ p.waited k :=
  monotone_nat_of_le_succ (fun _ => Nat.le_add_right _ _) h

/-- However late a generator is asked, the intervals before add up to the time that
    has passed at most. -/
theorem exists_overruns {g : Generator} (basic : p.base.IsBasic) (h : g.Overreaches latest now)
    {earlier : List Moment} (hg : g = (p.start started).after earlier)
    (ordered : ∀ moment ∈ earlier, moment ≤ now)
    (passed : started + p.waited earlier.length ≤ now) :
    ∃ k interval, p.Overruns latest k interval := by
  induction h generalizing earlier with
  | @here g now moment interval begun early asked long =>
      subst hg
      have hordered : ∀ m ∈ earlier, m ≤ moment := fun m hm => Nat.le_trans (ordered m hm) begun
      rcases (next_after_iff basic hordered).mp asked with ⟨hwithin, hkth⟩
      -- The waits alone take no more than what has passed, so they come to this interval as
      -- well.
      have helapsed : p.waited earlier.length ≤ moment - started :=
        Nat.le_sub_of_add_le' (Nat.le_trans passed begun)
      exact ⟨earlier.length, interval,
        Nat.le_trans helapsed (Nat.le_trans (Nat.sub_le _ _) early),
        hwithin.mono (Nat.le_refl _) helapsed, hkth,
        Nat.le_trans (Moment.add?_eq_none_iff.mp long) (Nat.add_le_add_right early _)⟩
  | @later g now moment wake interval begun asked ends rest ih =>
      subst hg
      have hordered : ∀ m ∈ earlier, m ≤ moment := fun m hm => Nat.le_trans (ordered m hm) begun
      rcases (next_after_iff basic hordered).mp asked with ⟨-, hkth⟩
      have hwake := Moment.add?_eq_some ends
      have hmoment : moment ≤ wake := hwake ▸ Nat.le_add_right _ _
      -- The wait is over at the moment that it leads to, and was one of those that are added up.
      refine ih (Generator.after_concat ..).symm (fun m hm => ?_) ?_
      · rcases List.mem_append.mp hm with hm | hm
        · exact Nat.le_trans (hordered m hm) hmoment
        · exact List.mem_singleton.mp hm ▸ hmoment
      · rw [List.length_append, List.length_singleton, waited_succ hkth, ← Nat.add_assoc, hwake]
        exact Nat.add_le_add_right (Nat.le_trans passed begun) _

/-- Up to the interval that is too long there is always a next one. -/
theorem exists_next_of_overruns (basic : p.base.IsBasic) (h : p.Overruns latest k interval)
    {earlier : List Moment} (few : earlier.length ≤ k)
    (ordered : ∀ moment ∈ earlier, moment ≤ started + p.waited earlier.length) :
    ∃ next, p.base.kth (earlier.length + 1) = some next ∧
      (((p.start started).after earlier).next (started + p.waited earlier.length)).1 =
        some next := by
  -- A policy of the known kinds that has given up gives nothing later either.
  have hasked : p.base.kth (earlier.length + 1) ≠ none := fun hnone =>
    Option.some_ne_none _ (h.asked.symm.trans (kth_eq_none hnone (k + 1)))
  rcases Option.ne_none_iff_exists'.mp hasked with ⟨next, hnext⟩
  refine ⟨next, hnext, (next_after_iff basic ordered).mpr ⟨?_, hnext⟩⟩
  rw [Nat.add_sub_cancel_left]
  exact h.within.mono (Nat.succ_le_succ few) (waited_mono p few)

/-- A generator that was made early enough is led to the interval that is too long by
    attempts that take no time. -/
theorem overreaches_of_overruns (basic : p.base.IsBasic) (h : p.Overruns latest k interval)
    (hlatest : started + p.waited k = latest) (rest : Nat) {earlier : List Moment}
    (hk : earlier.length + rest = k)
    (ordered : ∀ moment ∈ earlier, moment ≤ started + p.waited earlier.length) :
    ((p.start started).after earlier).Overreaches latest (started + p.waited earlier.length) := by
  induction rest generalizing earlier with
  | zero =>
      obtain rfl : earlier.length = k := hk
      refine .here (Nat.le_refl _) (Nat.le_of_eq hlatest)
        ((next_after_iff basic ordered).mpr ⟨?_, h.asked⟩) ?_
      · rw [Nat.add_sub_cancel_left]
        exact h.within
      · rw [hlatest]
        exact Moment.add?_eq_none_iff.mpr h.long
  | succ rest ih =>
      have hfew : earlier.length ≤ k := hk ▸ Nat.le_add_right _ _
      -- On the way to that interval every moment is one of the waited times.
      have hwaited : p.waited earlier.length ≤ p.waited k := waited_mono p hfew
      rcases exists_next_of_overruns basic h hfew ordered with ⟨next, hnext, hasked⟩
      cases hends : Moment.add? (started + p.waited earlier.length) next with
      -- An interval before it may lead beyond the clock already, which is as good.
      | none =>
          exact .here (Nat.le_refl _) (hlatest ▸ Nat.add_le_add_left hwaited started) hasked hends
      | some wake =>
          refine .later (Nat.le_refl _) hasked hends ?_
          have hlength : (earlier ++ [started + p.waited earlier.length]).length =
              earlier.length + 1 := List.length_append
          have hsum : started + p.waited (earlier.length + 1) = wake := by
            rw [waited_succ hnext, ← Nat.add_assoc, ← Moment.add?_eq_some hends]
          have hrest := @ih (earlier ++ [started + p.waited earlier.length])
          rw [hlength, hsum, Generator.after_concat] at hrest
          refine hrest (by omega) fun m hm => ?_
          have hnow : started + p.waited earlier.length ≤ wake :=
            Moment.add?_eq_some hends ▸ Nat.le_add_right _ _
          rcases List.mem_append.mp hm with hm | hm
          · exact Nat.le_trans (ordered m hm) hnow
          · exact List.mem_singleton.mp hm ▸ hnow

/-- A policy can lead beyond the clock exactly if after some of its intervals, with
    nothing in between, it has one that is too long. -/
theorem overreaches_iff (basic : p.base.IsBasic) :
    (∃ started, (p.start started).Overreaches latest started) ↔
      ∃ k interval, p.Overruns latest k interval := by
  constructor
  · rintro ⟨started, hover⟩
    exact exists_overruns basic hover (Generator.after_nil _).symm nofun (Nat.le_refl _)
  · -- The generator is made as late as the waits allow.
    rintro ⟨k, interval, h⟩
    have hover := @overreaches_of_overruns p (latest - p.waited k) latest interval k basic h
      (Nat.sub_add_cancel h.early) k [] (Nat.zero_add k) nofun
    exact ⟨_, hover⟩

end Policy
/-! ## Bounds -/

/-- No interval of the policy is longer than so many nanoseconds. Of a growing one,
    the first and the cap are looked at, as all others lie between or below. -/
def Policy.AtMost (limit : Nat) : Policy → Prop
  | .exponential growth => ∃ initial multiplier cap, growth = .of initial multiplier cap ∧
      initial.nanos ≤ limit ∧ cap.nanos ≤ limit
  | .constant interval => interval.nanos ≤ limit
  | .zero => True
  | .stop => True
  | .maxRetries inner _ => inner.AtMost limit
  | .maxElapsed inner _ => inner.AtMost limit
  | .scripted answers => ∀ interval, some interval ∈ answers → interval.nanos ≤ limit

/-- No interval that the generator will give is longer than so many nanoseconds. Of
    one that grows, the cap bounds what comes after the next one, provided that its
    factor is a number at all. -/
def Generator.AtMost (limit : Nat) : Generator → Prop
  | .exponential growth current => (∃ n, growth.multiplier = .finite false n) ∧
      growth.cap.nanos ≤ limit ∧ current.nanos ≤ limit
  | .constant interval => interval.nanos ≤ limit
  | .zero => True
  | .stop => True
  | .maxRetries inner _ _ => inner.AtMost limit
  | .maxElapsed inner _ _ => inner.AtMost limit
  | .scripted answers => ∀ interval, some interval ∈ answers → interval.nanos ≤ limit

variable {limit : Nat}

/-- A generator begins with what its policy says. -/
theorem Policy.atMost_start {policy : Policy} (h : policy.AtMost limit) (now : Moment) :
    (policy.start now).AtMost limit := by
  induction policy with
  | exponential growth =>
      rcases h with ⟨initial, multiplier, cap, rfl, hinitial, hcap⟩
      rcases Growth.of_multiplier initial multiplier cap with ⟨n, hfactor, -⟩
      refine ⟨⟨n, hfactor⟩, ?_, hinitial⟩
      -- The cap is never below the first interval.
      rw [Growth.nanos_of_cap]
      exact Nat.max_le.mpr ⟨hinitial, hcap⟩
  | constant | zero | stop | scripted => exact h
  | maxRetries inner limit ih => exact ih h
  | maxElapsed inner limit ih => exact ih h

namespace Generator

variable {g : Generator} {now latest : Moment}

/-- What a generator gives keeps to the bound, and so does what is left of it. -/
theorem atMost_next (h : g.AtMost limit) (now : Moment) :
    (∀ interval, (g.next now).1 = some interval → interval.nanos ≤ limit) ∧
      (g.next now).2.AtMost limit := by
  have hstop : ∀ interval : Span, none = some interval → interval.nanos ≤ limit :=
    fun interval heq => absurd heq.symm (Option.some_ne_none interval)
  induction g with
  | exponential growth current =>
      rcases h with ⟨⟨n, hfactor⟩, hcap, hcurrent⟩
      -- The next one is the current one, and growth ends at the cap.
      exact ⟨fun interval heq => Option.some.inj heq ▸ hcurrent,
        ⟨n, hfactor⟩, hcap, Nat.le_trans (Growth.after_le_cap hfactor current) hcap⟩
  | constant interval => exact ⟨fun other heq => Option.some.inj heq ▸ h, h⟩
  | zero => exact ⟨fun interval heq => Option.some.inj heq ▸ Nat.zero_le _, h⟩
  | stop => exact ⟨hstop, h⟩
  | maxRetries inner retries used ih =>
      rw [next]
      split
      · exact ⟨hstop, h⟩
      · exact ih h
  | maxElapsed inner elapsed started ih =>
      rw [next]
      split
      · exact ⟨hstop, h⟩
      · exact ih h
  | scripted answers =>
      cases answers with
      | nil => exact ⟨hstop, h⟩
      | cons answer answers =>
          exact ⟨fun interval heq => h interval (heq ▸ .head _),
            fun interval hmem => h interval (.tail _ hmem)⟩

/-- From a moment up to `latest` such a generator leads beyond the clock only if
    that is no further away than the bound. -/
theorem horizon_le_of_overreaches (h : g.Overreaches latest now) (short : g.AtMost limit) :
    Moment.horizon ≤ latest + limit := by
  induction h with
  | here begun early asked long =>
      exact Nat.le_trans (Moment.add?_eq_none_iff.mp long)
        (Nat.add_le_add early ((atMost_next short _).1 _ asked))
  | later begun asked ends rest ih => exact ih (atMost_next short _).2

end Generator

/-! ## Routes -/

/-- The longest span that a file can tell, in the milliseconds of a retry section. -/
def FileConfig.longest : Span := .ofMillis 0xFFFF_FFFF_FFFF_FFFF

/-- No text tells a span that does not fit 64 bits in nanoseconds. -/
theorem Span.ofText?_lt {text : String} {span : Span} (h : ofText? text = some span) :
    span.nanos < UInt64.size := by
  unfold ofText? at h
  split at h
  · cases h
  · cases h
    decide
  · rcases Option.bind_eq_some_iff.mp h with ⟨pairs, -, h⟩
    rcases Option.bind_eq_some_iff.mp h with ⟨total, -, h⟩
    unfold ofTotal? at h
    split at h
    · simp only at h
      split at h
      · -- The total is cut to the greatest number of 64 bits.
        cases h
        have hcut : ∀ n, Nat.min n (UInt64.size - 1) < UInt64.size := fun n =>
          Nat.lt_of_le_of_lt (Nat.min_le_right _ _) (by decide)
        rw [ofNanos_of_lt (Nat.lt_of_lt_of_le (hcut _) (by decide))]
        exact hcut _
      · cases h
    · cases h

/-- The longest span has as many milliseconds as fit 64 bits. -/
theorem FileConfig.nanos_le_longest (millis : UInt64) :
    (Span.ofMillis millis).nanos ≤ longest.nanos :=
  Nat.mul_le_mul_right _ (Nat.le_pred_of_lt millis.toNat_lt)

/-- The intervals of a retry section are told in milliseconds. -/
theorem RetrySettings.atMost_policy (settings : RetrySettings) :
    settings.policy.AtMost FileConfig.longest.nanos := by
  have hbase : (Policy.exponential (.of (.ofMillis settings.initialMillis) settings.multiplier
      (.ofMillis settings.capMillis))).AtMost FileConfig.longest.nanos :=
    ⟨_, _, _, rfl, FileConfig.nanos_le_longest _, FileConfig.nanos_le_longest _⟩
  unfold policy
  cases settings.maxRetries <;> cases settings.maxElapsedSecs <;> exact hbase

/-- The policy that holds where none is given keeps to that bound too. -/
theorem Policy.atMost_standard : standard.AtMost FileConfig.longest.nanos := by
  have hinitial : (Span.ofMillis 500).nanos ≤ FileConfig.longest.nanos := by decide
  have hcap : (Span.ofSecs 60).nanos ≤ FileConfig.longest.nanos := by decide
  exact ⟨_, _, _, rfl, hinitial, hcap⟩

/-- A greater bound holds as well. -/
theorem Policy.AtMost.mono {policy : Policy} {limit' : Nat} (h : policy.AtMost limit)
    (hle : limit ≤ limit') : policy.AtMost limit' := by
  induction policy with
  | exponential growth =>
      rcases h with ⟨initial, multiplier, cap, heq, hinitial, hcap⟩
      exact ⟨initial, multiplier, cap, heq, Nat.le_trans hinitial hle, Nat.le_trans hcap hle⟩
  | constant interval => exact Nat.le_trans h hle
  | zero | stop => exact h
  | maxRetries inner limit ih => exact ih h
  | maxElapsed inner limit ih => exact ih h
  | scripted answers => exact fun interval hmem => Nat.le_trans (h interval hmem) hle

namespace Settings

/-- No span that a worker adds to the time is longer than so many nanoseconds. -/
structure AtMost (limit : Nat) (s : Settings) : Prop where
  consumeTimeout : ∀ timeout, s.consumeTimeout = some timeout → timeout.nanos ≤ limit
  backoff : ∀ policy, s.backoff = some policy → policy.AtMost limit

/-- The spans that a program gives itself are no longer than so many nanoseconds. -/
def Step.AtMost (limit : Nat) : Step → Prop
  | .consumeTimeout timeout => timeout.nanos ≤ limit
  | .backoff policy => policy.AtMost limit
  | _ => True

variable {s s' : Settings} {step : Step} {steps : List Step} {layer : Layer}

/-- Settings that were given nothing have no span in them. -/
theorem atMost_empty (limit : Nat) : AtMost limit empty :=
  ⟨nofun, nofun⟩

/-- Settings below a layer keep to the bound if both do. -/
theorem AtMost.under (h : s.AtMost limit)
    (hconsume : ∀ timeout, layer.consumeTimeout = some timeout → timeout.nanos ≤ limit)
    (hbackoff : ∀ policy, layer.backoff = some policy → policy.AtMost limit) :
    (s.under layer).AtMost limit where
  consumeTimeout := fun timeout heq =>
    (Option.or_eq_some_iff.mp heq).elim (hconsume timeout) fun ⟨_, hbelow⟩ =>
      h.consumeTimeout timeout hbelow
  backoff := fun policy heq =>
    (Option.or_eq_some_iff.mp heq).elim (hbackoff policy) fun ⟨_, hbelow⟩ =>
      h.backoff policy hbelow

/-- A text that a layer takes a span from keeps to the bound. -/
theorem nanos_le_of_bind {text : Option String} {timeout : Span}
    (hlimit : FileConfig.longest.nanos ≤ limit) (h : text.bind Span.ofText? = some timeout) :
    timeout.nanos ≤ limit := by
  rcases Option.bind_eq_some_iff.mp h with ⟨text, -, hread⟩
  have hlt := Span.ofText?_lt hread
  -- Milliseconds reach further than nanoseconds.
  have hlongest : UInt64.size ≤ FileConfig.longest.nanos := by decide
  omega

/-- A step that keeps to the bound leaves settings that do. -/
theorem atMost_apply (hlimit : FileConfig.longest.nanos ≤ limit) (h : step.apply s = .ok s')
    (hs : s.AtMost limit) (short : step.AtMost limit) : s'.AtMost limit := by
  cases step with
  | consumeTimeout timeout =>
      cases h
      exact ⟨fun other heq => Option.some.inj heq ▸ short, hs.backoff⟩
  | backoff policy =>
      cases h
      exact ⟨hs.consumeTimeout, fun other heq => Option.some.inj heq ▸ short⟩
  | environment lookup =>
      -- What variables and files tell is bounded by what they can tell.
      rcases applyVariables_eq_under h with ⟨environment, rfl, rfl⟩
      exact hs.under (fun timeout heq => nanos_le_of_bind hlimit heq) nofun
  | file entries =>
      obtain rfl := applyFile_eq_under h
      refine hs.under (fun timeout heq => nanos_le_of_bind hlimit heq) fun policy heq => ?_
      rcases Option.map_eq_some_iff.mp heq with ⟨settings, -, rfl⟩
      exact Policy.AtMost.mono settings.atMost_policy hlimit
  | endpoints | endpoint | flowId | workerId | httpTimeout | maxIntake | userAgent =>
      cases h
      exact ⟨hs.consumeTimeout, hs.backoff⟩

/-- Settings keep to the bound of the steps. The induction is on the steps, with the
    settings they begin with left open. -/
theorem atMost_foldlM (hlimit : FileConfig.longest.nanos ≤ limit)
    (h : steps.foldlM Step.apply s = .ok s') (hs : s.AtMost limit)
    (short : ∀ step ∈ steps, step.AtMost limit) : s'.AtMost limit := by
  induction steps generalizing s with
  | nil =>
      cases h
      exact hs
  | cons step steps ih =>
      rw [List.foldlM_cons] at h
      cases hstep : step.apply s with
      | error e =>
          rw [hstep] at h
          cases h
      | ok s₁ =>
          rw [hstep] at h
          exact ih h (atMost_apply hlimit hstep hs (short step (.head _)))
            fun step hmem => short step (.tail _ hmem)

/-- What passes the check adds nothing longer. -/
theorem AtMost.of_build {config : Config} (h : s.build = .ok config) (hs : s.AtMost limit)
    (hlimit : FileConfig.longest.nanos ≤ limit) :
    (∀ timeout, config.consumeTimeout = some timeout → timeout.nanos ≤ limit) ∧
      config.backoff.AtMost limit := by
  rcases build_eq_ok_iff.mp h with ⟨-, -, -, hconsume, hbackoff, -⟩
  constructor
  · intro timeout heq
    exact hs.consumeTimeout timeout (Option.filter_eq_some_iff.mp (hconsume.trans heq)).1
  · rw [← hbackoff]
    cases hpolicy : s.backoff with
    | none => exact Policy.atMost_standard.mono hlimit
    | some policy => exact hs.backoff policy hpolicy

/-! ## Workers within the clock -/

/-- A worker with what steps collected can be led beyond the clock, while that shows
    no moment after `latest`, exactly if its timeout leads there from `latest`, a
    short one counting as the few milliseconds within which it is near, or if its
    backoff does. For all policies but a caller's own this is the case if the
    intervals themselves add up to it. It is not if all spans keep to a bound that
    still fits, and nothing has to be asked of spans that a file or a variable
    told. -/
theorem overflows_collected {config : Config} (hcollect : collect steps = .ok s)
    (hbuild : s.build = .ok config) (latest : Moment) :
    (config.Overflows latest ↔
      (∃ timeout, config.consumeTimeout = some timeout ∧
        Moment.horizon ≤ latest + max timeout.nanos Retry.slack.nanos) ∨
      ∃ started, (config.backoff.start started).Overreaches latest started) ∧
    (config.backoff.base.IsBasic →
      ((∃ started, (config.backoff.start started).Overreaches latest started) ↔
        ∃ k interval, config.backoff.Overruns latest k interval)) ∧
    ∀ limit, FileConfig.longest.nanos ≤ limit → (∀ step ∈ steps, step.AtMost limit) →
      latest + limit < Moment.horizon → ¬ config.Overflows latest := by
  have hiff := overflows_iff hbuild latest
  refine ⟨hiff, fun basic => Policy.overreaches_iff basic,
    fun limit hlimit short hlatest hover => ?_⟩
  rcases (atMost_foldlM hlimit hcollect (atMost_empty limit) short).of_build hbuild hlimit with
    ⟨hconsume, hbackoff⟩
  refine absurd hlatest (Nat.not_lt.mpr ?_)
  rcases hiff.mp hover with ⟨timeout, htimeout, hlong⟩ | ⟨started, hover⟩
  · -- A short timeout counts as the slack, which is shorter than what a file can tell.
    have hslack : Retry.slack.nanos ≤ FileConfig.longest.nanos := by decide
    have hmax : max timeout.nanos Retry.slack.nanos ≤ limit :=
      Nat.max_le.mpr ⟨hconsume timeout htimeout, Nat.le_trans hslack hlimit⟩
    exact Nat.le_trans hlong (Nat.add_le_add_left hmax latest)
  · exact Generator.horizon_le_of_overreaches hover (Policy.atMost_start hbackoff started)

/-- Half of all that the clock can count. -/
def half : Span := .ofSecs 0x4000_0000_0000_0000

/-- Steps that give a short timeout in a file and a long interval. -/
def patient : List Step :=
  [.endpoint "http://a:1/", .flowId "f", .workerId "w",
    .file { FileConfig.empty with consumeTimeout := some "1m30s" }, .backoff (.constant half)]

/-- With half of the time gone, the interval is too long; it is not if all of it is
    left. -/
theorem overflows_collected_patient : ∃ s config, collect patient = .ok s ∧
    s.build = .ok config ∧ config.Overflows half.nanos ∧ ¬ config.Overflows 0 := by
  have hcollect : collect patient = .ok { least with
      consumeTimeout := some (.ofSecs 90), backoff := some (.constant half) } := by decide +kernel
  have hbuild : Settings.build { least with
      consumeTimeout := some (.ofSecs 90), backoff := some (.constant half) } =
      .ok { Config.retrying [.rooted] 0 with
        consumeTimeout := some (.ofSecs 90), backoff := .constant half } := by decide +kernel
  have hover : (Policy.constant half).Overruns half.nanos 0 half :=
    ⟨Nat.zero_le _, by decide, rfl, by decide⟩
  refine ⟨_, _, hcollect, hbuild, ?_, ?_⟩
  · rcases overflows_collected hcollect hbuild half.nanos with ⟨hiff, hpolicy, -⟩
    exact hiff.mpr (.inr ((hpolicy trivial).mpr ⟨0, half, hover⟩))
  · refine (overflows_collected hcollect hbuild 0).2.2 half.nanos (by decide) ?_ (by decide)
    simp [patient, Step.AtMost, Policy.AtMost]

/-- The longest span passes the check as a timeout and as an interval, and leads a
    worker beyond the clock at once. -/
theorem beyondClock_longest :
    (∃ (config : Config) (w₀ w : World (List Nat)),
      (least.withConsumeTimeout .longest).build = .ok config ∧
      World.prepare config ⟨0, .empty⟩ [] = .ok w₀ ∧ w₀.launch .dawdling = (.ok (), w) ∧
      (w.consume .dawdling 1).1 = .beyondClock) ∧
    ∃ (config : Config) (w₀ w : World (List Nat)),
      (least.withBackoff (.constant .longest)).build = .ok config ∧
      World.prepare config ⟨0, .empty⟩ [] = .ok w₀ ∧ w₀.launch .dawdling = (.ok (), w) ∧
      (w.get .dawdling 1 ⟨"a", "e", none⟩).1 = .beyondClock := by
  have htimeout : (least.withConsumeTimeout .longest).build = .ok { Config.retrying [.rooted] 0 with
      consumeTimeout := some .longest, backoff := .standard } := by decide +kernel
  have hinterval : (least.withBackoff (.constant .longest)).build =
      .ok { Config.retrying [.rooted] 0 with backoff := .constant .longest } := by decide +kernel
  exact ⟨⟨_, _, _, htimeout, rfl, rfl, rfl⟩, _, _, _, hinterval, rfl, rfl, rfl⟩

end Settings

end EventFlow
