import EventFlow.Proofs.Config.Validation
import EventFlow.Proofs.Worker.Course

/-!
# The End of the Clock

When a worker needs a moment that its clock cannot show.

Three sums can lead beyond the clock: the deadline of a claim, the end of a wait
between two attempts, and the moment by which a timeout counts as the deadline. The
last one is a few milliseconds from now. The other two are as long as the
configuration says, and a span may be twice as long as the clock can count, so
it is a matter of the configuration whether they fit.

For waits it is the generator that counts, and at which moments it is asked. An
attempt takes as long as the backend pleases, and a wait takes as long as the
interval says. `Overreaches` goes through both, up to an interval that is too long
for the moment at which it is given. It has the same two cases as the loop, so a loop
that comes to the end of the clock has gone such a course (`overreaches_of_ran`). In
the other direction a backend is needed that answers each attempt as late as the
course says, and that is all it has to do (`loop_dawdling`). As it answers with
timeouts, it also serves for a claim that cannot tell how close its deadline is.

## Main definitions

* `Generator.Overreaches`: Some interval leads beyond the clock.
* `Outside.dawdling`: A backend that takes its time.
* `World.Poised`: A world in which that is all that happens.
* `Config.Overflows`: Some run of a worker leads beyond the clock.

## Theorems

* `overreaches_of_ran`: A loop that comes to the end of the clock.
* `loop_dawdling`: A loop that is led there.
* `overreaches_of_perform`: An operation that comes to the end of the clock.
* `overflows_of_timeout`, `overflows_of_overreaches`: Workers that are led there.
* `Settings.overflows_iff`: The configurations that can lead beyond the clock.
-/

namespace EventFlow

/-- The generator is asked from the moment `now` on, after attempts that may take any
    time, and waits are as long as it says. At some moment up to `latest` it gives an
    interval the end of which the clock cannot show. -/
inductive Generator.Overreaches (latest : Moment) : Generator → Moment → Prop where
  /-- The next interval is too long. -/
  | here {g : Generator} {now moment : Moment} {interval : Span} (begun : now ≤ moment)
      (early : moment ≤ latest) (asked : (g.next moment).1 = some interval)
      (long : Moment.add? moment interval = none) : Overreaches latest g now
  /-- The next one is not, and is waited for. -/
  | later {g : Generator} {now moment wake : Moment} {interval : Span} (begun : now ≤ moment)
      (asked : (g.next moment).1 = some interval) (ends : Moment.add? moment interval = some wake)
      (rest : Overreaches latest (g.next moment).2 wake) : Overreaches latest g now

/-- A sum is too late for the clock exactly if it reaches the horizon. -/
theorem Moment.add?_eq_none_iff {now : Moment} {interval : Span} :
    Moment.add? now interval = none ↔ horizon ≤ now + interval.nanos := by
  unfold add?
  constructor
  · intro h
    split at h
    · exact absurd h (by simp only [reduceCtorEq, not_false_eq_true])
    · rename_i hlt
      exact Nat.not_lt.mp hlt
  · exact fun h => if_neg (Nat.not_lt.mpr h)

theorem Outcome.beyondClock_of_void {α : Type} {outcome : Outcome α}
    (h : outcome.void = .beyondClock) : outcome = .beyondClock := by
  rcases outcome with (e | a) | _ | _
  · exact absurd h nofun
  · exact absurd h nofun
  · rfl
  · exact absurd h nofun

namespace Retry

variable {σ α : Type} {b : Outside σ} {scope : Scope}
  {attempt : UInt32 → World σ → Except SessionError α × World σ} {rounds : Nat} {round : Round}
  {w w' : World σ} {latest : Moment}

/-! ## Loops that come to the end -/

/-- Only where there is a deadline can the clock fail to tell how close it is. -/
theorem add?_slack_of_standing {deadline : Option Moment} {now : Moment} {e : SessionError}
    (h : standing deadline now e = .unknown) :
    deadline ≠ none ∧ Moment.add? now slack = none := by
  unfold standing at h
  split at h
  · exact absurd h (by simp only [reduceCtorEq, not_false_eq_true])
  split at h
  · split at h
    · rename_i hnone
      exact ⟨Option.some_ne_none _, hnone⟩
    · split at h <;> exact absurd h (by simp only [reduceCtorEq, not_false_eq_true])
  · exact absurd h (by simp only [reduceCtorEq, not_false_eq_true])

/-- For a timeout, the clock cannot tell how close the deadline is if the moment in
    question is one that it cannot show. -/
theorem standing_of_close {deadline now : Moment} {e : SessionError} (timeout : e.isTimeout = true)
    (close : Moment.add? now slack = none) : standing (some deadline) now e = .unknown := by
  unfold standing
  simp only [timeout, if_true, close]

/-- A loop whose first attempt fails where the clock cannot tell how close the
    deadline is. -/
theorem run_of_unclear {e : SessionError}
    (calm : w.scene.check scope.signal scope.deadline = none)
    (tried : attempt 1 (w.record (.start scope.operation)) = (.error e, w'))
    (calm' : w'.scene.check scope.signal scope.deadline = none)
    (close : standing scope.deadline w'.scene.now e = .unknown) :
    run b 1 scope attempt w = (.beyondClock, w') := by
  unfold run
  simp only [loop]
  unfold step
  simp only [World.scene_record, calm, tried]
  rw [afterFailure, calm']
  simp only [close]

/-- A failure after which a loop is at the end of the clock came close to it, or was
    followed by an interval that is too long. In both cases no time has passed since
    the attempt. -/
theorem overreaches_of_aftermath {e : SessionError}
    (h : Aftermath (α := α) b scope round e w (.inl .beyondClock, w')) :
    w'.scene.now = w.scene.now ∧
    ((scope.deadline ≠ none ∧ Moment.add? w.scene.now slack = none) ∨
      ∃ interval, (round.generator.next w.scene.now).1 = some interval ∧
        Moment.add? w.scene.now interval = none) := by
  generalize hresult : (Sum.inl Outcome.beyondClock : Next α) = result at h
  cases h with
  | unclear calm close => exact ⟨rfl, .inl (add?_slack_of_standing close)⟩
  | tooLong interval calm early retried asked long => exact ⟨rfl, .inr ⟨interval, asked, long⟩⟩
  | interrupted | cutShort | final | gaveUp | woken | again => exact absurd hresult (by simp [fail])

/-- A failure that another round follows was followed by an interval, at the end of
    which the round begins. -/
theorem ends_of_aftermath {e : SessionError} {next : Round}
    (h : Aftermath (α := α) b scope round e w (.inr next, w')) :
    next.generator = (round.generator.next w.scene.now).2 ∧
    ∃ interval, (round.generator.next w.scene.now).1 = some interval ∧
      Moment.add? w.scene.now interval = some w'.scene.now := by
  cases h with
  | again interval wake calm early retried asked ends waited =>
      have hle : (w.record (.interval (some interval))).scene.now ≤ wake :=
        Moment.add?_eq_some ends ▸ Nat.le_add_right _ _
      exact ⟨rfl, interval, asked, by rw [World.now_await hle waited]; exact ends⟩

/-- A loop that comes to the end of the clock was led there by its generator, or it
    has a deadline and went on until the end was a few milliseconds away. -/
theorem overreaches_of_ran {tries : List (Attempt σ)} {result : Outcome α × World σ}
    (later : ∀ (n : UInt32) (w : World σ), w.scene.Later (attempt n w).2.scene)
    (h : Ran b scope attempt rounds round w tries result) (hbeyond : result.1 = .beyondClock)
    (early : result.2.scene.now ≤ latest) :
    round.generator.Overreaches latest w.scene.now ∨
      (scope.deadline ≠ none ∧ ∃ now ≤ latest, Moment.add? now slack = none) := by
  -- The course follows the loop: an attempt, an interval, and then the rest from where that
  -- ends.
  induction h with
  | unfinished | interrupted | succeeded => exact absurd hbeyond (by simp)
  | @ended rounds round w e w' outcome w'' calm tried after =>
      have hbegun := (later round.attempt w).now_le
      rw [tried] at hbegun
      obtain rfl : outcome = .beyondClock := hbeyond
      rcases overreaches_of_aftermath after with
        ⟨hnow, ⟨hdeadline, hslack⟩ | ⟨interval, asked, long⟩⟩
      · exact .inr ⟨hdeadline, _, hnow ▸ early, hslack⟩
      · exact .inl (.here hbegun (hnow ▸ early) asked long)
  | @again rounds round w e w' next w'' rest result calm tried after ran ih =>
      have hbegun := (later round.attempt w).now_le
      rw [tried] at hbegun
      rcases ends_of_aftermath after with ⟨hgenerator, interval, asked, ends⟩
      refine (ih hbeyond early).imp_left fun hrest => ?_
      rw [hgenerator] at hrest
      exact .later hbegun asked ends hrest

end Retry

/-! ## A backend that takes its time -/

/-- A backend that answers every call with a timeout. How much time that takes is in
    its state, call by call, so a state is a plan for a whole run. -/
def Outside.dawdling : Outside (List Nat) where
  connect delays endpoints := (⟨.ok (), []⟩, endpoints, delays)
  answer _ _ delays endpoints :=
    (⟨.error (.transport .timedOut), [⟨delays.headD 0, []⟩]⟩, endpoints, delays.tail)
  wait _ _ delays := ([], delays)

/-- A loop that goes on in this world makes its next attempt now: there is a
    session, and nothing was cancelled. The backend is at this point of its plan. -/
structure World.Poised (scope : Scope) (delays : List Nat) (now : Moment)
    (w : World (List Nat)) : Prop where
  slot : ∃ session, w.worker.slot = some session
  calm : w.scene.signals.isCancelled scope.signal = false
  now_eq : w.scene.now = now
  outside_eq : w.outside = delays

theorem World.Poised.record {scope : Scope} {delays : List Nat} {now : Moment}
    {w : World (List Nat)} (h : w.Poised scope delays now) (event : Event) :
    (w.record event).Poised scope delays now :=
  ⟨h.slot, h.calm, h.now_eq, h.outside_eq⟩

namespace Retry

variable {scope : Scope} {round : Round} {w : World (List Nat)}
  {delays : List Nat} {now latest : Moment}

/-- What a call to such a backend comes to, written out. -/
theorem call_dawdling {session : SessionId} (h : w.worker.slot = some session) (call : Call) :
    w.call .dawdling call = (.error (.transport .timedOut), { w with
      scene := ⟨w.scene.now + w.outside.headD 0, w.scene.signals⟩, outside := w.outside.tail,
      trace := .call w.scene.now session call (.error (.transport .timedOut)) :: w.trace }) := by
  unfold World.call World.lookUp
  rw [h]
  rfl

/-- An attempt fails as late as the backend wants it to. -/
theorem exists_call_dawdling (h : w.Poised scope delays now) (call : Call) :
    ∃ w', w.call .dawdling call = (.error (.transport .timedOut), w') ∧
      w'.Poised scope delays.tail (now + delays.headD 0) := by
  rcases h with ⟨⟨session, hslot⟩, hcalm, hnow, houtside⟩
  exact ⟨_, call_dawdling hslot call, ⟨session, hslot⟩, hcalm, by rw [hnow, houtside],
    by rw [houtside]⟩

/-- And a wait that nothing disturbs goes on to its end. -/
theorem exists_await_dawdling (h : w.Poised scope delays now) (deadline : scope.deadline = none)
    {wake : Moment} (hwake : now ≤ wake) :
    ∃ w', w.await .dawdling scope wake = (none, w') ∧ w'.Poised scope delays wake := by
  rcases h with ⟨hslot, hcalm, hnow, houtside⟩
  -- Nothing happens during the wait, so what was found at its beginning is found at its end.
  have hchecked : ∀ now, Signals.check w.scene.signals scope.signal now none = none :=
    fun now => Signals.check_eq_none.mpr ⟨hcalm, rfl⟩
  have hend : max w.scene.now wake = wake := Nat.max_eq_right (hnow ▸ hwake)
  refine ⟨{ w with scene := ⟨wake, w.scene.signals⟩ }, ?_, ⟨hslot, hcalm, rfl, houtside⟩⟩
  unfold World.await Scene.sleepUntil Scene.check
  simp only [Outside.dawdling, deadline, hchecked, Scene.limit, hend]

/-- A round makes its attempt at one moment and waits from a later one, for which
    the backend takes up the time in between. -/
theorem step_dawdling (call : Call) {moment : Moment} {interval : Span}
    (retries : scope.retries = .allErrors) (deadline : scope.deadline = none) (begun : now ≤ moment)
    (asked : (round.generator.next moment).1 = some interval)
    (poised : w.Poised scope ((moment - now) :: delays) now) :
    ∃ w', w'.Poised scope delays moment ∧
      step .dawdling scope (fun _ w => w.call .dawdling call) round w =
        pause .dawdling scope { round with generator := (round.generator.next moment).2 }
          interval w' := by
  have hcalm : ∀ {w : World (List Nat)}, w.scene.signals.isCancelled scope.signal = false →
      w.scene.check scope.signal scope.deadline = none :=
    fun h => Signals.check_eq_none.mpr ⟨h, by rw [deadline]; rfl⟩
  rcases exists_call_dawdling poised call with ⟨w₁, hcall, hpoised⟩
  rw [List.headD_cons, Nat.add_sub_cancel' begun] at hpoised
  obtain rfl := hpoised.now_eq
  refine ⟨_, hpoised.record (.interval (some interval)), ?_⟩
  rw [step, hcalm poised.calm]
  simp only [hcall]
  exact afterFailure_of_retried (hcalm hpoised.calm) (by rw [deadline]; rfl)
    (by rw [retries]; rfl) asked

/-- A loop that is tried again after every error and has no deadline gets as far as
    its generator leads it, if the backend takes its time. The plan and the number
    of rounds come from the course alone, so they serve every such loop. -/
theorem loop_dawdling {g : Generator} (h : g.Overreaches latest now) :
    ∃ delays rounds, ∀ (scope : Scope) (call : Call) (round : Round) (w : World (List Nat)),
      scope.retries = .allErrors → scope.deadline = none → w.Poised scope delays now →
      round.generator = g →
      (loop .dawdling scope (fun _ w => w.call .dawdling call) rounds round w).1 = .beyondClock ∧
      (loop .dawdling scope (fun _ w => w.call .dawdling call) rounds round w).2.scene.now ≤
        latest := by
  -- Each attempt takes until the moment at which the course asks for an interval.
  induction h with
  | @here g now moment interval begun early asked long =>
      refine ⟨[moment - now], 1, fun scope call round w retries deadline poised hgenerator => ?_⟩
      subst hgenerator
      rcases step_dawdling call retries deadline begun asked poised with
        ⟨w', hpoised, heq⟩
      have hnow := hpoised.now_eq
      rw [loop, heq, pause_eq, hnow, long]
      exact ⟨rfl, Nat.le_trans (Nat.le_of_eq hnow) early⟩
  | @later g now moment wake interval begun asked ends rest ih =>
      rcases ih with ⟨delays, rounds, ih⟩
      refine ⟨(moment - now) :: delays, rounds + 1,
        fun scope call round w retries deadline poised hgenerator => ?_⟩
      subst hgenerator
      rcases step_dawdling call retries deadline begun asked poised with
        ⟨w', hpoised, heq⟩
      have hwake : moment ≤ wake := Moment.add?_eq_some ends ▸ Nat.le_add_right _ _
      rcases exists_await_dawdling hpoised deadline hwake with ⟨w'', hawait, hpoised'⟩
      rw [loop, heq, pause_eq, hpoised.now_eq, ends]
      simp only [hawait]
      exact ih scope call _ w'' retries deadline hpoised' rfl

end Retry

/-! ## Workers that come to the end -/

/-- A worker with this configuration can be led beyond the clock: with some backend
    and after some actions, one of its operations needs a moment that the clock
    cannot show, when it shows no moment after `latest`. -/
def Config.Overflows (config : Config) (latest : Moment) : Prop :=
  ∃ (σ : Type) (b : Outside σ) (scene : Scene) (outside : σ) (w₀ w : World σ)
    (actions : List (Nat × Action)) (rounds : Nat) (action : Action),
    World.prepare config scene outside = .ok w₀ ∧ w₀.launch b = (.ok (), w) ∧
    let ended := (w.performAll b actions).2.perform b rounds action
    ended.1.outcome? = some .beyondClock ∧ ended.2.scene.now ≤ latest

namespace World

variable {σ : Type} {b : Outside σ} {config : Config} {w w₀ : World σ} {latest : Moment}

/-- An operation has a deadline only where claims have a timeout, and then it is a
    claim. -/
theorem exists_timeout_of_deadline? {action : Action} {deadline : Moment}
    (h : action.deadline? w = some (some deadline)) :
    ∃ timeout, w.worker.config.consumeTimeout = some timeout := by
  unfold Action.deadline? at h
  split at h
  · unfold deadline? at h
    split at h
    · cases h
    · exact ⟨_, by assumption⟩
  · cases h

/-- An operation that comes to the end of the clock has a timeout with which it
    does, or was led there by its generator. Ten milliseconds count as a timeout
    here, for claims that have a shorter one. -/
theorem overreaches_of_perform {rounds : Nat} {action : Action}
    (h : (w.perform b rounds action).1.outcome? = some .beyondClock)
    (early : (w.perform b rounds action).2.scene.now ≤ latest) :
    (∃ timeout, w.worker.config.consumeTimeout = some timeout ∧
      Moment.horizon ≤ latest + max timeout.nanos Retry.slack.nanos) ∨
    ∃ started, (w.worker.config.backoff.start started).Overreaches latest started := by
  -- The deadline is worked out before the loop, so a claim can come to the end without one.
  cases performed_perform h with
  | full claims found taken outcome_eq => exact absurd outcome_eq (by simp)
  | timeless claims found late outcome_eq trace_eq now_eq =>
      rw [now_eq] at early
      unfold deadline? at late
      split at late
      · exact absurd late (by simp only [reduceCtorEq, not_false_eq_true])
      · rename_i timeout htimeout
        have hlong := Moment.add?_eq_none_iff.mp (Option.map_eq_none_iff.mp late)
        exact .inl ⟨timeout, htimeout,
          Nat.le_trans hlong (Nat.add_le_add early (Nat.le_max_left _ _))⟩
  | looped l found shown =>
      have hbegun := begun_of_loop? found
      have hbeyond := Outcome.beyondClock_of_void shown.outcome_eq.symm
      rw [shown.now_eq] at early
      have hran := Retry.ran_run b rounds l.scope l.attempt l.start
      rcases Retry.overreaches_of_ran hbegun.lasts hran hbeyond early with
        hover | ⟨hdeadline, now, hnow, hslack⟩
      · refine .inr ⟨w.scene.now, ?_⟩
        rw [← hbegun.policy_eq, ← hbegun.now_eq]
        exact hover
      · -- A loop has a deadline only if there is a timeout.
        have hlong := Moment.add?_eq_none_iff.mp hslack
        rcases Option.ne_none_iff_exists'.mp hdeadline with ⟨deadline, heq⟩
        rcases exists_timeout_of_deadline? (hbegun.deadline_eq.trans (congrArg some heq)) with
          ⟨timeout, htimeout⟩
        exact .inl ⟨timeout, htimeout,
          Nat.le_trans hlong (Nat.add_le_add hnow (Nat.le_max_right _ _))⟩

/-! ## Workers that are led there -/

/-- A worker that has just connected to the backend, and a clock that shows `now`.
    It has the one session, and nobody has claimed anything. -/
def arrived (config : Config) (rotation : Endpoints) (now : Moment) (delays : List Nat) :
    World (List Nat) where
  worker := ⟨config, rotation, 0, some 1, 1, 0, 0⟩
  scene := ⟨now, ⟨[⟨false, [], 1⟩]⟩⟩
  outside := delays
  trace := [.connect now (.ok ())]

variable {rotation : Endpoints} {now : Moment} {delays : List Nat}

/-- Every configuration with endpoints makes a worker that arrives so, at any
    moment. -/
theorem launch_dawdling (h : Endpoints.of config.endpoints = .ok rotation) (now : Moment)
    (delays : List Nat) : ∃ w₀, prepare config ⟨now, .empty⟩ delays = .ok w₀ ∧
      w₀.launch .dawdling = (.ok (), arrived config rotation now delays) := by
  unfold prepare
  rw [h]
  exact ⟨_, rfl, rfl⟩

/-- Whatever it is led to at once. -/
theorem overflows_of_perform (h : Endpoints.of config.endpoints = .ok rotation) {rounds : Nat}
    {action : Action}
    (ended : ((arrived config rotation now delays).perform .dawdling rounds action).1.outcome? =
      some .beyondClock)
    (early : ((arrived config rotation now delays).perform .dawdling rounds action).2.scene.now ≤
      latest) : config.Overflows latest := by
  rcases launch_dawdling h now delays with ⟨w₀, hprepare, hlaunch⟩
  exact ⟨_, .dawdling, _, delays, w₀, _, [], rounds, action, hprepare, hlaunch, ended, early⟩

/-- A worker whose generator can be led beyond the clock. Its first operation is a
    fetch, which has no deadline to end it earlier. -/
theorem overflows_of_overreaches (h : Endpoints.of config.endpoints = .ok rotation)
    {started : Moment} (hover : (config.backoff.start started).Overreaches latest started) :
    config.Overflows latest := by
  rcases Retry.loop_dawdling hover with ⟨delays, rounds, hloop⟩
  let w := arrived config rotation started delays
  -- The round is the first one of the run, with a new generator.
  rcases hloop (w.scope .get) (.fetch "") ⟨1, config.backoff.start started, started⟩
    (w.record (.start .get)) rfl rfl ⟨⟨1, rfl⟩, rfl, rfl, rfl⟩ rfl with ⟨hended, hearly⟩
  have hget : (w.perform .dawdling rounds (.get ⟨"", "", none⟩)).1.outcome? = some .beyondClock :=
    congrArg (fun outcome : Outcome Message => some outcome.void) hended
  exact overflows_of_perform h hget hearly

/-- A claim that cannot tell its deadline. -/
theorem consume_of_timeless {σ : Type} {b : Outside σ} {w : World σ} {taken : Worker}
    (place : w.worker.reserve? = some taken) (late : w.deadline? = none) :
    (w.perform b 1 .consume).1.outcome? = some .beyondClock ∧
      (w.perform b 1 .consume).2.scene.now = w.scene.now := by
  have hshown : (w.perform b 1 .consume).1.outcome? = some (w.consume b 1).1.void := rfl
  cases performed_consume b 1 w with
  | looped l found =>
      have hdeadline : w.deadline? = some l.scope.deadline := (begun_of_loop? found).deadline_eq
      exact absurd (late.symm.trans hdeadline) (Option.some_ne_none _).symm
  | full claims found taken' => exact absurd (taken'.symm.trans place) (Option.some_ne_none _).symm
  | timeless claims found late' outcome_eq trace_eq now_eq =>
      exact ⟨hshown.trans (congrArg some outcome_eq), now_eq⟩

/-- The loop of a claim whose first attempt fails at once, and too late to tell how
    close the deadline is. -/
theorem run_claimLoop_dawdling {w : World (List Nat)} {taken : Worker} {signal : SignalId}
    {session : SessionId} {deadline : Moment} (slot : taken.slot = some session)
    (calm : (World.join { w with worker := taken } signal).2.scene.signals.isCancelled
      (World.join { w with worker := taken } signal).1 = false)
    (houtside : w.outside = []) (hlt : w.scene.now < deadline)
    (close : Moment.add? w.scene.now Retry.slack = none) :
    ∃ w', (w.claimLoop .dawdling signal taken (some deadline)).run .dawdling 1 =
      (.beyondClock, w') ∧ w'.scene.now = w.scene.now := by
  let l := w.claimLoop .dawdling signal taken (some deadline)
  have hcalm : ∀ {w' : World (List Nat)}, w'.Poised l.scope [] w.scene.now →
      w'.scene.check l.scope.signal l.scope.deadline = none := by
    intro w' h
    refine Signals.check_eq_none.mpr ⟨h.calm, ?_⟩
    rw [h.now_eq]
    exact decide_eq_false (Nat.not_le.mpr hlt)
  have hstart : l.start.Poised l.scope [] w.scene.now := ⟨⟨session, slot⟩, calm, rfl, houtside⟩
  rcases Retry.exists_call_dawdling (hstart.record (.start .consume))
    (.claim (budget w.scene.now (some deadline))) with ⟨w', hcall, hpoised⟩
  have hstanding : Retry.standing l.scope.deadline w'.scene.now (.transport .timedOut) =
      .unknown := by
    rw [hpoised.now_eq]
    exact Retry.standing_of_close rfl close
  exact ⟨w', Retry.run_of_unclear (hcalm hstart) hcall (hcalm hpoised) hstanding, hpoised.now_eq⟩

/-- And one that cannot tell how close its deadline is: the backend answers at once,
    and with a timeout. -/
theorem consume_of_unclear {deadline : Moment} {taken : Worker}
    (place : (arrived config rotation now []).worker.reserve? = some taken)
    (ends : (arrived config rotation now []).deadline? = some (some deadline))
    (hlt : now < deadline) (close : Moment.add? now Retry.slack = none) :
    let ended := (arrived config rotation now []).perform .dawdling 1 .consume
    ended.1.outcome? = some .beyondClock ∧ ended.2.scene.now = now := by
  intro ended
  have hshown : ended.1.outcome? =
      some ((arrived config rotation now []).consume .dawdling 1).1.void := rfl
  cases performed_consume .dawdling 1 (arrived config rotation now []) with
  | full claims found taken' => exact absurd (taken'.symm.trans place) (Option.some_ne_none _).symm
  | timeless claims found late => exact absurd (late.symm.trans ends) (Option.some_ne_none _).symm
  | looped l found shown =>
      have hloop : (arrived config rotation now []).loop? .dawdling .consume =
          some ((arrived config rotation now []).withSignal.claimLoop .dawdling 1 taken
            (some deadline)) := by
        change claimLoop? .dawdling 1 (arrived config rotation now []).withSignal = _
        rw [claimLoop?,
          show (arrived config rotation now []).withSignal.worker.reserve? = _ from place]
        exact congrArg (Option.map _) ends
      obtain rfl := Option.some.inj (found.symm.trans hloop)
      have hslot : taken.slot = some 1 := by
        rcases Worker.eq_of_reserve? place with ⟨n, rfl⟩
        rfl
      have hcalm : (World.join { (arrived config rotation now []).withSignal with worker := taken }
          1).2.scene.signals.isCancelled 2 = false := by
        rcases Worker.eq_of_reserve? place with ⟨n, rfl⟩
        rfl
      rcases run_claimLoop_dawdling hslot hcalm rfl hlt close with ⟨w', hrun, hnow⟩
      have houtcome := shown.outcome_eq
      have hended := shown.now_eq
      rw [hrun] at houtcome hended
      exact ⟨hshown.trans (congrArg some houtcome), hended.trans hnow⟩

/-- A timeout with which a claim comes to the end of the clock. -/
theorem overflows_of_timeout (h : Endpoints.of config.endpoints = .ok rotation)
    (places : ∀ limit, config.maxIntake = some limit → limit ≠ 0) {timeout : Span}
    (htimeout : config.consumeTimeout = some timeout) (hpos : timeout.nanos ≠ 0)
    (long : Moment.horizon ≤ latest + max timeout.nanos Retry.slack.nanos) :
    config.Overflows latest := by
  have hplace : ∃ taken, (arrived config rotation latest []).worker.reserve? = some taken := by
    unfold Worker.reserve?
    cases hmax : config.maxIntake with
    | none =>
        simp only [arrived, hmax]
        exact ⟨_, rfl⟩
    | some limit =>
        have hlimit : 0 < limit.toNat := Nat.pos_of_ne_zero fun hzero =>
          places limit hmax (UInt64.toNat_inj.mp hzero)
        simp only [arrived, hmax, hlimit, if_true]
        exact ⟨_, rfl⟩
  rcases hplace with ⟨taken, hplace⟩
  have hdeadline : (arrived config rotation latest []).deadline? =
      (Moment.add? latest timeout).map some := by
    unfold deadline?
    simp only [arrived, htimeout]
  -- Either the deadline is too late for the clock, or it is not, and then the clock is close
  -- enough to its end for the slack to be.
  cases hends : Moment.add? latest timeout with
  | none =>
      rw [hends] at hdeadline
      rcases consume_of_timeless (b := .dawdling) hplace hdeadline with ⟨hended, hnow⟩
      exact overflows_of_perform h hended (Nat.le_of_eq hnow)
  | some deadline =>
      rw [hends] at hdeadline
      have hsum := Moment.add?_eq_some hends
      have hlt : latest < deadline := hsum ▸ Nat.lt_add_of_pos_right (Nat.pos_of_ne_zero hpos)
      have hclose : Moment.add? latest Retry.slack = none := by
        refine Moment.add?_eq_none_iff.mpr ?_
        have hshown : ¬ Moment.horizon ≤ latest + timeout.nanos := fun hlong =>
          absurd (hends.symm.trans (Moment.add?_eq_none_iff.mpr hlong)) (Option.some_ne_none _)
        rcases Nat.le_total timeout.nanos Retry.slack.nanos with hle | hle
        · rwa [Nat.max_eq_right hle] at long
        · rw [Nat.max_eq_left hle] at long
          exact absurd long hshown
      rcases consume_of_unclear hplace hdeadline hlt hclose with ⟨hended, hnow⟩
      exact overflows_of_perform h hended (Nat.le_of_eq hnow)

end World

/-- A configuration that passed the check can lead a worker beyond the clock exactly
    if its timeout does, or a few milliseconds in place of a shorter one, or its
    backoff. -/
theorem Settings.overflows_iff {s : Settings} {config : Config} (h : s.build = .ok config)
    (latest : Moment) : config.Overflows latest ↔
      (∃ timeout, config.consumeTimeout = some timeout ∧
        Moment.horizon ≤ latest + max timeout.nanos Retry.slack.nanos) ∨
      ∃ started, (config.backoff.start started).Overreaches latest started := by
  have hsound := sound_of_build h
  rcases hsound.rotation with ⟨rotation, hrotation, -⟩
  constructor
  · rintro ⟨σ, b, scene, outside, w₀, w, actions, rounds, action, hprepare, hlaunch, hended, hearly⟩
    -- Nothing that was done before gave the worker another configuration.
    have hconfig : (w.performAll b actions).2.worker.config = config := by
      rcases World.starts_of_rotation hrotation scene outside with ⟨w₁, hw₁, hfirst, -⟩
      obtain rfl := Except.ok.inj (hw₁.symm.trans hprepare)
      have hkept := (World.kept_launch b w₁).config_eq
      rw [hlaunch] at hkept
      exact ((World.config_performAll b actions w).1.trans hkept).trans hfirst
    have hover := World.overreaches_of_perform hended hearly
    rwa [hconfig] at hover
  · rintro (⟨timeout, htimeout, hlong⟩ | ⟨started, hover⟩)
    · exact World.overflows_of_timeout hrotation hsound.maxIntake htimeout
        (hsound.consumeTimeout timeout htimeout) hlong
    · exact World.overflows_of_overreaches hrotation hover

end EventFlow
