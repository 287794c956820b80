import EventFlow.Proofs.Worker.Course

/-!
# Cancellation Is Final

A signal that an operation observes, directly or through a chain of links, can
be cancelled at any moment: before the operation, during one of its calls, or
while it waits. Whenever it was, two things hold. No attempt begins from then
on, and the operation reports the cancellation, with one exception: the attempt
that was under way may still succeed, and then its result is returned.

Neither needs a case for the moment of the cancellation. Nothing takes a
cancellation back, so if the signal is cancelled when the loop ends, the signal
of the loop is, and an attempt that begins before the loop is over begins while
neither of them is cancelled yet. That a loop ends with another error than the
cancellation is excluded by what it found when it looked last: in each case, its
signal was not cancelled then (`cancelled_of_aftermath`).

The shutdown of a worker cancels a signal that all operations observe and that
nobody but the worker holds on to. `Worker.Down` is what it leaves behind, every
action keeps it, and an operation of a worker that is down makes no attempt.

## Main definitions

* `Retry.Final`: A cancellation was final for a loop.
* `Signals.Lasting`: Nothing was taken back and nobody let go.
* `Action.Respects`: An action leaves a signal to its owner.
* `World.Down`: The worker was shut down.
* `World.Refused`: An operation was refused at once.

## Theorems

* `cancelled_of_aftermath`: A failure that ends a cancelled loop is reported as
  the cancellation.
* `Ran.final`: Cancellation is final for a loop.
* `lasting_perform`: Operations take no cancellation back.
* `Action.respects_signal`: What callers do to signals respects the worker's.
* `down_performAll`: A worker that was shut down stays so.
* `cancellation_final`: Cancellation is final for operations, and a shutdown for
  all operations to come.
-/

namespace EventFlow

namespace Retry

variable {σ α : Type} {b : Outside σ} {scope : Scope} {rounds : Nat} {round : Round}
  {attempt : UInt32 → World σ → Except SessionError α × World σ} {w : World σ}
  {tries : List (Attempt σ)} {result : Outcome α × World σ}

/-- The cancellation of `u` was final for an operation that made these attempts
    and ended in this way. -/
structure Final (u : SignalId) (tries : List (Attempt σ)) (outcome : Outcome Unit) : Prop where
  /-- Every attempt begins before it. -/
  early : ∀ x ∈ tries, x.before.scene.signals.isCancelled u = false
  /-- It is reported, unless the attempt that was under way succeeds. -/
  reported : outcome = .finished (.error .cancelled) ∧ (∀ x ∈ tries, x.failure ≠ none) ∨
    outcome = .finished (.ok ()) ∧ ∃ last, tries.getLast? = some last ∧ last.failure = none ∧
      last.after.scene.signals.isCancelled u = true

/-! ## Loops -/

/-- A look that finds nothing finds the signal of the loop not cancelled. -/
theorem isCancelled_of_check_eq_none
    (calm : w.scene.check scope.signal scope.deadline = none) :
    w.scene.signals.isCancelled scope.signal = false :=
  (Scene.check_eq_none.mp calm).1

/-- An interrupt that is found where the signal is cancelled is the cancellation. -/
theorem ofInterrupt_of_isCancelled {interrupt : Signals.Interrupt}
    (found : w.scene.check scope.signal scope.deadline = some interrupt)
    (h : w.scene.signals.isCancelled scope.signal = true) :
    WorkerError.ofInterrupt interrupt = .cancelled := by
  rw [Scene.check_eq_cancelled.mpr h, Option.some.injEq] at found
  rw [← found]
  rfl

/-- A failure that is the end of a loop whose signal is cancelled is reported as
    the cancellation, whatever the attempt failed with. -/
theorem cancelled_of_aftermath {e : SessionError} {w' : World σ} {outcome : Outcome α}
    (h : Aftermath b scope round e w (.inl outcome, w'))
    (hcancelled : w'.scene.signals.isCancelled scope.signal = true) :
    outcome = .finished (.error .cancelled) := by
  -- There are two places where an interrupt is found, and all other ends come after a look that
  -- found none.
  cases h with
  | interrupted interrupt found => rw [ofInterrupt_of_isCancelled found hcancelled]
  | unclear calm | cutShort calm | final calm | gaveUp calm | tooLong _ calm =>
      -- The signal was looked at after the attempt, and nothing has happened since.
      have hcalm := isCancelled_of_check_eq_none calm
      exact absurd (hcalm.symm.trans hcancelled) Bool.false_ne_true
  | woken interval wake interrupt calm early retried asked ends waited =>
      have hfound := World.check_await b scope wake (w.record (.interval (some interval)))
      rw [waited] at hfound
      rw [ofInterrupt_of_isCancelled hfound hcancelled]

/-- Cancellation is final for a loop: if the signal is cancelled when it ends, this
    is reported, or the last attempt succeeded. It does not matter when the signal
    was cancelled, nor how far up the chain. -/
theorem Ran.final (h : Ran b scope attempt (rounds + 1) round w tries result)
    (later : ∀ (n : UInt32) (w : World σ), w.scene.Later (attempt n w).2.scene) {u : SignalId}
    (chain : Relation.ReflTransGen w.scene.signals.Leads u scope.signal)
    (hcancelled : result.2.scene.signals.isCancelled u = true) :
    Final u tries result.1.void := by
  rcases h.later later with ⟨hend, hlater⟩
  -- The chain lasts, so wherever `u` is cancelled, the signal of the loop is.
  have hchain : ∀ {w' : World σ}, w.scene.Later w'.scene →
      w'.scene.signals.isCancelled u = true →
      w'.scene.signals.isCancelled scope.signal = true :=
    fun hlasts hu => Signals.isCancelled_of_chain (hlasts.kept.chain chain) hu
  -- An attempt is preceded by a look at the signal of the loop.
  have early : ∀ x ∈ tries, x.before.scene.signals.isCancelled u = false := by
    intro x hx
    have hcalm := isCancelled_of_check_eq_none (h.made x hx).1
    cases hu : x.before.scene.signals.isCancelled u with
    | false => rfl
    | true => exact absurd (hcalm.symm.trans (hchain (hlater x hx).1 hu)) Bool.false_ne_true
  have hsignal := hchain hend hcancelled
  refine ⟨early, ?_⟩
  by_cases hne : tries = []
  · -- There is at least one round, so something was found at its beginning.
    subst hne
    cases h with
    | interrupted interrupt found =>
        rw [ofInterrupt_of_isCancelled found hsignal]
        exact .inl ⟨rfl, fun x hx => absurd hx List.not_mem_nil⟩
  · rcases h.closing hne with ⟨init, last, rfl, hclosing⟩
    cases hclosing with
    | succeeded a fine tried =>
        exact .inr ⟨rfl, last, List.getLast?_concat, fine, hcancelled⟩
    | failed e outcome w' failure after =>
        have hout := cancelled_of_aftermath after hsignal
        refine .inl ⟨by rw [hout]; rfl, fun x hx fine => ?_⟩
        rcases h.ok_of_succeeded hx fine with ⟨a, hok⟩
        simp only [hout, Prod.mk.injEq, Outcome.finished.injEq, reduceCtorEq, false_and] at hok
    | unfinished e interval w' failure retried resumed =>
        -- The last wait would have been interrupted.
        have hcalm := isCancelled_of_check_eq_none resumed.calm
        exact absurd (hcalm.symm.trans hsignal) Bool.false_ne_true

/-- A loop that begins with its signal cancelled attempts nothing, and the world
    that it leaves behind is the one it found. -/
theorem Ran.nothing (h : Ran b scope attempt (rounds + 1) round w tries result)
    (hcancelled : w.scene.signals.isCancelled scope.signal = true) :
    tries = [] ∧ result = (.finished (.error .cancelled), w) := by
  cases h with
  | interrupted interrupt found =>
      rw [ofInterrupt_of_isCancelled found hcancelled]
      exact ⟨rfl, rfl⟩
  | succeeded _ _ calm | ended _ _ _ _ calm | again _ _ _ _ _ _ calm =>
      exact absurd ((isCancelled_of_check_eq_none calm).symm.trans hcancelled) Bool.false_ne_true

end Retry

/-! ## What operations leave behind -/

/-- No cancellation was taken back, and nobody let go of a signal. Links may have
    come and gone meanwhile, which `Signals.Extends` does not allow. -/
structure Signals.Lasting (g g' : Signals) : Prop where
  cancelled : ∀ s, g.isCancelled s = true → g'.isCancelled s = true
  held : ∀ s, g.isHeld s = true → g'.isHeld s = true

theorem Signals.Extends.lasting {g g' : Signals} (h : g.Extends g') : g.Lasting g' :=
  ⟨h.cancelled, h.held⟩

theorem Signals.Lasting.trans {g g' g'' : Signals} (h : g.Lasting g') (h' : g'.Lasting g'') :
    g.Lasting g'' :=
  ⟨fun s hs => h'.cancelled s (h.cancelled s hs), fun s hs => h'.held s (h.held s hs)⟩

/-- Whoever made a signal may let go of it: nobody held it before, so nothing that
    was held is lost. -/
theorem Signals.Lasting.release {g g' : Signals} (h : g.Lasting g') :
    g.Lasting (g'.release g.size) where
  cancelled := fun s hs => (isCancelled_release g' g.size s).trans (h.cancelled s hs)
  held := fun s hs => by
    have hne : g.size ≠ s := Nat.ne_of_gt (lt_size_of_isHeld hs)
    exact (isHeld_release_of_ne g' hne).trans (h.held s hs)

/-- Taking a link away takes no cancellation back. -/
theorem Signals.Lasting.detach {g g' : Signals} (h : g.Lasting g') (s t : SignalId) :
    g.Lasting (g'.detach s t) :=
  ⟨fun x hx => (isCancelled_detach g' s t x).trans (h.cancelled x hx),
    fun x hx => (isHeld_detach g' s t x).trans (h.held x hx)⟩

namespace World

variable {σ α : Type} {b : Outside σ} {scope : Scope}
  {attempt : UInt32 → World σ → Except SessionError α × World σ} {w : World σ}

/-- A run leads to a later scene, if its attempts do. -/
theorem later_run (later : ∀ (n : UInt32) (w : World σ), w.scene.Later (attempt n w).2.scene)
    (rounds : Nat) (w : World σ) :
    w.scene.Later (Retry.run b rounds scope attempt w).2.scene :=
  ((Retry.ran_run b rounds scope attempt w).later later).1

/-- The signal that a claim lets go of in the end is the one that it made. Whether
    it is unlinked before makes no difference here, as that takes no cancellation
    back and lets go of nothing. -/
theorem lasting_part {v : World σ} (h : w.scene.signals.Lasting v.scene.signals)
    (outcome : Outcome Reference) (signal : SignalId) :
    w.scene.signals.Lasting (v.part outcome signal w.scene.signals.size).scene.signals := by
  rcases outcome with _ | _ | _
  · exact ((h.detach signal _).detach v.worker.shutdown _).release
  · exact h.release
  · exact ((h.detach signal _).detach v.worker.shutdown _).release

/-- A claim lets go of nothing but its own signal. -/
theorem lasting_claim (b : Outside σ) (rounds : Nat) (signal : SignalId) (w : World σ) :
    w.scene.signals.Lasting (w.claim b rounds signal).2.scene.signals := by
  have hjoin := (later_join w signal).kept
  rw [claim]
  -- Without a deadline that the clock can show, the claim is at its end already.
  cases hd : (w.join signal).2.deadline? with
  | none =>
      simp only [hd]
      exact lasting_part hjoin.lasting .beyondClock signal
  | some deadline =>
      simp only [hd]
      have hrun := @later_run σ Reference b
        ((w.join signal).2.claimScope (w.join signal).1 deadline) (claimAttempt b deadline)
        (fun _ v => later_call b (.claim (budget v.scene.now deadline)) v) rounds (w.join signal).2
      exact lasting_part (hjoin.trans hrun.kept).lasting _ signal

/-- A claim that was given a signal leaves it to those who hold it. -/
theorem lasting_consumeWith (b : Outside σ) (rounds : Nat) (signal : SignalId) (w : World σ) :
    w.scene.signals.Lasting (w.consumeWith b rounds signal).2.scene.signals := by
  rw [consumeWith]
  cases hr : w.worker.reserve? with
  | none => exact (Signals.Extends.refl _).lasting
  | some taken =>
      simp only [scene_conclude]
      exact lasting_claim b rounds signal { w with worker := taken }

/-- A claim that was given none makes one, which is the only one that it lets go of. -/
theorem lasting_consume (b : Outside σ) (rounds : Nat) (w : World σ) :
    w.scene.signals.Lasting (w.consume b rounds).2.scene.signals :=
  ((later_fresh w).kept.lasting.trans
    (lasting_consumeWith b rounds w.scene.signals.size w.withSignal)).release

end World

/-- Whatever an action does to signals, it takes no cancellation of this one back
    and leaves it to those who hold it. -/
def Action.Respects (s : SignalId) : Action → Prop
  | .arrange change => ∀ g : Signals, (g.isCancelled s = true → (change g).isCancelled s = true) ∧
      (g.isHeld s = true → (change g).isHeld s = true)
  | _ => True

/-- All that a caller can do to signals respects one that the caller does not let go
    of. The worker's own is such a signal: nobody but the worker holds on to it. -/
theorem Action.respects_signal (s t u : SignalId) :
    (Action.arrange fun g => g.fresh.2).Respects s ∧
    (Action.arrange fun g => g.hold t).Respects s ∧
    (t ≠ s → (Action.arrange fun g => g.release t).Respects s) ∧
    (Action.arrange fun g => g.attach t u).Respects s ∧
    (Action.arrange fun g => g.detach t u).Respects s ∧
    (Action.arrange fun g => g.cancel t).Respects s := by
  have hextends : ∀ {change : Signals → Signals}, (∀ g : Signals, g.Extends (change g)) →
      (Action.arrange change).Respects s :=
    fun h g => ⟨(h g).cancelled s, (h g).held s⟩
  refine ⟨hextends Signals.extends_fresh, fun g => ⟨fun hs => ?_, fun hs => ?_⟩,
    fun hne g => ⟨fun hs => ?_, fun hs => ?_⟩, hextends fun g => Signals.extends_attach g t u,
    fun g => ⟨fun hs => ?_, fun hs => ?_⟩, hextends fun g => Signals.extends_cancel g t⟩
  · exact (Signals.isCancelled_hold g t s).trans hs
  · exact Signals.isHeld_hold t hs
  · exact (Signals.isCancelled_release g t s).trans hs
  · exact (Signals.isHeld_release_of_ne g hne).trans hs
  · exact (Signals.isCancelled_detach g t u s).trans hs
  · exact (Signals.isHeld_detach g t u s).trans hs

namespace World

variable {σ : Type} {b : Outside σ} {rounds : Nat} {action : Action} {w : World σ}

/-- No action takes back the cancellation of a signal that it respects. What is left
    to the caller is `arrange`, for which this is the premise. -/
theorem lasting_perform (b : Outside σ) (rounds : Nat) {s : SignalId}
    (hrespects : action.Respects s) :
    (w.scene.signals.isCancelled s = true →
      (w.perform b rounds action).2.scene.signals.isCancelled s = true) ∧
    (w.scene.signals.isHeld s = true →
      (w.perform b rounds action).2.scene.signals.isHeld s = true) := by
  have hlasting : ∀ {g : Signals}, w.scene.signals.Lasting g →
      (w.scene.signals.isCancelled s = true → g.isCancelled s = true) ∧
        (w.scene.signals.isHeld s = true → g.isHeld s = true) :=
    fun h => ⟨h.cancelled s, h.held s⟩
  -- Operations respect all signals; the premise is needed for what callers do to signals.
  cases action with
  | consume => exact hlasting (lasting_consume b rounds w)
  | consumeWith signal => exact hlasting (lasting_consumeWith b rounds signal w)
  | get reference =>
      exact hlasting (later_run (fun _ v => later_call b _ v) rounds w).kept.lasting
  | ack reference options =>
      exact hlasting (later_run (fun _ v => later_call b _ v) rounds w).kept.lasting
  | produce message =>
      exact hlasting (later_run (later_produceAttempt b message) rounds w).kept.lasting
  | shutDown => exact hlasting (Signals.extends_cancel _ w.worker.shutdown).lasting
  | arrange change => exact hrespects w.scene.signals

/-! ## After a shutdown -/

/-- The worker was shut down. -/
structure Down (w : World σ) : Prop where
  held : w.scene.signals.isHeld w.worker.shutdown = true
  cancelled : w.scene.signals.isCancelled w.worker.shutdown = true

/-- Whatever is done with a worker, it is down once it was shut down. The shutdown
    may lie before the actions or be one of them. -/
theorem down_performAll (b : Outside σ) (actions : List (Nat × Action))
    (hrespects : ∀ x ∈ actions, x.2.Respects w.worker.shutdown)
    (held : w.scene.signals.isHeld w.worker.shutdown = true)
    (hshut : w.scene.signals.isCancelled w.worker.shutdown = true ∨
      ∃ rounds, (rounds, Action.shutDown) ∈ actions) : (w.performAll b actions).2.Down := by
  -- By induction on the actions: the shutdown lies behind, or is one of those to come.
  induction actions generalizing w with
  | nil =>
      rcases hshut with hcancelled | ⟨rounds, hmem⟩
      · exact ⟨held, hcancelled⟩
      · exact absurd hmem List.not_mem_nil
  | cons first rest ih =>
      rcases first with ⟨rounds, action⟩
      have hsame := (config_perform b rounds action w).2
      have hlasting := lasting_perform (w := w) b rounds (hrespects _ (.head _))
      refine ih (w := (w.perform b rounds action).2) (fun x hx => ?_) ?_ ?_
      · rw [hsame]
        exact hrespects x (.tail _ hx)
      · rw [hsame]
        exact hlasting.2 held
      · rw [hsame]
        rcases hshut with hcancelled | ⟨rounds', hmem⟩
        · exact .inl (hlasting.1 hcancelled)
        · rcases List.mem_cons.mp hmem with heq | hmem
          · obtain ⟨rfl, rfl⟩ := Prod.mk.inj heq
            exact .inl (Signals.isCancelled_cancel held)
          · exact .inr ⟨rounds', hmem⟩

/-- A worker holds its own signal from the beginning. -/
theorem held_launch {config : Config} {scene : Scene} {outside : σ} {w₀ : World σ}
    (b : Outside σ) (h : prepare config scene outside = .ok w₀) :
    (w₀.launch b).2.scene.signals.isHeld (w₀.launch b).2.worker.shutdown = true := by
  have hheld : w₀.scene.signals.isHeld w₀.worker.shutdown = true := by
    rw [prepare] at h
    cases he : Endpoints.of config.endpoints with
    | error e =>
        rw [he] at h
        simp only [reduceCtorEq] at h
    | ok endpoints =>
        rw [he] at h
        obtain rfl := Except.ok.inj h
        exact Signals.isHeld_fresh_self scene.signals
  -- Connecting takes time, and the signal is held all the while.
  have hlater : w₀.scene.Later (w₀.launch b).2.scene := by
    have hconnect := later_connect b w₀
    rw [launch]
    rcases hc : w₀.connect b with ⟨_ | _, w₁⟩ <;> rw [hc] at hconnect <;> exact hconnect
  rw [(kept_launch b w₀).shutdown_eq]
  exact hlater.kept.held _ hheld

/-! ## Operations -/

/-- An operation heeds the cancellation of a signal: for the attempts that it made
    it is final, unless the operation is a claim for which there is no place. -/
def Heeds (b : Outside σ) (rounds : Nat) (action : Action) (w : World σ) (u : SignalId) : Prop :=
  ∃ outcome, (w.perform b rounds action).1.outcome? = some outcome ∧
    w.Made b rounds action (w.attempts b rounds action) outcome (w.perform b rounds action).2 ∧
    (Retry.Final u (w.attempts b rounds action) outcome ∨
      action.isClaim = true ∧ w.worker.reserve? = none ∧ w.attempts b rounds action = [] ∧
        ∃ max, outcome = .finished (.error (.intakeExhausted max)))

/-- An operation is refused at once: it attempts nothing and asks nothing of
    anybody, and it reports that it was cancelled or that there is no place. -/
structure Refused (b : Outside σ) (rounds : Nat) (action : Action) (w : World σ) : Prop where
  idle : w.attempts b rounds action = []
  quiet : (w.perform b rounds action).2.trace = w.trace ∨
    ∃ operation, (w.perform b rounds action).2.trace = .start operation :: w.trace
  reported : (w.perform b rounds action).1.outcome? = some (.finished (.error .cancelled)) ∨
    action.isClaim = true ∧ w.worker.reserve? = none ∧ ∃ max,
      (w.perform b rounds action).1.outcome? = some (.finished (.error (.intakeExhausted max)))

/-- What observes a signal is an operation, and so ends in some way. -/
theorem outcome?_of_observed {s : SignalId} (h : s ∈ action.observed w) (b : Outside σ)
    (rounds : Nat) : ∃ outcome, (w.perform b rounds action).1.outcome? = some outcome := by
  cases action with
  | consume | consumeWith | get | ack | produce => exact ⟨_, rfl⟩
  | shutDown | arrange => exact absurd h List.not_mem_nil

theorem deadline?_of_claim {deadline : Option Moment} (h : action.deadline? w = some deadline)
    (claim : action.isClaim = true) : w.deadline? ≠ none := by
  rw [Action.deadline?, if_pos claim] at h
  rw [h]
  exact Option.some_ne_none deadline

/-- Cancellation is final for operations. The signal that is cancelled need not be
    one that the operation observes, as long as it leads to one. -/
theorem heeds_of_observed {u s : SignalId} {deadline : Option Moment}
    (hdeadline : action.deadline? w = some deadline) (hobserved : s ∈ action.observed w)
    (held : w.scene.signals.isHeld s = true)
    (chain : Relation.ReflTransGen w.scene.signals.Leads u s)
    (hcancelled :
      (w.perform b (rounds + 1) action).2.scene.signals.isCancelled u = true) :
    w.Heeds b (rounds + 1) action u := by
  rcases outcome?_of_observed hobserved b (rounds + 1) with ⟨outcome, houtcome⟩
  refine ⟨outcome, houtcome, made_perform houtcome, ?_⟩
  cases performed_perform houtcome with
  | looped l found shown =>
      have hbegun := begun_of_loop? found
      have hran := Retry.ran_run b (rounds + 1) l.scope l.attempt l.start
      rw [shown.cancelled_eq] at hcancelled
      rw [attempts_eq found, shown.outcome_eq]
      -- From the signal to the one that is observed, and from there to that of the loop.
      exact .inl (hran.final hbegun.lasts
        ((hbegun.later.kept.chain chain).trans (hbegun.heard s hobserved held)) hcancelled)
  | full claims found taken outcome_eq =>
      exact .inr ⟨claims, taken, attempts_eq_nil found, outcome_eq⟩
  | timeless claims found late => exact absurd late (deadline?_of_claim hdeadline claims)

/-- A worker that is down refuses its operations. They do not even connect, since
    their loops end before the first attempt. -/
theorem refused_of_down {deadline : Option Moment} (hdown : w.Down)
    (hdeadline : action.deadline? w = some deadline)
    (hobserved : w.worker.shutdown ∈ action.observed w) : w.Refused b (rounds + 1) action := by
  rcases outcome?_of_observed hobserved b (rounds + 1) with ⟨outcome, houtcome⟩
  cases performed_perform houtcome with
  | looped l found shown =>
      have hbegun := begun_of_loop? found
      have hran := Retry.ran_run b (rounds + 1) l.scope l.attempt l.start
      have hsignal : l.start.scene.signals.isCancelled l.scope.signal = true :=
        Signals.isCancelled_of_chain (hbegun.heard _ hobserved hdown.held)
          (hbegun.later.kept.cancelled _ hdown.cancelled)
      rcases hran.nothing hsignal with ⟨htries, hresult⟩
      refine ⟨(attempts_eq found).trans htries, .inr ⟨l.scope.operation, ?_⟩, .inl ?_⟩
      · rw [shown.trace_eq, Loop.run, hresult, ← hbegun.trace_eq]
        rfl
      · rw [houtcome, shown.outcome_eq, Loop.run, hresult]
        rfl
  | full claims found taken outcome_eq trace_eq =>
      rcases outcome_eq with ⟨max, rfl⟩
      exact ⟨attempts_eq_nil found, .inl trace_eq, .inr ⟨claims, taken, max, houtcome⟩⟩
  | timeless claims found late => exact absurd late (deadline?_of_claim hdeadline claims)

/-- An operation heeds the cancellation of every signal that leads to one that it
    observes, whenever it comes. And once a worker was shut down, it refuses all
    operations, whatever was done with it before and since. -/
theorem cancellation_final (b : Outside σ) (rounds : Nat) (action : Action) :
    (∀ (w : World σ) (u s : SignalId) (deadline : Option Moment),
      action.deadline? w = some deadline → s ∈ action.observed w →
      w.scene.signals.isHeld s = true → Relation.ReflTransGen w.scene.signals.Leads u s →
      (w.perform b (rounds + 1) action).2.scene.signals.isCancelled u = true →
      w.Heeds b (rounds + 1) action u) ∧
    ∀ (config : Config) (scene : Scene) (outside : σ) (w₀ w v : World σ)
      (actions : List (Nat × Action)) (deadline : Option Moment),
      prepare config scene outside = .ok w₀ → w₀.launch b = (.ok (), w) →
      (∀ x ∈ actions, x.2.Respects w.worker.shutdown) →
      (∃ rounds, (rounds, Action.shutDown) ∈ actions) → (w.performAll b actions).2 = v →
      action.deadline? v = some deadline → v.worker.shutdown ∈ action.observed v →
      v.Refused b (rounds + 1) action := by
  refine ⟨fun w u s deadline => heeds_of_observed, ?_⟩
  intro config scene outside w₀ w v actions deadline hprepare hlaunch hrespects hshut hend
  have hheld := held_launch b hprepare
  rw [hlaunch] at hheld
  have hdown := down_performAll b actions hrespects hheld (.inr hshut)
  rw [hend] at hdown
  exact refused_of_down hdown

/-- A claim during which its worker is shut down, and a fetch after another
    shutdown. -/
theorem cancellation_final_tardy : ∃ w₀ w,
    prepare .oneClaim ⟨0, .empty⟩ () = .ok w₀ ∧ w₀.launch .tardy = (.ok (), w) ∧
    w.Heeds .tardy 1 .consume 0 ∧
    (w.performAll .tardy [(1, .consume), (1, .shutDown)]).2.Refused .tardy 1
      (.get ⟨"a", "e", none⟩) := by
  refine ⟨_, _, rfl, rfl, ?_, ?_⟩
  · refine (cancellation_final .tardy 0 .consume).1 _ 0 0 none rfl (.head _) rfl .refl ?_
    change Signals.isCancelled (Signals.release (Signals.release (Signals.detach
      (Signals.detach (Signals.cancel _ 0) _ _) _ _) _) _) 0 = true
    rw [Signals.isCancelled_release, Signals.isCancelled_release, Signals.isCancelled_detach,
      Signals.isCancelled_detach]
    exact Signals.isCancelled_cancel rfl
  · refine (cancellation_final .tardy 0 _).2 .oneClaim ⟨0, .empty⟩ () _ _ _
      [(1, .consume), (1, .shutDown)] none rfl rfl (fun x hx => ?_) ⟨1, .tail _ (.head _)⟩ rfl rfl
      (.head _)
    rcases List.mem_cons.mp hx with rfl | hx
    · trivial
    · obtain rfl := List.mem_singleton.mp hx
      trivial

end World

end EventFlow
