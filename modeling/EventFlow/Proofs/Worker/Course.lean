import EventFlow.Proofs.Worker.Attempts
import EventFlow.Proofs.Worker.Intake

/-!
# The Loop inside an Operation

Every operation of a worker is one run of the retry loop with something around
it, and this module takes the two apart.

For fetching, acknowledging and producing there is nothing around the loop. A
claim has a place to take and to give back, a deadline to work out, and a
signal of its own to link and to unlink, and it may find that there is no
place, or that the clock cannot show the deadline. `loop?` is the loop that an
operation comes to, if it comes to one, together with the world in which that
loop begins.

`Performed` says how the two belong together: what an operation shows to its
caller is what its loop came to, and where it has no loop, nothing was done.
`Begun` says what the loop inherits from the world of the caller. The part
that takes some care is what a claim hears. It observes a signal of its own,
and a cancellation of one of the signals that it is to observe has to find its
way there, through links that the claim itself has made.

## Main definitions

* `Outcome.void`, `Result.outcome?`: How an operation ended.
* `Action.observed`, `Action.retries`, `Action.deadline?`: What an operation
  runs under.
* `Loop`: A loop, and the world in which it begins.
* `World.loop?`: The loop inside an operation.
* `World.attempts`: The attempts of an operation.
* `Loop.Begun`, `Loop.Shown`, `Performed`: How operation and loop belong
  together.
* `World.Made`: An operation made these attempts.

## Theorems

* `begun_of_loop?`: A loop begins with what its operation was given.
* `performed_perform`: An operation shows what its loop came to.
* `attempts_eq`: The attempts of an operation are those of its loop.
* `made_perform`: They are what the operation does.
* `config_performAll`: What no run changes.
-/

namespace EventFlow

/-- An outcome without the value of a success. The operations return values of
    different types, and what is said here of how they end is said of all of them at
    once. -/
def Outcome.void {α : Type} : Outcome α → Outcome Unit
  | .finished (.ok _) => .finished (.ok ())
  | .finished (.error e) => .finished (.error e)
  | .beyondClock => .beyondClock
  | .unfinished => .unfinished

theorem Outcome.error?_void {α : Type} (outcome : Outcome α) :
    outcome.void.error? = outcome.error? := by
  rcases outcome with (e | a) | _ | _ <;> rfl

theorem Outcome.source?_void {α : Type} (outcome : Outcome α) :
    outcome.void.source? = outcome.source? := by
  rw [source?, error?_void, source?]

theorem Outcome.ok_of_void {α : Type} {outcome : Outcome α}
    (h : outcome.void = .finished (.ok ())) : ∃ a, outcome = .finished (.ok a) := by
  -- Which outcome it was can still be seen without the value.
  rcases outcome with (e | a) | _ | _
  · exact absurd h nofun
  · exact ⟨a, rfl⟩
  · exact absurd h nofun
  · exact absurd h nofun

theorem Outcome.unfinished_of_void {α : Type} {outcome : Outcome α}
    (h : outcome.void = .unfinished) : outcome = .unfinished := by
  rcases outcome with (e | a) | _ | _
  · exact absurd h nofun
  · exact absurd h nofun
  · exact absurd h nofun
  · rfl

/-- How an operation ended; nothing for an action that is none. -/
def Result.outcome? : Result → Option (Outcome Unit)
  | .consumed outcome => some outcome.void
  | .fetched outcome => some outcome.void
  | .acknowledged outcome => some outcome.void
  | .produced outcome => some outcome.void
  | .done => none

namespace Action

/-- Whether an action is a claim. -/
def isClaim : Action → Bool
  | .consume => true
  | .consumeWith _ => true
  | _ => false

/-- The errors that an operation is tried again after. -/
def retries (action : Action) : RetryClass :=
  if action.isClaim then .onlyNoWork else .allErrors

variable {σ : Type}

/-- The signals that an operation observes. Each of them observes that of the
    worker; a claim that was given a signal observes that one as well. -/
def observed (w : World σ) : Action → List SignalId
  | .consumeWith signal => [signal, w.worker.shutdown]
  | .consume => [w.worker.shutdown]
  | .get _ => [w.worker.shutdown]
  | .ack _ _ => [w.worker.shutdown]
  | .produce _ => [w.worker.shutdown]
  | .shutDown => []
  | .arrange _ => []

/-- The deadline of an operation that begins now, if it is to have one; nothing if
    the clock cannot show it. Operations other than claims have none, whatever the
    settings say. -/
def deadline? (w : World σ) (action : Action) : Option (Option Moment) :=
  if action.isClaim then w.deadline? else some none

end Action

/-- A loop: what it runs under, what it attempts, and the world in which it begins.
    The type of its value is part of it, so that one statement serves all
    operations. -/
structure Loop (σ : Type) where
  Value : Type
  scope : Scope
  attempt : UInt32 → World σ → Except SessionError Value × World σ
  start : World σ

namespace Loop

variable {σ : Type}

/-- How a loop ends. -/
def run (b : Outside σ) (rounds : Nat) (l : Loop σ) : Outcome l.Value × World σ :=
  Retry.run b rounds l.scope l.attempt l.start

/-- The attempts that a loop makes. -/
def attempts (b : Outside σ) (rounds : Nat) (l : Loop σ) : List (Attempt σ) :=
  Retry.attempts b rounds l.scope l.attempt l.start

/-- The loop of an operation begins with what that was given in the world `w`. -/
structure Begun (l : Loop σ) (action : Action) (w : World σ) : Prop where
  trace_eq : l.start.trace = w.trace
  now_eq : l.start.scene.now = w.scene.now
  later : w.scene.Later l.start.scene
  policy_eq : l.scope.policy = w.worker.config.backoff
  retries_eq : l.scope.retries = action.retries
  deadline_eq : action.deadline? w = some l.scope.deadline
  lasts : ∀ (n : UInt32) (w : World σ), w.scene.Later (l.attempt n w).2.scene
  /-- A signal that the operation observes reaches that of the loop, if anybody
      holds it. -/
  heard : ∀ s ∈ action.observed w, w.scene.signals.isHeld s = true →
    Relation.ReflTransGen l.start.scene.signals.Leads s l.scope.signal

/-- The loop ended in this way, and the world that is shown afterwards is that of
    its end. Of the signals only their cancellation is shown: a claim still unlinks
    and lets go of its own one. -/
structure Shown (b : Outside σ) (rounds : Nat) (l : Loop σ) (outcome : Outcome Unit)
    (w : World σ) : Prop where
  outcome_eq : outcome = (l.run b rounds).1.void
  trace_eq : w.trace = (l.run b rounds).2.trace
  now_eq : w.scene.now = (l.run b rounds).2.scene.now
  cancelled_eq : ∀ s, w.scene.signals.isCancelled s =
    (l.run b rounds).2.scene.signals.isCancelled s

end Loop

namespace World

variable {σ : Type}

/-- The loop of a claim that has taken its place: it begins when the signal of the
    claim has been made and linked to those that it is to observe. -/
def claimLoop (b : Outside σ) (signal : SignalId) (taken : Worker) (deadline : Option Moment)
    (w : World σ) : Loop σ :=
  let (s, w) := World.join { w with worker := taken } signal
  ⟨Reference, w.claimScope s deadline, claimAttempt b deadline, w⟩

/-- The loop of a claim, unless there is no place for it, or the clock cannot show
    its deadline. These are the two ways in which a claim ends before its first
    attempt. -/
def claimLoop? (b : Outside σ) (signal : SignalId) (w : World σ) : Option (Loop σ) :=
  match w.worker.reserve? with
  | none => none
  | some taken => w.deadline?.map fun deadline => w.claimLoop b signal taken deadline

/-- The loop inside an operation, if it comes to one. -/
def loop? (b : Outside σ) (action : Action) (w : World σ) : Option (Loop σ) :=
  match action with
  | .consume =>
    let (s, signals) := w.scene.signals.fresh
    claimLoop? b s { w with scene := { w.scene with signals } }
  | .consumeWith signal => w.claimLoop? b signal
  | .get reference =>
    some ⟨Message, w.scope .get, fun _ w => w.call b (.fetch reference.eventId), w⟩
  | .ack reference options =>
    some ⟨Unit, w.scope .ack,
      fun _ w => w.call b (.acknowledge reference.ackId (.ofOptions options)), w⟩
  | .produce message => some ⟨EventId, w.scope .produce, produceAttempt b message, w⟩
  | .shutDown => none
  | .arrange _ => none

/-- The attempts that an operation makes, in order. An operation without a loop
    makes none; what ties them to what the operation does is `made_perform`. -/
def attempts (b : Outside σ) (rounds : Nat) (action : Action) (w : World σ) : List (Attempt σ) :=
  match w.loop? b action with
  | none => []
  | some l => l.attempts b rounds

end World

/-- What an operation does: it runs its loop, or it ends before that and then has
    asked nobody for anything. -/
inductive Performed {σ : Type} (b : Outside σ) (rounds : Nat) (action : Action) (w : World σ)
    (outcome : Outcome Unit) (w' : World σ) : Prop where
  /-- It shows what its loop came to. -/
  | looped (l : Loop σ) (found : w.loop? b action = some l)
      (shown : l.Shown b rounds outcome w')
  /-- It is a claim and there was no place for it. -/
  | full (claims : action.isClaim = true) (found : w.loop? b action = none)
      (taken : w.worker.reserve? = none)
      (outcome_eq : ∃ max, outcome = .finished (.error (.intakeExhausted max)))
      (trace_eq : w'.trace = w.trace) (now_eq : w'.scene.now = w.scene.now)
  /-- It is a claim and the clock cannot show its deadline. -/
  | timeless (claims : action.isClaim = true) (found : w.loop? b action = none)
      (late : w.deadline? = none) (outcome_eq : outcome = .beyondClock)
      (trace_eq : w'.trace = w.trace) (now_eq : w'.scene.now = w.scene.now)

namespace World

variable {σ : Type} {b : Outside σ} {rounds : Nat} {signal : SignalId} {w : World σ}

/-! ## The signal of a claim -/

theorem later_fresh (w : World σ) :
    w.scene.Later { w.scene with signals := w.scene.signals.fresh.2 } :=
  ⟨Nat.le_refl _, Signals.extends_fresh _⟩

/-- Making and linking a signal takes no time, and nothing that lasts is lost by it. -/
theorem later_join (w : World σ) (signal : SignalId) :
    w.scene.Later (w.join signal).2.scene :=
  ⟨Nat.le_refl _, ((Signals.extends_fresh _).trans (Signals.extends_attach _ _ _)).trans
    (Signals.extends_attach _ _ _)⟩

/-- A claim's own signal is cancelled by the caller's. -/
theorem leads_join_signal (h : w.scene.signals.isHeld signal = true) :
    (w.join signal).2.scene.signals.Leads signal (w.join signal).1 := by
  have hfresh := (Signals.extends_fresh w.scene.signals).held signal h
  have hleads := Signals.leads_attach (Signals.lt_size_of_isHeld hfresh)
    (Signals.isHeld_fresh_self w.scene.signals)
  -- The link from the worker's signal is made last, and this one has to survive it.
  exact (Signals.extends_attach _ _ _).leads _ _ hleads

/-- And by the worker's. Its link is made last, so it needs only that both signals
    are still held then. -/
theorem leads_join_shutdown (signal : SignalId)
    (h : w.scene.signals.isHeld w.worker.shutdown = true) :
    (w.join signal).2.scene.signals.Leads w.worker.shutdown (w.join signal).1 := by
  have hfresh := (Signals.extends_fresh w.scene.signals).held w.worker.shutdown h
  have hchild := Signals.extends_attach w.scene.signals.fresh.2 signal w.scene.signals.size
  exact Signals.leads_attach (Signals.lt_size_of_isHeld (hchild.held _ hfresh))
    (hchild.held _ (Signals.isHeld_fresh_self w.scene.signals))

/-- Whichever way a claim ends, what it does to the signals then cancels none of
    them. This is why the end of its loop tells what its caller will find cancelled. -/
theorem isCancelled_part (w : World σ) (outcome : Outcome Reference) (signal s t : SignalId) :
    (w.part outcome signal s).scene.signals.isCancelled t = w.scene.signals.isCancelled t := by
  -- The links stay where the clock has come to its end, and the signal is dropped in any case.
  rcases outcome with _ | _ | _
  · change Signals.isCancelled (Signals.release _ s) t = _
    rw [Signals.isCancelled_release, Signals.isCancelled_detach, Signals.isCancelled_detach]
  · exact Signals.isCancelled_release _ s t
  · change Signals.isCancelled (Signals.release _ s) t = _
    rw [Signals.isCancelled_release, Signals.isCancelled_detach, Signals.isCancelled_detach]

/-! ## The loop of a claim -/

theorem config_of_reserve? {worker taken : Worker} (h : worker.reserve? = some taken) :
    taken.config = worker.config ∧ taken.shutdown = worker.shutdown := by
  rcases Worker.eq_of_reserve? h with ⟨n, rfl⟩
  exact ⟨rfl, rfl⟩

/-- Taking a place and linking a signal leave the time and the settings alone, so
    the deadline that a claim works out afterwards is that of its caller. -/
theorem deadline?_join {taken : Worker} (h : w.worker.reserve? = some taken)
    (signal : SignalId) :
    (World.join { w with worker := taken } signal).2.deadline? = w.deadline? := by
  simp only [join, deadline?, (config_of_reserve? h).1]

/-- The loop of a claim begins with what the claim was given: no time has passed,
    nothing was asked of anybody, and both signals lead to its own. -/
theorem begun_of_claimLoop? {l : Loop σ} (h : w.claimLoop? b signal = some l) :
    l.Begun (.consumeWith signal) w := by
  rw [claimLoop?] at h
  -- A loop was found, so there was a place, and the clock could show the deadline.
  cases hr : w.worker.reserve? with
  | none => simp only [hr, reduceCtorEq] at h
  | some taken =>
      simp only [hr] at h
      cases hd : w.deadline? with
      | none => simp only [hd, Option.map_none, reduceCtorEq] at h
      | some deadline =>
          simp only [hd, Option.map_some, Option.some.injEq] at h
          subst h
          refine ⟨rfl, rfl, later_join { w with worker := taken } signal, ?_, rfl, hd,
            fun n v => later_call b _ v, ?_⟩
          · exact congrArg Config.backoff (config_of_reserve? hr).1
          · -- Taking a place leaves the worker its signal, so there are two to link.
            intro s hs held
            have hshutdown := (config_of_reserve? hr).2
            rcases List.mem_cons.mp hs with rfl | hs
            · exact .single (leads_join_signal (w := { w with worker := taken }) held)
            · obtain rfl := List.mem_singleton.mp hs
              refine .single ?_
              rw [← hshutdown] at held ⊢
              exact leads_join_shutdown (w := { w with worker := taken }) signal held

@[simp] theorem scene_conclude (outcome : Outcome Reference) (w : World σ) :
    (conclude outcome w).scene = w.scene := by
  rcases outcome with (e | a) | _ | _ <;> rfl

/-- A claim either finds no place, or has no deadline that the clock could show, or
    shows what its loop came to. -/
theorem performed_consumeWith (b : Outside σ) (rounds : Nat) (signal : SignalId) (w : World σ) :
    Performed b rounds (.consumeWith signal) w (w.consumeWith b rounds signal).1.void
      (w.consumeWith b rounds signal).2 := by
  cases hr : w.worker.reserve? with
  | none =>
      rw [consumeWith, hr]
      exact .full rfl (by rw [loop?, claimLoop?, hr]) hr ⟨_, rfl⟩ rfl rfl
  | some taken =>
      rw [consumeWith, hr]
      simp only
      cases hd : w.deadline? with
      | none =>
          rw [claim]
          simp only [deadline?_join hr, hd]
          refine .timeless rfl ?_ hd rfl rfl rfl
          simp only [loop?, claimLoop?, hr, hd, Option.map_none]
      | some deadline =>
          have hloop : w.claimLoop? b signal = some (w.claimLoop b signal taken deadline) := by
            simp only [claimLoop?, hr, hd, Option.map_some]
          rw [claim]
          simp only [deadline?_join hr, hd]
          -- Giving the place back and unlinking come after the loop and show in none of these.
          refine .looped _ hloop ⟨rfl, ?_, ?_, fun s => ?_⟩
          · rw [trace_conclude]
            rfl
          · rw [scene_conclude]
            rfl
          · rw [scene_conclude, isCancelled_part]
            rfl

/-! ## Claims that nobody else can cancel -/

/-- The world with one more signal. -/
def withSignal (w : World σ) : World σ :=
  { w with scene := { w.scene with signals := w.scene.signals.fresh.2 } }

/-- A claim that was given no signal makes one that it is given then, and which
    nobody else can cancel. It observes that one too, but it is not among those that
    its caller knows of. -/
theorem begun_of_withSignal {l : Loop σ}
    (h : l.Begun (.consumeWith w.scene.signals.size) w.withSignal) : l.Begun .consume w where
  trace_eq := h.trace_eq
  now_eq := h.now_eq
  later := (later_fresh w).trans h.later
  policy_eq := h.policy_eq
  retries_eq := h.retries_eq
  deadline_eq := h.deadline_eq
  lasts := h.lasts
  heard := fun s hs held =>
    h.heard s (.tail _ hs) ((Signals.extends_fresh w.scene.signals).held s held)

/-- A claim without a signal of its caller does what one does that was given a new
    one. -/
theorem performed_consume (b : Outside σ) (rounds : Nat) (w : World σ) :
    Performed b rounds .consume w (w.consume b rounds).1.void (w.consume b rounds).2 := by
  have h := performed_consumeWith b rounds w.scene.signals.size w.withSignal
  cases h with
  | looped l found shown =>
      -- Letting go of its signal is all that it does afterwards.
      refine .looped l found ⟨shown.outcome_eq, shown.trace_eq, shown.now_eq, fun s => ?_⟩
      exact (Signals.isCancelled_release _ _ s).trans (shown.cancelled_eq s)
  | full claims found taken outcome_eq trace_eq now_eq =>
      exact .full rfl found taken outcome_eq trace_eq now_eq
  | timeless claims found late outcome_eq trace_eq now_eq =>
      exact .timeless rfl found late outcome_eq trace_eq now_eq

/-! ## All operations -/

/-- An operation with nothing around its loop. -/
theorem begun_plain {action : Action} {α : Type} (operation : Operation)
    {attempt : UInt32 → World σ → Except SessionError α × World σ} (hclaim : action.isClaim = false)
    (hobserved : action.observed w = [w.worker.shutdown])
    (lasts : ∀ (n : UInt32) (w : World σ), w.scene.Later (attempt n w).2.scene) :
    Loop.Begun ⟨α, w.scope operation, attempt, w⟩ action w where
  trace_eq := rfl
  now_eq := rfl
  later := .refl w.scene
  policy_eq := rfl
  retries_eq := by
    rw [Action.retries, hclaim]
    rfl
  deadline_eq := by
    rw [Action.deadline?, hclaim]
    rfl
  lasts := lasts
  heard := fun s hs _ => by
    rw [hobserved] at hs
    obtain rfl := List.mem_singleton.mp hs
    exact .refl

/-- A loop begins with what its operation was given. Whatever is to be said of the
    operation from then on can be said of its loop alone. -/
theorem begun_of_loop? {action : Action} {l : Loop σ} (h : w.loop? b action = some l) :
    l.Begun action w := by
  -- The two claims were dealt with above; the others have nothing around their loops.
  cases action with
  | consume => exact begun_of_withSignal (begun_of_claimLoop? h)
  | consumeWith signal => exact begun_of_claimLoop? h
  | get reference =>
      obtain rfl := Option.some.inj h
      exact begun_plain .get rfl rfl fun n v => later_call b _ v
  | ack reference options =>
      obtain rfl := Option.some.inj h
      exact begun_plain .ack rfl rfl fun n v => later_call b _ v
  | produce message =>
      obtain rfl := Option.some.inj h
      exact begun_plain .produce rfl rfl (later_produceAttempt b message)
  | shutDown | arrange => simp only [loop?, reduceCtorEq] at h

/-- An operation shows what its loop came to, and does nothing if it comes to
    none. -/
theorem performed_perform {action : Action} {outcome : Outcome Unit}
    (h : (w.perform b rounds action).1.outcome? = some outcome) :
    Performed b rounds action w outcome (w.perform b rounds action).2 := by
  -- Where there is nothing around a loop, operation and loop are the same by definition.
  cases action with
  | consume =>
      obtain rfl := Option.some.inj h
      exact performed_consume b rounds w
  | consumeWith signal =>
      obtain rfl := Option.some.inj h
      exact performed_consumeWith b rounds signal w
  | get reference =>
      obtain rfl := Option.some.inj h
      exact .looped _ rfl ⟨rfl, rfl, rfl, fun _ => rfl⟩
  | ack reference options =>
      obtain rfl := Option.some.inj h
      exact .looped _ rfl ⟨rfl, rfl, rfl, fun _ => rfl⟩
  | produce message =>
      obtain rfl := Option.some.inj h
      exact .looped _ rfl ⟨rfl, rfl, rfl, fun _ => rfl⟩
  | shutDown | arrange => simp only [perform, Result.outcome?, reduceCtorEq] at h

theorem attempts_eq {action : Action} {l : Loop σ} (h : w.loop? b action = some l) :
    w.attempts b rounds action = l.attempts b rounds := by
  rw [attempts, h]

/-- Without a loop there are no attempts. -/
theorem attempts_eq_nil {action : Action} (h : w.loop? b action = none) :
    w.attempts b rounds action = [] := by
  rw [attempts, h]

/-- An operation that ended in this way made these attempts and no others. They
    are those of a run of the loop inside it, which goes from the first round to the
    end that the operation shows; each of them is a call of what the operation
    attempts, and between them there is nothing but waiting. Without a loop there
    are none, and the operation has done nothing that the trace would show. -/
inductive Made (b : Outside σ) (rounds : Nat) (action : Action) (w : World σ)
    (tries : List (Attempt σ)) (outcome : Outcome Unit) (w' : World σ) : Prop where
  | looped (l : Loop σ) (found : w.loop? b action = some l) (begun : l.Begun action w)
      (ran : Retry.Ran b l.scope l.attempt rounds (Retry.firstRound l.scope l.start)
        (l.start.record (.start l.scope.operation)) tries (l.run b rounds))
      (shown : l.Shown b rounds outcome w')
  | nothing (found : w.loop? b action = none) (none_made : tries = [])
      (trace_eq : w'.trace = w.trace)

/-- What `attempts` lists is what the operation does. -/
theorem made_perform {action : Action} {outcome : Outcome Unit}
    (h : (w.perform b rounds action).1.outcome? = some outcome) :
    w.Made b rounds action (w.attempts b rounds action) outcome
      (w.perform b rounds action).2 := by
  -- With a loop the attempts are tied to it by `ran_run`; without one there is nothing to tie.
  cases performed_perform h with
  | looped l found shown =>
      rw [attempts_eq found]
      exact .looped l found (begun_of_loop? found)
        (Retry.ran_run b rounds l.scope l.attempt l.start) shown
  | full _ found _ _ trace_eq => exact .nothing found (attempts_eq_nil found) trace_eq
  | timeless _ found _ _ trace_eq => exact .nothing found (attempts_eq_nil found) trace_eq

/-! ## What a claim returns -/

/-- A claim returns what its loop came to, and that is a loop of single calls. -/
structure Claims (b : Outside σ) (rounds : Nat) (l : Loop σ) (w : World σ)
    (performed : Result × World σ) (scope : Scope) (deadline : Option Moment) (start : World σ) :
    Prop where
  loop_eq : l = ⟨Reference, scope, claimAttempt b deadline, start⟩
  operation_eq : scope.operation = .consume
  endpoints_eq : start.worker.endpoints = w.worker.endpoints
  outside_eq : start.outside = w.outside
  result_eq : performed.1 =
    .consumed (Retry.run b rounds scope (claimAttempt b deadline) start).1
  after_eq : performed.2.outside =
    (Retry.run b rounds scope (claimAttempt b deadline) start).2.outside

theorem outside_conclude (outcome : Outcome Reference) (w : World σ) :
    (conclude outcome w).outside = w.outside := by
  rcases outcome with (e | a) | _ | _ <;> rfl

/-- A claim that comes to its loop returns what the loop returns. The place that it
    took shows neither in the rotation nor in what the backends have heard. -/
theorem claims_of_claimLoop? (rounds : Nat) {l : Loop σ} (h : w.claimLoop? b signal = some l) :
    ∃ scope deadline start, Claims b rounds l w (w.perform b rounds (.consumeWith signal)) scope
      deadline start := by
  rw [claimLoop?] at h
  cases hr : w.worker.reserve? with
  | none => simp only [hr, reduceCtorEq] at h
  | some taken =>
      simp only [hr] at h
      cases hd : w.deadline? with
      | none => simp only [hd, Option.map_none, reduceCtorEq] at h
      | some deadline =>
          simp only [hd, Option.map_some, Option.some.injEq] at h
          -- What a claim does, written out with the one loop that it has.
          have hperform : w.perform b rounds (.consumeWith signal) =
              (.consumed ((w.claimLoop b signal taken deadline).run b rounds).1,
                conclude ((w.claimLoop b signal taken deadline).run b rounds).1
                  (((w.claimLoop b signal taken deadline).run b rounds).2.part
                    ((w.claimLoop b signal taken deadline).run b rounds).1 signal
                    (World.join { w with worker := taken } signal).1)) := by
            rw [perform, consumeWith, hr]
            simp only [claim, deadline?_join hr, hd]
            rfl
          rw [hperform]
          rcases Worker.eq_of_reserve? hr with ⟨n, rfl⟩
          exact ⟨_, deadline, _, h.symm, rfl, rfl, rfl, rfl, outside_conclude _ _⟩

/-- Either claim returns what its loop came to. -/
theorem claims_of_loop? {action : Action} {l : Loop σ} (claim : action.isClaim = true)
    (h : w.loop? b action = some l) :
    ∃ scope deadline start,
      Claims b rounds l w (w.perform b rounds action) scope deadline start := by
  cases action with
  | consume =>
      rcases @claims_of_claimLoop? σ b _ w.withSignal rounds l h with
        ⟨scope, deadline, start, hl, hoperation, hendpoints, houtside, hresult, hafter⟩
      exact ⟨scope, deadline, start, hl, hoperation, hendpoints, houtside, hresult, hafter⟩
  | consumeWith signal => exact claims_of_claimLoop? rounds h
  | get | ack | produce | shutDown | arrange => exact absurd claim Bool.false_ne_true

/-! ## What no action changes -/

theorem config_conclude (outcome : Outcome Reference) (w : World σ) :
    (conclude outcome w).worker.config = w.worker.config ∧
      (conclude outcome w).worker.shutdown = w.worker.shutdown := by
  have hrelease : w.worker.release.config = w.worker.config ∧
      w.worker.release.shutdown = w.worker.shutdown := by
    rw [Worker.release]
    cases w.worker.config.maxIntake <;> exact ⟨rfl, rfl⟩
  rcases outcome with (e | a) | _ | _
  · exact hrelease
  · exact ⟨rfl, rfl⟩
  · exact hrelease
  · exact hrelease

/-- A claim gives a worker neither another configuration nor another signal: it
    counts places, and that is all that it changes of the worker but the session and
    the rotation. -/
theorem config_consumeWith (b : Outside σ) (rounds : Nat) (signal : SignalId) (w : World σ) :
    (w.consumeWith b rounds signal).2.worker.config = w.worker.config ∧
      (w.consumeWith b rounds signal).2.worker.shutdown = w.worker.shutdown := by
  rw [consumeWith]
  cases hr : w.worker.reserve? with
  | none => exact ⟨rfl, rfl⟩
  | some taken =>
      have hreserve := config_of_reserve? hr
      -- The place is taken, the loop runs, and the place is given back if nothing was claimed.
      have hkept := kept_claim b rounds signal { w with worker := taken }
      have hconclude := config_conclude (claim b rounds signal { w with worker := taken }).1
        (claim b rounds signal { w with worker := taken }).2
      exact ⟨hconclude.1.trans (hkept.config_eq.trans hreserve.1),
        hconclude.2.trans (hkept.shutdown_eq.trans hreserve.2)⟩

/-- No action gives a worker another configuration or another signal. -/
theorem config_perform (b : Outside σ) (rounds : Nat) (action : Action) (w : World σ) :
    (w.perform b rounds action).2.worker.config = w.worker.config ∧
      (w.perform b rounds action).2.worker.shutdown = w.worker.shutdown := by
  have hkept : ∀ {w' : World σ}, Worker.Kept w.worker w'.worker →
      w'.worker.config = w.worker.config ∧ w'.worker.shutdown = w.worker.shutdown :=
    fun h => ⟨h.config_eq, h.shutdown_eq⟩
  cases action with
  | consume => exact config_consumeWith b rounds _ w.withSignal
  | consumeWith signal => exact config_consumeWith b rounds signal w
  | get reference => exact hkept (kept_get b rounds reference w)
  | ack reference options => exact hkept (kept_ack b rounds reference options w)
  | produce message => exact hkept (kept_produce b rounds message w)
  | shutDown | arrange => exact ⟨rfl, rfl⟩

/-- Nor does a run, so whatever was set when the worker was made holds for the last
    of its operations. -/
theorem config_performAll (b : Outside σ) (actions : List (Nat × Action)) (w : World σ) :
    (w.performAll b actions).2.worker.config = w.worker.config ∧
      (w.performAll b actions).2.worker.shutdown = w.worker.shutdown := by
  induction actions generalizing w with
  | nil => exact ⟨rfl, rfl⟩
  | cons first rest ih =>
      rcases first with ⟨rounds, action⟩
      have hfirst := config_perform b rounds action w
      have hrest := ih (w.perform b rounds action).2
      exact ⟨hrest.1.trans hfirst.1, hrest.2.trans hfirst.2⟩

end World

end EventFlow
