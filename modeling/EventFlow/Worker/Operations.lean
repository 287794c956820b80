import EventFlow.Worker.Retry

/-!
# The operations of a worker

Claiming, fetching, acknowledging and producing.

A claim observes two signals at once, that of its caller and that of the worker. For this it makes a
signal of its own, links both to it, and unlinks them when it comes back. Where the number of claims
is limited, a claim first takes one of the places that are left, and gives it back unless it
succeeds, so claims that run at the same time never take more than there are.

The other operations observe the signal of the worker, have no deadline, and are tried again after
every error. Producing reserves an identifier and submits under it; the two form one attempt, so an
identifier is submitted under by the attempt that it was reserved in and by no other, unless the
session hands it out once more.

## Main definitions

* `World.prepare`, `World.launch`: a worker, before and after its first connect.
* `World.consumeWith`, `World.consume`: claiming.
* `World.get`, `World.ack`, `World.produce`: fetching, acknowledging, producing.
-/

namespace EventFlow

/-! ## Places for claims -/

namespace Worker

/-- Takes a place for a claim, if one is left. -/
def reserve? (worker : Worker) : Option Worker :=
  match worker.config.maxIntake with
  | none => some worker
  | some max =>
    if worker.reserved < max.toNat then some { worker with reserved := worker.reserved + 1 }
    else none

/-- Places are taken up to the limit, so their number fits where the limit does. -/
theorem reserved_le_of_reserve? {worker taken : Worker} {max : UInt64}
    (h : worker.reserve? = some taken) (limited : worker.config.maxIntake = some max) :
    taken.reserved ≤ max.toNat := by
  simp only [reserve?, limited] at h
  split at h
  · obtain rfl := Option.some.inj h
    assumption
  · exact absurd h (by simp only [reduceCtorEq, not_false_eq_true])

/-- Gives the place of a claim back that did not succeed. -/
def release (worker : Worker) : Worker :=
  match worker.config.maxIntake with
  | none => worker
  | some _ => { worker with reserved := worker.reserved - 1 }

/-- Counts a claim that succeeded and keeps its place. -/
def commit (worker : Worker) : Worker :=
  { worker with intake := worker.intake + 1 }

end Worker

namespace World

variable {σ : Type}

/-! ## Beginning and end -/

/-- A worker that has not connected yet. -/
def prepare (config : Config) (scene : Scene) (outside : σ) : Except WorkerError (World σ) :=
  match Endpoints.of config.endpoints with
  | .error e => .error (.config (.endpoint e))
  | .ok endpoints =>
    let (shutdown, signals) := scene.signals.fresh
    let worker : Worker := ⟨config, endpoints, shutdown, none, 0, 0, 0⟩
    .ok ⟨worker, { scene with signals }, outside, []⟩

/-- The first connect of a worker, without which it does not begin. -/
def launch (b : Outside σ) (w : World σ) : Except WorkerError Unit × World σ :=
  match w.connect b with
  | (.error e, w) => (.error (.connect e), w)
  | (.ok _, w) => (.ok (), w)

/-- Cancels a signal. -/
def cancel (w : World σ) (s : SignalId) : World σ :=
  { w with scene := { w.scene with signals := w.scene.signals.cancel s } }

/-- Shuts the worker down. -/
def shutDown (w : World σ) : World σ :=
  w.cancel w.worker.shutdown

/-! ## Claiming -/

/-- What is left of the time until a deadline. -/
def budget (now : Moment) (deadline : Option Moment) : Option Span :=
  deadline.map fun deadline => Span.ofNanos (deadline - now)

/-- One attempt to claim. -/
def claimAttempt (b : Outside σ) (deadline : Option Moment) (_ : UInt32) (w : World σ) :
    Except SessionError Reference × World σ :=
  w.call b (.claim (budget w.scene.now deadline))

/-- A signal of the claim's own that follows both that of the caller and that of the worker. -/
def join (w : World σ) (signal : SignalId) : SignalId × World σ :=
  let (s, signals) := w.scene.signals.child signal
  -- If the worker is shut down already, this cancels the new signal at once.
  let signals := signals.attach w.worker.shutdown s
  (s, { w with scene := { w.scene with signals } })

/-- Lets a claim's own signal go when the claim is over, and unlinks it before if the claim comes
    back. -/
def part (w : World σ) (outcome : Outcome Reference) (signal s : SignalId) : World σ :=
  let signals := match outcome with
    -- A fault leaves the links where they are, to a signal that nobody holds any more.
    | .beyondClock => w.scene.signals
    | _ => (w.scene.signals.detach signal s).detach w.worker.shutdown s
  { w with scene := { w.scene with signals := signals.release s } }

/-- The deadline of a claim that begins now; nothing if the clock cannot show it. -/
def deadline? (w : World σ) : Option (Option Moment) :=
  match w.worker.config.consumeTimeout with
  | none => some none
  | some timeout => (Moment.add? w.scene.now timeout).map some

/-- What a claim runs under. -/
def claimScope (w : World σ) (signal : SignalId) (deadline : Option Moment) : Scope where
  operation := .consume
  retries := .onlyNoWork
  policy := w.worker.config.backoff
  signal := signal
  deadline := deadline

/-- Tries to claim, with a place for the claim taken. -/
def claim (b : Outside σ) (rounds : Nat) (signal : SignalId) (w : World σ) :
    Outcome Reference × World σ :=
  let (s, w) := w.join signal
  match w.deadline? with
  | none => (.beyondClock, w.part .beyondClock signal s)
  | some deadline =>
    let (outcome, w) :=
      Retry.run b rounds (w.claimScope s deadline) (claimAttempt b deadline) w
    (outcome, w.part outcome signal s)

/-- Keeps the place of a claim that succeeded and gives that of any other back. -/
def conclude (outcome : Outcome Reference) (w : World σ) : World σ :=
  match outcome with
  | .finished (.ok _) => { w with worker := w.worker.commit }
  | _ => { w with worker := w.worker.release }

/-- Claims the next unit of work, polling while there is none, until a signal or the worker's own is
    cancelled or the time for it is over. -/
def consumeWith (b : Outside σ) (rounds : Nat) (signal : SignalId) (w : World σ) :
    Outcome Reference × World σ :=
  match w.worker.reserve? with
  | none =>
    (.finished (.error (.intakeExhausted ((w.worker.config.maxIntake.map (·.toNat)).getD 0))), w)
  | some worker =>
    let (outcome, w) := claim b rounds signal { w with worker }
    (outcome, conclude outcome w)

/-- Claims the next unit of work, observing no signal but the worker's own. -/
def consume (b : Outside σ) (rounds : Nat) (w : World σ) : Outcome Reference × World σ :=
  let (s, signals) := w.scene.signals.fresh
  let (outcome, w) := consumeWith b rounds s { w with scene := { w.scene with signals } }
  (outcome, { w with scene := { w.scene with signals := w.scene.signals.release s } })

/-! ## Fetching, acknowledging, producing -/

/-- What an operation runs under that is tried again after every error. -/
def scope (w : World σ) (operation : Operation) : Scope where
  operation := operation
  retries := .allErrors
  policy := w.worker.config.backoff
  signal := w.worker.shutdown
  deadline := none

/-- Fetches the event behind a reference. -/
def get (b : Outside σ) (rounds : Nat) (reference : Reference) (w : World σ) :
    Outcome Message × World σ :=
  Retry.run b rounds (w.scope .get) (fun _ w => w.call b (.fetch reference.eventId)) w

/-- Settles a claimed unit of work. -/
def ack (b : Outside σ) (rounds : Nat) (reference : Reference) (options : List AckOption)
    (w : World σ) : Outcome Unit × World σ :=
  let acknowledgment := Acknowledgment.ofOptions options
  Retry.run b rounds (w.scope .ack)
    (fun _ w => w.call b (.acknowledge reference.ackId acknowledgment)) w

/-- One attempt to produce: an identifier is reserved, and the message submitted under it. -/
def produceAttempt (b : Outside σ) (message : Message) (_ : UInt32) (w : World σ) :
    Except SessionError EventId × World σ :=
  match w.call b .reserve with
  | (.error e, w) => (.error e, w)
  | (.ok eventId, w) =>
    -- If this fails, the next attempt reserves again. That it is given another identifier then is
    -- the session's affair.
    match w.call b (.submit eventId message) with
    | (.error e, w) => (.error e, w)
    | (.ok (), w) => (.ok eventId, w)

/-- Publishes a new event. -/
def produce (b : Outside σ) (rounds : Nat) (message : Message) (w : World σ) :
    Outcome EventId × World σ :=
  Retry.run b rounds (w.scope .produce) (produceAttempt b message) w

end World

end EventFlow
