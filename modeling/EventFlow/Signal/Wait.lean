import EventFlow.Signal

/-!
# Waiting

How a wait for a span goes when signals may be cancelled meanwhile.

What others do during a wait, or during any other thing that takes time, is a list of happenings:
time passes, and then some signals are cancelled. A wait ends at the first moment at which its
signal is found cancelled, or else at its deadline, or else when its span is over; happenings that
would come later are not its business.

## Main definitions

* `Happening`: some time, and the signals that are cancelled after it.
* `Scene`: the clock and the signals.
* `Scene.pass`: happenings one after the other.
* `Scene.sleep?`: a wait.
-/

namespace EventFlow

/-- Some time passes, and then signals are cancelled. -/
structure Happening where
  /-- The nanoseconds that pass. -/
  elapsed : Nat
  /-- The signals that are cancelled then. -/
  cancelled : List SignalId
  deriving DecidableEq, Repr, Inhabited

/-- The clock and the signals. -/
structure Scene where
  now : Moment
  signals : Signals
  deriving DecidableEq, Repr, Inhabited

namespace Scene

/-- Lets a happening take place. -/
def happen (scene : Scene) (h : Happening) : Scene :=
  ⟨scene.now + h.elapsed, scene.signals.cancelAll h.cancelled⟩

/-- Lets happenings take place one after the other. -/
def pass (scene : Scene) (happenings : List Happening) : Scene :=
  happenings.foldl happen scene

/-- Why an operation that observes a signal has to stop now, if it has to. -/
def check (scene : Scene) (s : SignalId) (deadline : Option Moment) : Option Signals.Interrupt :=
  scene.signals.check s scene.now deadline

/-- The earlier of a moment and a deadline. -/
def limit (wake : Moment) : Option Moment → Moment
  | some deadline => min wake deadline
  | none => wake

/-- A wait until `wake`, and the reason if it ends early. -/
def sleepUntil (s : SignalId) (wake : Moment) (deadline : Option Moment) (scene : Scene) :
    List Happening → Option Signals.Interrupt × Scene
  | [] =>
    match scene.check s deadline with
    | some interrupt => (some interrupt, scene)
    | none =>
      let later : Scene := ⟨max scene.now (limit wake deadline), scene.signals⟩
      (later.check s deadline, later)
  | h :: happenings =>
    match scene.check s deadline with
    | some interrupt => (some interrupt, scene)
    | none =>
      if wake ≤ scene.now then (none, scene)
      -- The happening comes too late to be noticed.
      else if limit wake deadline < scene.now + h.elapsed then
        let later : Scene := ⟨limit wake deadline, scene.signals⟩
        (later.check s deadline, later)
      else sleepUntil s wake deadline (scene.happen h) happenings

/-- A wait for a span, and the reason if it ends early; nothing if the clock cannot show the end of
    the span. -/
def sleep? (s : SignalId) (interval : Span) (deadline : Option Moment) (scene : Scene)
    (happenings : List Happening) : Option (Option Signals.Interrupt × Scene) :=
  (Moment.add? scene.now interval).map fun wake =>
    sleepUntil s wake deadline scene happenings

theorem check_of_isCancelled {scene : Scene} {s : SignalId}
    (h : scene.signals.isCancelled s = true) (deadline : Option Moment) :
    scene.check s deadline = some .cancelled :=
  Signals.check_of_isCancelled h _ _

end Scene

end EventFlow
