import EventFlow.Span

/-!
# Cancellation signals

Flags that can be set once, and that pass their being set on to others.

A signal is linked to the signals it passes cancellation on to. Links may form cycles, meet again,
lead back to where they started and occur twice. They do not keep a signal alive: one that nobody
holds any more is gone, receives nothing and passes nothing on.

A cancelled signal gives up its links when it is marked, so every signal is marked and followed at
most once, and delivering a cancellation ends however the links run.

## Main definitions

* `Signals`: all signals that were ever made.
* `Signals.cancel`, `Signals.attach`, `Signals.detach`: what can be done to them.
* `Signals.deliver`: cancellation passed along a list of links.
* `Signals.check`, `Signals.Interrupt`: whether an operation has to stop.
-/

namespace EventFlow

/-- A signal is known by its number, in the order of creation. -/
abbrev SignalId := Nat

/-- The state of a signal. -/
structure Signal where
  /-- Whether it was cancelled. -/
  cancelled : Bool
  /-- The signals it passes cancellation on to, first linked first. -/
  links : List SignalId
  /-- How many hold it. -/
  holders : Nat
  deriving DecidableEq, Repr, Inhabited

/-- All signals that were ever made, those that are gone included. -/
structure Signals where
  /-- The signal at each number. -/
  all : List Signal
  deriving DecidableEq, Repr, Inhabited

namespace Signals

/-- No signal yet. -/
def empty : Signals := ⟨[]⟩

/-- The signal of a number. -/
def get? (g : Signals) (s : SignalId) : Option Signal := g.all[s]?

/-- Whether anybody holds a signal. -/
def isHeld (g : Signals) (s : SignalId) : Bool :=
  match g.get? s with
  | some signal => 0 < signal.holders
  | none => false

/-- Whether a signal was cancelled. -/
def isCancelled (g : Signals) (s : SignalId) : Bool :=
  match g.get? s with
  | some signal => signal.cancelled
  | none => false

/-- The links of a signal. -/
def linksOf (g : Signals) (s : SignalId) : List SignalId :=
  match g.get? s with
  | some signal => signal.links
  | none => []

/-- Whether a signal can still be cancelled. -/
def isOpen (g : Signals) (s : SignalId) : Bool :=
  match g.get? s with
  | some signal => 0 < signal.holders && !signal.cancelled
  | none => false

/-- Changes one signal. -/
def modify (g : Signals) (s : SignalId) (f : Signal → Signal) : Signals :=
  ⟨g.all.modify s f⟩

/-- The number that the next signal gets. -/
def size (g : Signals) : Nat := g.all.length

/-- A new signal with one holder. -/
def fresh (g : Signals) : SignalId × Signals :=
  (g.size, ⟨g.all ++ [⟨false, [], 1⟩]⟩)

/-- One more holds a signal. -/
def hold (g : Signals) (s : SignalId) : Signals :=
  g.modify s fun signal => { signal with holders := signal.holders + 1 }

/-- One less holds a signal. -/
def release (g : Signals) (s : SignalId) : Signals :=
  g.modify s fun signal => { signal with holders := signal.holders - 1 }

/-- Marks a signal as cancelled and takes its links away. -/
def mark (g : Signals) (s : SignalId) : Signals :=
  g.modify s fun signal => { signal with cancelled := true, links := [] }

/-- How many signals are not cancelled. -/
def uncancelled (g : Signals) : Nat :=
  g.all.countP fun signal => !signal.cancelled

theorem get?_of_isOpen {g : Signals} {s : SignalId} (h : g.isOpen s = true) :
    ∃ signal, g.get? s = some signal ∧ 0 < signal.holders ∧ signal.cancelled = false := by
  unfold isOpen at h
  split at h
  · rename_i signal hs
    simp only [Bool.and_eq_true, decide_eq_true_eq, Bool.not_eq_true'] at h
    exact ⟨signal, hs, h⟩
  · exact absurd h Bool.false_ne_true

/-- Changing one signal of a list to a cancelled one lowers the number of the others. -/
theorem countP_modify_lt {f : Signal → Signal} (hf : ∀ signal, (f signal).cancelled = true) :
    ∀ (all : List Signal) (s : SignalId) (signal : Signal), all[s]? = some signal →
      signal.cancelled = false →
      (all.modify s f).countP (fun x => !x.cancelled) < all.countP (fun x => !x.cancelled) := by
  intro all
  induction all with
  | nil => intro s signal h; exact absurd h (by simp only [List.getElem?_nil, reduceCtorEq,
      not_false_eq_true])
  | cons head tail ih =>
    intro s signal h hc
    cases s with
    | zero =>
      simp only [List.getElem?_cons_zero, Option.some.injEq] at h
      subst h
      simp only [List.modify_zero_cons, List.countP_cons, hf, hc]
      simp only [Bool.not_true, Bool.not_false, Bool.false_eq_true, if_true, if_false]
      omega
    | succ s =>
      simp only [List.getElem?_cons_succ] at h
      have := ih s signal h hc
      simp only [List.modify_succ_cons, List.countP_cons]
      omega

/-- Marking a signal that can be cancelled leaves fewer such signals. -/
theorem uncancelled_mark_lt {g : Signals} {s : SignalId} (h : g.isOpen s = true) :
    (g.mark s).uncancelled < g.uncancelled := by
  obtain ⟨signal, hs, -, hc⟩ := get?_of_isOpen h
  exact countP_modify_lt (fun _ => rfl) g.all s signal hs hc

/-- Passes cancellation on to a list of signals and to those linked from them, following a signal's
    links before the rest of the list. -/
def deliver (g : Signals) : List SignalId → Signals
  | [] => g
  | s :: rest =>
    -- A signal is marked before its links are followed, so that a cycle comes to an end.
    if _h : g.isOpen s = true then deliver (g.mark s) (g.linksOf s ++ rest)
    else deliver g rest
termination_by pending => (g.uncancelled, pending.length)
decreasing_by
  · exact Prod.Lex.left _ _ (uncancelled_mark_lt _h)
  · exact Prod.Lex.right _ (by simp only [List.length_cons]; omega)

/-- Cancels a signal and all signals that it passes cancellation on to. -/
def cancel (g : Signals) (s : SignalId) : Signals :=
  g.deliver [s]

/-- Cancels several signals, one after the other. -/
def cancelAll (g : Signals) (signals : List SignalId) : Signals :=
  signals.foldl cancel g

/-- Lets cancellation of `s` pass on to `t`. If `s` is cancelled already, `t` is cancelled now. -/
def attach (g : Signals) (s t : SignalId) : Signals :=
  if g.isCancelled s then g.cancel t
  -- Links to signals that nobody holds any more are cleared away on the way.
  else g.modify s fun signal => { signal with links := signal.links.filter g.isHeld ++ [t] }

/-- Lets cancellation of `s` no longer pass on to `t`. -/
def detach (g : Signals) (s t : SignalId) : Signals :=
  g.modify s fun signal =>
    { signal with links := signal.links.filter fun u => g.isHeld u && u != t }

/-- A new signal that is already cancelled. -/
def freshCancelled (g : Signals) : SignalId × Signals :=
  let (s, g) := g.fresh
  (s, g.cancel s)

/-- A new signal that is cancelled when `s` is. -/
def child (g : Signals) (s : SignalId) : SignalId × Signals :=
  let (t, g) := g.fresh
  (t, g.attach s t)

/-- Why an operation ends early. -/
inductive Interrupt where
  /-- Its signal was cancelled. -/
  | cancelled
  /-- Its deadline has passed. -/
  | deadlineExceeded
  deriving DecidableEq, Repr, Inhabited

/-- How an interrupt is shown. -/
def Interrupt.message : Interrupt → String
  | .cancelled => "operation cancelled"
  | .deadlineExceeded => "deadline exceeded"

/-- Whether a deadline has passed. -/
def isPast (now : Moment) : Option Moment → Bool
  | some deadline => deadline ≤ now
  | none => false

/-- Whether an operation that observes a signal has to stop. Cancellation comes before an expired
    deadline. -/
def check (g : Signals) (s : SignalId) (now : Moment) (deadline : Option Moment) :
    Option Interrupt :=
  if g.isCancelled s then some .cancelled
  else if isPast now deadline then some .deadlineExceeded
  else none

/-- How a signal is shown. -/
def describe (g : Signals) (s : SignalId) : String :=
  "CancelSignal \x7b cancelled: " ++ (if g.isCancelled s then "true" else "false") ++ " \x7d"

theorem check_eq_none {g : Signals} {s : SignalId} {now : Moment} {deadline : Option Moment} :
    g.check s now deadline = none ↔ g.isCancelled s = false ∧ isPast now deadline = false := by
  unfold check
  cases g.isCancelled s <;> cases isPast now deadline <;> simp

theorem check_of_isCancelled {g : Signals} {s : SignalId} (h : g.isCancelled s = true)
    (now : Moment) (deadline : Option Moment) : g.check s now deadline = some .cancelled :=
  if_pos h

end Signals

end EventFlow
