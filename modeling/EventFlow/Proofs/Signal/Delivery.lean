import EventFlow.Proofs.Signal.Spread
import Mathlib.Logic.Function.Iterate

/-!
# What a Delivery Reaches

Exactly which signals a cancellation on its way cancels, and that it gets
there one critical section at a time.

A delivery follows the links of one signal after the other and takes them away
as it goes. Which links it still finds depends on the order of its visits, and
yet the outcome does not: it cancels the signals that were to be reached at the
outset, by chains of signals that could all be cancelled
(`isCancelled_deliver_iff`). A signal that is reached twice is cancelled by
the first visit, and whatever the second would have gone on to is by then on
the list of the first. As nothing else about a signal changes than that it is
marked and gives up its links (`get?_deliver`), deliveries to the same signals
have the same outcome, and two cancellations can be interchanged
(`cancel_comm`).

A thread does not do this in one step. It locks one signal at a time: it marks
the signal and takes its links, then goes through them, and holds each signal
that it finds still held by somebody while it is busy with it. `Chore` is such a
step, and `work` does what a thread has to do next. `exists_iterate_work` is
the reason to believe in the recursion: left alone, a thread that has signals
to pass a cancellation on to comes to an end, however the links run, and then
the outcome is that of the delivery.

## Main definitions

* `Signals.Passes`: Cancellation passes straight from one signal to another.
* `Signals.Meets`: A delivery gets to a signal.
* `Chore`, `Chore.run`: A critical section, and what there is to do after it.
* `work`: What a thread does next.

## Theorems

* `get?_deliver`: All that a delivery does to a signal.
* `isCancelled_deliver_iff`: What a delivery cancels.
* `deliver_append`: A delivery in two parts.
* `cancel_comm`: Two cancellations can be interchanged.
* `deliver_hold`: To hold a signal meanwhile makes no difference.
* `exists_iterate_work`, `exists_work_cancel`: A thread of its own comes to an
  end.
-/

namespace EventFlow

namespace Signals

variable {g g' : Signals} {s t x y : SignalId}

/-! ## What a delivery does to a signal -/

/-- Two states in which every signal looks the same are the same state. -/
theorem eq_of_get? (h : ∀ s, g.get? s = g'.get? s) : g = g' := by
  rcases g with ⟨all⟩
  rcases g' with ⟨all'⟩
  exact congrArg Signals.mk (List.ext_getElem? h)

/-- Changes to signals can be interchanged if they can be for each signal. -/
theorem modify_comm {f f' : Signal → Signal} (h : ∀ signal, f (f' signal) = f' (f signal))
    (g : Signals) (s t : SignalId) :
    (g.modify s f).modify t f' = (g.modify t f').modify s f := by
  refine eq_of_get? fun x => ?_
  rw [get?_modify, get?_modify, get?_modify, get?_modify, Option.map_map, Option.map_map]
  refine congrArg (Option.map · _) (funext fun signal => ?_)
  by_cases hs : s = x <;> by_cases ht : t = x <;>
    simp only [Function.comp_apply, hs, ht, if_true, if_false, h]

/-- A signal gives up its links when it is marked: whoever marks it has them in hand
    and passes the cancellation on itself. -/
theorem linksOf_mark_self (g : Signals) (s : SignalId) : (g.mark s).linksOf s = [] := by
  rw [linksOf, mark, get?_modify]
  cases g.get? s with
  | none => rfl
  | some signal => simp only [Option.map_some, if_true]

theorem linksOf_mark_of_ne (g : Signals) (h : s ≠ t) : (g.mark s).linksOf t = g.linksOf t :=
  linksOf_modify_of_ne _ h

/-- Nobody lets a signal go because it was cancelled. -/
theorem isHeld_deliver_eq (g : Signals) (pending : List SignalId) (t : SignalId) :
    (g.deliver pending).isHeld t = g.isHeld t :=
  deliver_rule (P := fun g' => g'.isHeld t = g.isHeld t)
    (fun g' s _ h => (isHeld_mark g' s t).trans h) g pending rfl

/-- A delivery opens no signal. This is what the recursion over rounds of deliveries
    is measured by. -/
theorem uncancelled_deliver_le (g : Signals) (pending : List SignalId) :
    (g.deliver pending).uncancelled ≤ g.uncancelled :=
  deliver_rule (P := fun g' => g'.uncancelled ≤ g.uncancelled)
    (fun _ _ hopen h => Nat.le_trans (Nat.le_of_lt (uncancelled_mark_lt hopen)) h) g pending
    (Nat.le_refl _)

/-- A signal is open if it can still be cancelled, which is to say that it was not. -/
theorem isCancelled_of_isOpen (h : g.isOpen s = true) : g.isCancelled s = false := by
  rw [isOpen_eq, Bool.and_eq_true, Bool.not_eq_true'] at h
  exact h.2

/-- A delivery marks the signals that it cancels and takes their links away. It
    does nothing else. -/
theorem get?_deliver (g : Signals) (pending : List SignalId) (x : SignalId) :
    (g.deliver pending).get? x = (g.get? x).map fun signal =>
      if g.isCancelled x = false ∧ (g.deliver pending).isCancelled x = true then
        { signal with cancelled := true, links := [] }
      else signal := by
  fun_induction deliver g pending with
  | case1 g =>
      have hnot : ¬ (g.isCancelled x = false ∧ g.isCancelled x = true) := by
        rintro ⟨hno, hyes⟩
        exact absurd (hno.symm.trans hyes) Bool.false_ne_true
      simp only [if_neg hnot, Option.map_id']
  | case2 g s rest hopen ih =>
      -- The rest of the delivery starts from the marked signals, so what it does is put behind
      -- the mark and compared for each signal.
      rw [ih, mark, get?_modify, Option.map_map]
      refine congrArg (Option.map · _) (funext fun signal => ?_)
      by_cases h : s = x
      · -- The signal that is visited is cancelled from here on.
        subst h
        have hmarked := isCancelled_mark_self (isHeld_of_isOpen hopen)
        have hend := isCancelled_deliver (g.linksOf s ++ rest) hmarked
        rw [mark] at hmarked hend
        simp only [Function.comp_apply, hmarked, isCancelled_of_isOpen hopen, hend,
          Bool.true_eq_false, false_and, if_false, if_true, true_and]
      · have hsame := isCancelled_mark_of_ne g h
        rw [mark] at hsame
        simp only [Function.comp_apply, if_neg h, hsame]
  | case3 g s rest hopen ih => exact ih

/-- The links that a delivery leaves behind: those of a signal that it did not
    cancel. -/
theorem linksOf_deliver (g : Signals) (pending : List SignalId) (x : SignalId) :
    (g.deliver pending).linksOf x =
      if g.isCancelled x = false ∧ (g.deliver pending).isCancelled x = true then []
      else g.linksOf x := by
  rw [linksOf, get?_deliver, linksOf]
  cases g.get? x with
  | none => simp only [Option.map_none, ite_self]
  | some signal => simp only [Option.map_some, apply_ite Signal.links]

/-! ## What a delivery cancels -/

/-- Cancellation passes straight from one signal to another: both can be cancelled,
    and the one is linked to the other. A signal that was cancelled before passes
    nothing on, because it has given up its links. -/
def Passes (g : Signals) (x y : SignalId) : Prop :=
  g.isOpen x = true ∧ g.isOpen y = true ∧ y ∈ g.linksOf x

/-- A delivery to some signals gets to another one, by a chain of signals that could
    all be cancelled when it set out. -/
def Meets (g : Signals) (pending : List SignalId) (x : SignalId) : Prop :=
  ∃ s ∈ pending, g.isOpen s = true ∧ Relation.ReflTransGen g.Passes s x

/-- Whoever can be cancelled after a signal was marked is another signal, and could
    be before. -/
theorem isOpen_of_mark (h : (g.mark s).isOpen x = true) : s ≠ x ∧ g.isOpen x = true := by
  rw [isOpen_eq, isHeld_mark, Bool.and_eq_true, Bool.not_eq_true'] at h
  rcases h with ⟨hheld, hcancelled⟩
  have hne : s ≠ x := by
    rintro rfl
    rw [isCancelled_mark_self hheld] at hcancelled
    exact absurd hcancelled.symm Bool.false_ne_true
  rw [isCancelled_mark_of_ne g hne] at hcancelled
  rw [isOpen_eq, hheld, hcancelled]
  exact ⟨hne, rfl⟩

/-- Marking a signal opens no new ways. -/
theorem passes_of_mark (h : (g.mark s).Passes x y) : g.Passes x y := by
  rcases h with ⟨hx, hy, hlink⟩
  rcases isOpen_of_mark hx with ⟨hne, hx⟩
  rw [linksOf_mark_of_ne g hne] at hlink
  exact ⟨hx, (isOpen_of_mark hy).2, hlink⟩

/-- What a delivery cancels, it gets to. -/
theorem meets_of_isCancelled_deliver (g : Signals) (pending : List SignalId)
    (h : (g.deliver pending).isCancelled x = true) :
    g.isCancelled x = true ∨ g.Meets pending x := by
  fun_induction deliver g pending with
  | case1 g => exact .inl h
  | case2 g s rest hopen ih =>
      rcases ih h with hmarked | ⟨p, hmem, hp, hchain⟩
      · by_cases hne : s = x
        · subst hne
          exact .inr ⟨s, .head _, hopen, .refl⟩
        · rw [isCancelled_mark_of_ne g hne] at hmarked
          exact .inl hmarked
      · have hp := (isOpen_of_mark hp).2
        have hchain := Relation.ReflTransGen.mono (fun _ _ => passes_of_mark) _ _ hchain
        rcases List.mem_append.mp hmem with hlink | hrest
        · -- The way there begins with a link of the signal that is visited.
          exact .inr ⟨s, .head _, hopen, .head ⟨hopen, hp, hlink⟩ hchain⟩
        · exact .inr ⟨p, .tail _ hrest, hp, hchain⟩
  | case3 g s rest hopen ih =>
      rcases ih h with hx | ⟨p, hmem, hp, hchain⟩
      · exact .inl hx
      · exact .inr ⟨p, .tail _ hmem, hp, hchain⟩

/-- Whoever is to be visited and is held is cancelled in the end, be it by this
    visit, by an earlier one, or before the delivery set out. -/
theorem isCancelled_deliver_of_mem (g : Signals) {pending : List SignalId} (hmem : s ∈ pending)
    (held : g.isHeld s = true) : (g.deliver pending).isCancelled s = true := by
  fun_induction deliver g pending with
  | case1 g => exact absurd hmem List.not_mem_nil
  | case2 g p rest hopen ih =>
      rcases List.mem_cons.mp hmem with rfl | hmem
      · exact isCancelled_deliver _ (isCancelled_mark_self held)
      · exact ih (List.mem_append_right _ hmem) ((isHeld_mark g p s).trans held)
  | case3 g p rest hopen ih =>
      rcases List.mem_cons.mp hmem with rfl | hmem
      · exact isCancelled_deliver _ (isCancelled_of_not_isOpen held hopen)
      · exact ih hmem held

/-- What a delivery gets to, it cancels, and nothing else. -/
theorem isCancelled_deliver_iff (g : Signals) (pending : List SignalId) (x : SignalId) :
    (g.deliver pending).isCancelled x = true ↔ g.isCancelled x = true ∨ g.Meets pending x := by
  refine ⟨meets_of_isCancelled_deliver g pending, fun h => ?_⟩
  rcases h with hx | ⟨s, hmem, hs, hchain⟩
  · exact isCancelled_deliver pending hx
  · have hstart := isCancelled_deliver_of_mem g hmem (isHeld_of_isOpen hs)
    -- Each link of the chain led on before the delivery, and so it does after it.
    refine isCancelled_of_chain (Relation.ReflTransGen.mono ?_ _ _ hchain) hstart
    rintro y z ⟨hy, hz, hlink⟩
    exact leads_deliver g pending (isHeld_of_isOpen hz)
      (.inr (.inr ⟨isCancelled_of_isOpen hy, hlink⟩))

/-! ## The order of deliveries -/

/-- A delivery to two lists of signals is a delivery to the one and then to the
    other. The links that come up in the first are all followed before the second
    begins. -/
theorem deliver_append (g : Signals) (first second : List SignalId) :
    g.deliver (first ++ second) = (g.deliver first).deliver second := by
  fun_induction deliver g first with
  | case1 g => rfl
  | case2 g s rest hopen ih =>
      rw [List.cons_append, deliver, dif_pos hopen, ← List.append_assoc, ih]
  | case3 g s rest hopen ih => rw [List.cons_append, deliver, dif_neg hopen, ih]

/-- Deliveries to the same signals have the same outcome, whatever the order. Which
    links a delivery still finds does depend on it, but not what it gets to in the
    end. -/
theorem deliver_eq_of_mem_iff (g : Signals) {pending pending' : List SignalId}
    (h : ∀ s, s ∈ pending ↔ s ∈ pending') : g.deliver pending = g.deliver pending' := by
  have hsame : ∀ x, (g.deliver pending).isCancelled x = (g.deliver pending').isCancelled x := by
    intro x
    rw [Bool.eq_iff_iff, isCancelled_deliver_iff, isCancelled_deliver_iff]
    simp only [Meets, h]
  -- What happens to a signal is a function of whether the delivery cancels it.
  refine eq_of_get? fun x => ?_
  rw [get?_deliver, get?_deliver, hsame]

/-- It does not matter which of two signals is cancelled first. -/
theorem cancel_comm (g : Signals) (s t : SignalId) :
    (g.cancel s).cancel t = (g.cancel t).cancel s := by
  rw [cancel, cancel, cancel, cancel, ← deliver_append, ← deliver_append]
  refine deliver_eq_of_mem_iff g fun x => ?_
  simp only [List.mem_append, List.mem_singleton, or_comm]

/-! ## Holding a signal meanwhile -/

/-- Who holds a signal is no matter of its links. -/
theorem linksOf_hold (g : Signals) (s t : SignalId) : (g.hold s).linksOf t = g.linksOf t := by
  rw [linksOf, linksOf, hold, get?_modify]
  cases g.get? t with
  | none => rfl
  | some signal => by_cases h : s = t <;> simp only [Option.map_some, h, if_true, if_false]

theorem linksOf_release (g : Signals) (s t : SignalId) :
    (g.release s).linksOf t = g.linksOf t := by
  rw [linksOf, linksOf, release, get?_modify]
  cases g.get? t with
  | none => rfl
  | some signal => by_cases h : s = t <;> simp only [Option.map_some, h, if_true, if_false]

/-- To hold a signal that was held makes no other signal a held one. -/
theorem isHeld_of_hold (hs : g.isHeld s = true) (h : (g.hold s).isHeld x = true) :
    g.isHeld x = true := by
  by_cases hne : s = x
  · rwa [← hne]
  · rw [isHeld, hold, get?_modify] at h
    simp only [if_neg hne, Option.map_id'] at h
    exact h

/-- Letting a signal go gives nobody a holder. -/
theorem isHeld_of_release (h : (g.release s).isHeld x = true) : g.isHeld x = true := by
  rw [isHeld_iff] at h ⊢
  rcases h with ⟨signal, hget, hpos⟩
  rw [release, get?_modify, Option.map_eq_some_iff] at hget
  rcases hget with ⟨old, hold, rfl⟩
  refine ⟨old, hold, ?_⟩
  by_cases hne : s = x
  · rw [if_pos hne] at hpos
    exact Nat.lt_of_lt_of_le hpos (Nat.sub_le _ _)
  · rwa [if_neg hne] at hpos

/-- To hold a signal and let it go again leaves everything as it was. -/
theorem release_hold (g : Signals) (s : SignalId) : (g.hold s).release s = g := by
  refine eq_of_get? fun x => ?_
  rw [release, hold, get?_modify, get?_modify, Option.map_map]
  cases g.get? x with
  | none => rfl
  | some signal => by_cases h : s = x <;> simp [h]

/-- It does not matter whether a signal is marked or held first: the one changes
    what the other does not read. -/
theorem mark_hold (g : Signals) (s t : SignalId) : (g.hold s).mark t = (g.mark t).hold s := by
  rw [mark, hold, mark, hold, modify_comm]
  exact fun _ => rfl

/-- A change that leaves the mark of cancellation alone. -/
theorem uncancelled_modify {f : Signal → Signal}
    (hf : ∀ signal, (f signal).cancelled = signal.cancelled) (g : Signals) (s : SignalId) :
    (g.modify s f).uncancelled = g.uncancelled := by
  change ((g.all.modify s f).countP _) = g.all.countP _
  generalize g.all = all
  induction all generalizing s with
  | nil => rw [List.modify_nil]
  | cons signal all ih =>
      cases s with
      | zero => rw [List.modify_zero_cons, List.countP_cons, List.countP_cons, hf]
      | succ s => rw [List.modify_succ_cons, List.countP_cons, List.countP_cons, ih]

theorem uncancelled_release (g : Signals) (s : SignalId) :
    (g.release s).uncancelled = g.uncancelled :=
  uncancelled_modify (f := fun signal => { signal with holders := signal.holders - 1 })
    (fun _ => rfl) g s

theorem uncancelled_relink (g : Signals) (s : SignalId) (f : List SignalId → List SignalId) :
    (g.relink s f).uncancelled = g.uncancelled :=
  uncancelled_modify (f := fun signal => { signal with links := f signal.links }) (fun _ => rfl)
    g s

theorem uncancelled_hold (g : Signals) (s : SignalId) :
    (g.hold s).uncancelled = g.uncancelled :=
  uncancelled_modify (f := fun signal => { signal with holders := signal.holders + 1 })
    (fun _ => rfl) g s

/-- One holder more of a signal that is held makes no difference to a delivery. -/
theorem deliver_hold (pending : List SignalId) (held : g.isHeld s = true) :
    (g.hold s).deliver pending = (g.deliver pending).hold s := by
  have hopen : ∀ g : Signals, g.isHeld s = true → ∀ x, (g.hold s).isOpen x = g.isOpen x := by
    intro g held x
    rw [isOpen_eq, isOpen_eq, isCancelled_hold]
    congr 1
    rw [Bool.eq_iff_iff]
    exact ⟨isHeld_of_hold held, isHeld_hold s⟩
  -- The two deliveries make the same decisions at each visit, since the further holder opens no
  -- signal.
  fun_induction deliver g pending with
  | case1 g => rw [deliver]
  | case2 g p rest hp ih =>
      have hp' := (hopen g held p).trans hp
      rw [deliver, dif_pos hp', mark_hold, linksOf_hold]
      exact ih ((isHeld_mark g p s).trans held)
  | case3 g p rest hp ih =>
      have hp' : ¬ (g.hold s).isOpen p = true := by rwa [hopen g held p]
      rw [deliver, dif_neg hp']
      exact ih held

/-! ## A thread on its own -/

/-- What a thread has to do for a call on signals, one critical section each.
    Between two of them the thread holds no lock, so others may come in between. -/
inductive Chore where
  /-- Cancel a signal that is at hand, unless it was cancelled before. -/
  | cancel (s : SignalId)
  /-- Pass a cancellation on along a link, if anybody holds the signal there. -/
  | pass (s : SignalId)
  /-- Let a signal go that was held to be cancelled. -/
  | letGo (s : SignalId)
  /-- Let cancellation of `s` pass on to `t`. -/
  | attach (s t : SignalId)
  deriving DecidableEq, Repr

/-- What a critical section leaves to do, before everything else, and what it
    does to the signals. -/
def Chore.run : Chore → Signals → List Chore × Signals
  | .cancel s, g => if g.isCancelled s then ([], g) else ((g.linksOf s).map .pass, g.mark s)
  | .pass s, g => if g.isHeld s then ([.cancel s, .letGo s], g.hold s) else ([], g)
  | .letGo s, g => ([], g.release s)
  -- A link that comes too late is not recorded; the target is cancelled in its stead.
  | .attach s t, g => if g.isCancelled s then ([.cancel t], g) else ([], g.attach s t)

/-- A signal that was cancelled before is left as it is, and there is nobody to
    tell. -/
theorem run_cancel_of_isCancelled (h : g.isCancelled s = true) :
    (Chore.cancel s).run g = ([], g) :=
  if_pos h

theorem run_cancel (h : g.isCancelled s = false) :
    (Chore.cancel s).run g = ((g.linksOf s).map .pass, g.mark s) := by
  rw [Chore.run, h]
  rfl

theorem run_pass (held : g.isHeld s = true) :
    (Chore.pass s).run g = ([.cancel s, .letGo s], g.hold s) :=
  if_pos held

/-- A link to a signal that nobody holds any more leads nowhere. -/
theorem run_pass_of_not_isHeld (gone : ¬ g.isHeld s = true) : (Chore.pass s).run g = ([], g) :=
  if_neg gone

theorem run_letGo_hold (g : Signals) (s : SignalId) :
    (Chore.letGo s).run (g.hold s) = ([], g) := by
  rw [Chore.run, release_hold]

/-- What a thread does next when it has these things to do. -/
def work : List Chore × Signals → List Chore × Signals
  | ([], g) => ([], g)
  | (chore :: chores, g) => ((chore.run g).1 ++ chores, (chore.run g).2)

/-- What follows the first thing that a thread does, follows after one step more. -/
theorem exists_work_cons {chore : Chore} {chores : List Chore} {result : List Chore × Signals}
    (h : ∃ n, work^[n] ((chore.run g).1 ++ chores, (chore.run g).2) = result) :
    ∃ n, work^[n] (chore :: chores, g) = result := by
  rcases h with ⟨n, hn⟩
  exact ⟨n + 1, hn⟩

/-- A thread that gets from one point to another, and from there to a third, gets
    from the first to the third. -/
theorem exists_work_trans {start middle finish : List Chore × Signals}
    (h : ∃ n, work^[n] start = middle) (h' : ∃ n, work^[n] middle = finish) :
    ∃ n, work^[n] start = finish := by
  rcases h with ⟨m, rfl⟩
  rcases h' with ⟨n, rfl⟩
  exact ⟨n + m, Function.iterate_add_apply ..⟩

/-- A thread that passes a cancellation on to some signals comes to the end of
    this, and the outcome is that of a delivery. -/
theorem exists_iterate_work (pending : List SignalId) (chores : List Chore) (g : Signals) :
    ∃ n, work^[n] (pending.map .pass ++ chores, g) = (chores, g.deliver pending) := by
  -- Either a visit leaves fewer signals that can be cancelled, or the list gets shorter.
  induction hn : g.uncancelled using Nat.strongRecOn generalizing pending chores g with
  | _ n ih =>
    subst hn
    induction pending with
    | nil => exact ⟨0, by rw [deliver]; rfl⟩
    | cons s rest ih' =>
        rw [List.map_cons, List.cons_append]
        refine exists_work_cons ?_
        by_cases held : g.isHeld s = true
        · rw [run_pass held]
          refine exists_work_cons ?_
          by_cases hopen : g.isOpen s = true
          · -- The links of the signal are followed while it is held.
            have hmarked := uncancelled_mark_lt hopen
            have hless : ((g.mark s).hold s).uncancelled < g.uncancelled := by
              rwa [uncancelled_hold]
            rw [run_cancel ((isCancelled_hold g s s).trans (isCancelled_of_isOpen hopen)),
              linksOf_hold, mark_hold]
            refine exists_work_trans (ih _ hless (g.linksOf s) _ _ rfl) ?_
            refine exists_work_cons ?_
            rw [deliver_hold _ ((isHeld_mark g s s).trans held), run_letGo_hold]
            have hle := uncancelled_deliver_le (g.mark s) (g.linksOf s)
            rw [deliver, dif_pos hopen, deliver_append]
            exact ih _ (Nat.lt_of_le_of_lt hle hmarked) rest chores _ rfl
          · -- It was cancelled before, so it is only held and let go again.
            have hcancelled := isCancelled_of_not_isOpen held hopen
            rw [run_cancel_of_isCancelled ((isCancelled_hold g s s).trans hcancelled)]
            refine exists_work_cons ?_
            rw [run_letGo_hold, deliver, dif_neg hopen]
            exact ih'
        · have hopen : ¬ g.isOpen s = true := fun h => held (isHeld_of_isOpen h)
          rw [run_pass_of_not_isHeld held, deliver, dif_neg hopen]
          exact ih'

/-- A thread that cancels a signal and has nothing else to do comes to an end. -/
theorem exists_work_cancel (held : g.isHeld s = true) :
    ∃ n, work^[n] ([.cancel s], g) = ([], g.cancel s) := by
  refine exists_work_cons ?_
  by_cases hopen : g.isOpen s = true
  · rw [run_cancel (isCancelled_of_isOpen hopen), cancel, deliver, dif_pos hopen,
      List.append_nil (g.linksOf s)]
    exact exists_iterate_work (g.linksOf s) [] (g.mark s)
  · rw [run_cancel_of_isCancelled (isCancelled_of_not_isOpen held hopen), cancel, deliver,
      dif_neg hopen, deliver]
    exact ⟨0, rfl⟩

end Signals

end EventFlow
