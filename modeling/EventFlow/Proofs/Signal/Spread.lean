import EventFlow.Signal
import Mathlib.Logic.Relation

/-!
# How Cancellation Spreads

What the operations on signals keep, whatever else they change.

A signal that was cancelled stays so, and whoever is held stays held until
somebody lets go. The third thing that lasts is harder to say, since links do
not last: a signal that is cancelled gives up its links as it is marked, and
from then on nothing shows that it had any. `Leads` is the form that does. One
signal leads to another if the other is cancelled already, or is still linked
from it while it is not: in both cases, cancelling the first cannot leave the
other uncancelled. A cancellation on its way through the signals keeps this
for every pair whose second signal is held (`leads_deliver`), because a signal
that is marked hands all its links to those that are still to be visited.

`Extends` puts the three together. It is kept by all that may happen while an
operation of a worker is under way.

## Main definitions

* `Signals.Leads`: Cancelling one signal cancels another.
* `Signals.Extends`: Nothing that lasts was lost.

## Theorems

* `leads_deliver`: A cancellation keeps what leads where.
* `extends_cancelAll`, `extends_fresh`, `extends_attach`: Operations that lose
  nothing.
* `isCancelled_of_leads`: Cancellation follows a chain to its end.
* `leads_attach`: Attaching makes one signal lead to another.
* `isCancelled_cancel`: A signal that is held is cancelled by cancelling it.
-/

namespace EventFlow

namespace Signals

variable {g g' : Signals} {s t x y : SignalId}

/-! ## What is read off a signal -/

/-- Changing a signal changes no other one. -/
theorem get?_modify (g : Signals) (s : SignalId) (f : Signal → Signal) (t : SignalId) :
    (g.modify s f).get? t = (g.get? t).map fun signal => if s = t then f signal else signal :=
  List.getElem?_modify ..

/-- A signal is held if there is one of this number and somebody holds it. -/
theorem isHeld_iff : g.isHeld s = true ↔ ∃ signal, g.get? s = some signal ∧ 0 < signal.holders := by
  rw [isHeld]
  cases g.get? s with
  | none => simp only [Bool.false_eq_true, reduceCtorEq, false_and, exists_false]
  | some signal => simp only [decide_eq_true_eq, Option.some.injEq, exists_eq_left']

/-- Who is held was made. -/
theorem lt_size_of_isHeld (h : g.isHeld s = true) : s < g.size := by
  rcases isHeld_iff.mp h with ⟨signal, hs, -⟩
  exact (List.getElem?_eq_some_iff.mp hs).1

/-- Who has links was made. -/
theorem lt_size_of_mem_linksOf (h : t ∈ g.linksOf s) : s < g.size := by
  rw [linksOf] at h
  cases hs : g.get? s with
  | none =>
      rw [hs] at h
      exact absurd h List.not_mem_nil
  | some signal => exact (List.getElem?_eq_some_iff.mp hs).1

/-- A signal is open if it is held and not cancelled. -/
theorem isOpen_eq (g : Signals) (s : SignalId) :
    g.isOpen s = (g.isHeld s && !g.isCancelled s) := by
  rw [isOpen, isHeld, isCancelled]
  cases g.get? s <;> rfl

/-- A change that leaves the mark of cancellation alone. -/
theorem isCancelled_modify {f : Signal → Signal}
    (hf : ∀ signal, (f signal).cancelled = signal.cancelled) (g : Signals) (s t : SignalId) :
    (g.modify s f).isCancelled t = g.isCancelled t := by
  rw [isCancelled, isCancelled, get?_modify]
  cases g.get? t with
  | none => rfl
  | some signal =>
      by_cases h : s = t
      · simp only [Option.map_some, if_pos h, hf]
      · simp only [Option.map_some, if_neg h]

/-- A change that leaves the holders alone. -/
theorem isHeld_modify {f : Signal → Signal} (hf : ∀ signal, (f signal).holders = signal.holders)
    (g : Signals) (s t : SignalId) : (g.modify s f).isHeld t = g.isHeld t := by
  rw [isHeld, isHeld, get?_modify]
  cases g.get? t with
  | none => rfl
  | some signal =>
      by_cases h : s = t
      · simp only [Option.map_some, if_pos h, hf]
      · simp only [Option.map_some, if_neg h]

theorem linksOf_modify_of_ne (f : Signal → Signal) (h : s ≠ t) :
    (g.modify s f).linksOf t = g.linksOf t := by
  rw [linksOf, linksOf, get?_modify]
  simp only [if_neg h]
  cases g.get? t <;> rfl

/-! ## Changing links -/

/-- The signals with the links of one of them changed, and nothing else. -/
def relink (g : Signals) (s : SignalId) (f : List SignalId → List SignalId) : Signals :=
  g.modify s fun signal => { signal with links := f signal.links }

/-- Attaching, told by what it does to the list of links: it clears away those that
    lead to nobody and adds one at the end, unless it comes too late. -/
theorem attach_eq (g : Signals) (s t : SignalId) :
    g.attach s t = if g.isCancelled s then g.cancel t
      else g.relink s fun links => links.filter g.isHeld ++ [t] := rfl

/-- Detaching, told likewise. It clears away as attaching does, and takes all copies
    of the one link. -/
theorem detach_eq (g : Signals) (s t : SignalId) :
    g.detach s t = g.relink s fun links => links.filter fun u => g.isHeld u && u != t := rfl

@[simp] theorem isCancelled_relink (g : Signals) (s : SignalId) (f : List SignalId → List SignalId)
    (t : SignalId) : (g.relink s f).isCancelled t = g.isCancelled t :=
  isCancelled_modify (f := fun signal => { signal with links := f signal.links }) (fun _ => rfl)
    g s t

@[simp] theorem isHeld_relink (g : Signals) (s : SignalId) (f : List SignalId → List SignalId)
    (t : SignalId) : (g.relink s f).isHeld t = g.isHeld t :=
  isHeld_modify (f := fun signal => { signal with links := f signal.links }) (fun _ => rfl) g s t

theorem linksOf_relink_of_ne (f : List SignalId → List SignalId) (h : s ≠ t) :
    (g.relink s f).linksOf t = g.linksOf t :=
  linksOf_modify_of_ne _ h

/-- The links of a signal that was made are what they are changed to. -/
theorem linksOf_relink_self (f : List SignalId → List SignalId) (hs : s < g.size) :
    (g.relink s f).linksOf s = f (g.linksOf s) := by
  obtain ⟨signal, hget⟩ : ∃ signal, g.get? s = some signal := ⟨_, List.getElem?_eq_getElem hs⟩
  rw [linksOf, linksOf, relink, get?_modify, hget]
  simp only [Option.map_some, if_true]

/-! ## What leads where -/

/-- Cancelling `x` cancels `y`, which is held: `y` is cancelled already, or
    linked from `x`, which is not. -/
structure Leads (g : Signals) (x y : SignalId) : Prop where
  held : g.isHeld y = true
  linked : g.isCancelled y = true ∨ g.isCancelled x = false ∧ y ∈ g.linksOf x

/-- Nothing that lasts was lost on the way from `g` to `g'`. It is stated of ways
    and not of single operations, so that it can be carried through a whole run
    (`Extends.trans`). -/
structure Extends (g g' : Signals) : Prop where
  cancelled : ∀ s, g.isCancelled s = true → g'.isCancelled s = true
  held : ∀ s, g.isHeld s = true → g'.isHeld s = true
  leads : ∀ x y, g.Leads x y → g'.Leads x y

theorem Extends.refl (g : Signals) : Extends g g :=
  ⟨fun _ h => h, fun _ h => h, fun _ _ h => h⟩

/-- What lasts on the way and on the rest of the way lasts. -/
theorem Extends.trans {g'' : Signals} (h : Extends g g') (h' : Extends g' g'') : Extends g g'' :=
  ⟨fun s hs => h'.cancelled s (h.cancelled s hs), fun s hs => h'.held s (h.held s hs),
    fun x y hxy => h'.leads x y (h.leads x y hxy)⟩

/-- What leads to a signal cancels it: that the source is cancelled rules out a link
    that is still to be followed. -/
theorem isCancelled_of_leads (h : g.Leads x y) (hx : g.isCancelled x = true) :
    g.isCancelled y = true := by
  rcases h.linked with hy | ⟨hne, -⟩
  · exact hy
  · simp only [hx, Bool.true_eq_false] at hne

/-- So does what leads to it by a chain of others. -/
theorem isCancelled_of_chain (h : Relation.ReflTransGen g.Leads x y)
    (hx : g.isCancelled x = true) : g.isCancelled y = true := by
  induction h with
  | refl => exact hx
  | tail _ hlast ih => exact isCancelled_of_leads hlast ih

theorem Extends.chain (h : Extends g g') (hxy : Relation.ReflTransGen g.Leads x y) :
    Relation.ReflTransGen g'.Leads x y :=
  Relation.ReflTransGen.mono h.leads x y hxy

/-! ## Cancelling -/

/-- Marking a signal lets nobody go. -/
theorem isHeld_mark (g : Signals) (s t : SignalId) : (g.mark s).isHeld t = g.isHeld t := by
  rw [mark, isHeld_modify]
  exact fun _ => rfl

theorem isCancelled_mark_of_ne (g : Signals) (h : s ≠ t) :
    (g.mark s).isCancelled t = g.isCancelled t := by
  rw [isCancelled, isCancelled, mark, get?_modify]
  simp only [if_neg h]
  cases g.get? t <;> rfl

theorem isCancelled_mark_self (h : g.isHeld s = true) : (g.mark s).isCancelled s = true := by
  rcases isHeld_iff.mp h with ⟨signal, hs, -⟩
  rw [isCancelled, mark, get?_modify, hs]
  simp only [Option.map_some, if_true]

theorem isHeld_of_isOpen (h : g.isOpen s = true) : g.isHeld s = true := by
  rw [isOpen_eq, Bool.and_eq_true] at h
  exact h.1

/-- What is passed by although somebody holds it was cancelled before. -/
theorem isCancelled_of_not_isOpen (held : g.isHeld s = true) (h : ¬ g.isOpen s = true) :
    g.isCancelled s = true := by
  rw [isOpen_eq, held, Bool.true_and, Bool.not_eq_true, Bool.not_eq_false'] at h
  exact h

/-- Whatever was cancelled when a signal is marked still is. -/
theorem isCancelled_mark (hs : g.isOpen s = true) (ht : g.isCancelled t = true) :
    (g.mark s).isCancelled t = true := by
  by_cases h : s = t
  · subst h
    exact isCancelled_mark_self (isHeld_of_isOpen hs)
  · rw [isCancelled_mark_of_ne g h, ht]

/-- What marking a signal keeps, delivering a cancellation keeps. Facts that do not
    depend on the links go through this, and need not look at the visits. -/
theorem deliver_rule {P : Signals → Prop} (marks : ∀ g s, g.isOpen s = true → P g → P (g.mark s))
    (g : Signals) (pending : List SignalId) (start : P g) : P (g.deliver pending) := by
  fun_induction deliver g pending with
  | case1 g => exact start
  | case2 g s rest hopen ih => exact ih (marks g s hopen start)
  | case3 g s rest hopen ih => exact ih start

/-- Whatever was cancelled when a cancellation set out still is. -/
theorem isCancelled_deliver (pending : List SignalId) (h : g.isCancelled t = true) :
    (g.deliver pending).isCancelled t = true :=
  deliver_rule (P := fun g => g.isCancelled t = true)
    (fun _ _ hopen ht => isCancelled_mark hopen ht) g pending h

theorem isHeld_deliver (pending : List SignalId) (h : g.isHeld t = true) :
    (g.deliver pending).isHeld t = true :=
  deliver_rule (P := fun g => g.isHeld t = true)
    (fun g s _ ht => (isHeld_mark g s t).trans ht) g pending h

/-- A cancellation on its way keeps what leads to a signal, counting what is
    still to be visited as led to. -/
theorem leads_deliver (g : Signals) (pending : List SignalId) (held : g.isHeld y = true)
    (linked : g.isCancelled y = true ∨ y ∈ pending ∨ g.isCancelled x = false ∧ y ∈ g.linksOf x) :
    (g.deliver pending).Leads x y := by
  refine ⟨isHeld_deliver pending held, ?_⟩
  -- By induction on the visits; the middle case of `linked` is for links that were given up.
  fun_induction deliver g pending with
  | case1 g =>
      rcases linked with hy | hmem | hlink
      · exact .inl hy
      · exact absurd hmem List.not_mem_nil
      · exact .inr hlink
  | case2 g s rest hopen ih =>
      refine ih ((isHeld_mark g s y).trans held) ?_
      rcases linked with hy | hmem | ⟨hx, hlink⟩
      · exact .inl (isCancelled_mark hopen hy)
      · rcases List.mem_cons.mp hmem with rfl | hmem
        · exact .inl (isCancelled_mark_self held)
        · exact .inr (.inl (List.mem_append_right _ hmem))
      · by_cases h : s = x
        · -- The links of the signal that is marked are visited next.
          subst h
          exact .inr (.inl (List.mem_append_left _ hlink))
        · rw [isCancelled_mark_of_ne g h]
          refine .inr (.inr ⟨hx, ?_⟩)
          rw [mark, linksOf_modify_of_ne _ h]
          exact hlink
  | case3 g s rest hopen ih =>
      refine ih held ?_
      rcases linked with hy | hmem | hlink
      · exact .inl hy
      · rcases List.mem_cons.mp hmem with rfl | hmem
        · exact .inl (isCancelled_of_not_isOpen held hopen)
        · exact .inr (.inl hmem)
      · exact .inr (.inr hlink)

/-- A cancellation loses nothing: links that are gone have cancelled their targets. -/
theorem extends_cancel (g : Signals) (s : SignalId) : Extends g (g.cancel s) where
  cancelled := fun _ h => isCancelled_deliver [s] h
  held := fun _ h => isHeld_deliver [s] h
  leads := fun _ _ h => leads_deliver g [s] h.held (h.linked.imp_right .inr)

/-- Neither do several cancellations in a row. -/
theorem extends_cancelAll (g : Signals) (signals : List SignalId) :
    Extends g (g.cancelAll signals) := by
  rw [cancelAll]
  -- Each of them starts from what the one before left.
  induction signals generalizing g with
  | nil => exact .refl g
  | cons s signals ih => exact (extends_cancel g s).trans (ih (g.cancel s))

/-- A signal that is held is cancelled by cancelling it, though it may have been
    cancelled before. A signal that nobody holds is passed by. -/
theorem isCancelled_cancel (h : g.isHeld s = true) : (g.cancel s).isCancelled s = true := by
  rw [cancel, deliver]
  by_cases hopen : g.isOpen s = true
  · rw [dif_pos hopen]
    exact isCancelled_deliver _ (isCancelled_mark_self h)
  · rw [dif_neg hopen]
    -- It is held and yet passed by, so it was cancelled before.
    exact isCancelled_deliver [] (isCancelled_of_not_isOpen h hopen)

/-! ## The other operations -/

/-- A new signal is added behind those that there are, uncancelled, unlinked, and
    held by who made it. -/
theorem get?_fresh (g : Signals) (s : SignalId) :
    g.fresh.2.get? s = if s = g.size then some ⟨false, [], 1⟩ else g.get? s := by
  change (g.all ++ [_])[s]? = _
  by_cases h : s = g.size
  · rw [if_pos h, h]
    exact List.getElem?_concat_length
  · rw [if_neg h, List.getElem?_append]
    by_cases hlt : s < g.all.length
    · rw [if_pos hlt]
      rfl
    · -- Beyond the new signal there was nothing before and is nothing now.
      have hle : g.all.length ≤ s := Nat.not_lt.mp hlt
      have hpos : 0 < s - g.all.length := Nat.sub_pos_of_lt (Nat.lt_of_le_of_ne hle (Ne.symm h))
      rw [if_neg hlt, List.getElem?_eq_none hpos]
      exact (List.getElem?_eq_none hle).symm

theorem isHeld_fresh_self (g : Signals) : g.fresh.2.isHeld g.size = true := by
  rw [isHeld, get?_fresh, if_pos rfl]
  rfl

/-- A new signal is not cancelled, and nobody else is for it. -/
theorem isCancelled_fresh (g : Signals) (s : SignalId) :
    g.fresh.2.isCancelled s = g.isCancelled s := by
  by_cases h : s = g.size
  · have hnew : g.get? g.size = none := List.getElem?_eq_none (Nat.le_refl _)
    -- Where nothing was made yet, nothing counts as cancelled.
    rw [isCancelled, isCancelled, get?_fresh, if_pos h, h, hnew]
  · rw [isCancelled, isCancelled, get?_fresh, if_neg h]

/-- A new signal has no links, and those of the others are as before. Before it was
    made, there was nothing at its number, which counts as no links too. -/
theorem linksOf_fresh (g : Signals) (s : SignalId) : g.fresh.2.linksOf s = g.linksOf s := by
  rw [linksOf, linksOf, get?_fresh]
  by_cases h : s = g.size
  · have hnew : g.get? g.size = none := List.getElem?_eq_none (Nat.le_refl _)
    rw [if_pos h, h, hnew]
  · rw [if_neg h]

/-- Making a signal loses nothing. -/
theorem extends_fresh (g : Signals) : Extends g g.fresh.2 := by
  have hheld : ∀ s, g.isHeld s = true → g.fresh.2.isHeld s = true := by
    intro s hs
    rw [isHeld, get?_fresh, if_neg (Nat.ne_of_lt (lt_size_of_isHeld hs))]
    exact hs
  refine ⟨fun s hs => (isCancelled_fresh g s).trans hs, hheld,
    fun x y hxy => ⟨hheld y hxy.held, ?_⟩⟩
  rw [isCancelled_fresh, isCancelled_fresh, linksOf_fresh]
  exact hxy.linked

/-- Attaching loses nothing: of the links that were there only those to
    signals that nobody holds are cleared away. -/
theorem extends_attach (g : Signals) (s t : SignalId) : Extends g (g.attach s t) := by
  rw [attach_eq]
  by_cases h : g.isCancelled s = true
  · rw [if_pos h]
    exact extends_cancel g t
  · rw [if_neg h]
    refine ⟨fun x hx => ?_, fun x hx => ?_, fun x y hxy => ⟨?_, ?_⟩⟩
    · rwa [isCancelled_relink]
    · rwa [isHeld_relink]
    · rw [isHeld_relink]
      exact hxy.held
    · rw [isCancelled_relink, isCancelled_relink]
      refine hxy.linked.imp_right fun ⟨hx, hlink⟩ => ⟨hx, ?_⟩
      by_cases hsx : s = x
      · -- The link was already there, and `y` is held, so it is not cleared away.
        subst hsx
        rw [linksOf_relink_self _ (lt_size_of_mem_linksOf hlink)]
        exact List.mem_append_left _ (List.mem_filter.mpr ⟨hlink, hxy.held⟩)
      · rw [linksOf_relink_of_ne _ hsx]
        exact hlink

/-- Attaching makes one signal lead to another, whether in time for a link or too
    late for one. -/
theorem leads_attach (hs : s < g.size) (ht : g.isHeld t = true) :
    (g.attach s t).Leads s t := by
  rw [attach_eq]
  by_cases h : g.isCancelled s = true
  · -- Attached too late for a link, the other signal is cancelled at once.
    rw [if_pos h]
    exact ⟨isHeld_deliver [t] ht, .inl (isCancelled_cancel ht)⟩
  · rw [if_neg h]
    refine ⟨(isHeld_relink ..).trans ht, .inr ⟨?_, ?_⟩⟩
    · rwa [isCancelled_relink, ← Bool.not_eq_true]
    · rw [linksOf_relink_self _ hs]
      exact List.mem_append_right _ (.head _)

theorem isCancelled_detach (g : Signals) (s t x : SignalId) :
    (g.detach s t).isCancelled x = g.isCancelled x := by
  rw [detach_eq, isCancelled_relink]

theorem isHeld_detach (g : Signals) (s t x : SignalId) :
    (g.detach s t).isHeld x = g.isHeld x := by
  rw [detach_eq, isHeld_relink]

theorem isCancelled_hold (g : Signals) (s x : SignalId) :
    (g.hold s).isCancelled x = g.isCancelled x :=
  isCancelled_modify (f := fun signal => { signal with holders := signal.holders + 1 })
    (fun _ => rfl) g s x

theorem isHeld_hold (s : SignalId) (h : g.isHeld x = true) : (g.hold s).isHeld x = true := by
  rcases isHeld_iff.mp h with ⟨signal, hx, hpos⟩
  rw [isHeld, hold, get?_modify, hx]
  by_cases hs : s = x
  · simp only [Option.map_some, if_pos hs, Nat.succ_pos, decide_true]
  · simp only [Option.map_some, if_neg hs, hpos, decide_true]

/-- Letting a signal go does not uncancel it, though it may be the last that anybody
    sees of it. -/
theorem isCancelled_release (g : Signals) (s x : SignalId) :
    (g.release s).isCancelled x = g.isCancelled x :=
  isCancelled_modify (f := fun signal => { signal with holders := signal.holders - 1 })
    (fun _ => rfl) g s x

theorem isHeld_release_of_ne (g : Signals) (h : s ≠ x) :
    (g.release s).isHeld x = g.isHeld x := by
  rw [isHeld, isHeld, release, get?_modify]
  simp only [if_neg h]
  cases g.get? x <;> rfl

end Signals

end EventFlow
