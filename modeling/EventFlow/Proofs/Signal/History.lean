import EventFlow.Proofs.Signal.Delivery

/-!
# Signals and Their History

What became of a signal can be told from what was done to signals, without a
look at their links.

Links do not last. They are taken away when a signal is cancelled, cleared
away when nobody holds their target any more, and removed by detaching, so the
lists of a state do not say who was once attached to whom. A history does:
`Deed` is one thing that is done to signals by somebody who holds them, and
`after` is the state to which a list of deeds leads. `Linked` reads off a
history which links were attached and not detached since, and `Bound` which
were attached and not detached while there was still something to detach, that
is before their source was cancelled.

`Recorded` is what ties the two together. To be bound means to be led to, in
the sense of `Leads`: for as long as a target is held, its link is there, or
its source has been cancelled and then so has the target. And a link that is
there and whose target is held is one of the history. Every deed keeps this,
whatever cycles the links form, since a cancellation hands the links that it
takes away to those that are still to be visited.

It follows that the outcome of a cancellation is told by the history alone: it
cancels what is linked from the signal by a chain of signals all of which are
held, and what was cancelled before.

## Main definitions

* `Deed`, `Deed.Allowed`: What is done to signals, and by whom it can be.
* `Signals.after`, `Possible`: The outcome of a history, and which there are.
* `Linked`: Attached and not detached since.
* `Bound`: Attached and not detached before it had an effect.
* `Signals.Recorded`: Links are those of a history.

## Theorems

* `bound_of_linked`: What is linked is bound.
* `recorded_after`: Links are those of the history.
* `isCancelled_perform`: Nothing that is cancelled is ever not.
* `filter_linksOf_detach`: What detaching does to links.
* `cancel_spreads_along_links`: What a cancellation does is told by the history.
-/

namespace EventFlow

/-- What is done to signals. -/
inductive Deed where
  /-- A new signal is made. -/
  | make (s : SignalId)
  /-- A new signal is made that is already cancelled. -/
  | makeCancelled (s : SignalId)
  /-- One more holds a signal. -/
  | clone (s : SignalId)
  /-- A new signal `t` is made that is cancelled when `s` is. -/
  | child (s t : SignalId)
  | attach (s t : SignalId)
  | detach (s t : SignalId)
  | cancel (s : SignalId)
  /-- One less holds a signal. -/
  | drop (s : SignalId)
  deriving DecidableEq, Repr

/-- The link that a deed attaches. -/
def Deed.link? : Deed → Option (SignalId × SignalId)
  | .child s t | .attach s t => some (s, t)
  | _ => none

/-- Whoever does something to signals holds them, and a new signal is given the
    number that comes next. -/
def Deed.Allowed (g : Signals) : Deed → Prop
  | .make s | .makeCancelled s => s = g.size
  | .clone s | .cancel s | .drop s => g.isHeld s = true
  | .child s t => g.isHeld s = true ∧ t = g.size
  | .attach s t | .detach s t => g.isHeld s = true ∧ g.isHeld t = true

namespace Signals

/-- What a deed makes of the signals. -/
def perform (g : Signals) : Deed → Signals
  | .make _ => g.fresh.2
  | .makeCancelled _ => g.freshCancelled.2
  | .clone s => g.hold s
  | .child s _ => (g.child s).2
  | .attach s t => g.attach s t
  | .detach s t => g.detach s t
  | .cancel s => g.cancel s
  | .drop s => g.release s

/-- The signals after a history, whose latest deed comes first. -/
def after : List Deed → Signals
  | [] => .empty
  | deed :: deeds => (after deeds).perform deed

end Signals

/-- A history is possible if every deed in it was allowed when it was done. -/
def Possible : List Deed → Prop
  | [] => True
  | deed :: deeds => deed.Allowed (.after deeds) ∧ Possible deeds

/-- In the course of a history, `x` was linked to `y`, and it was not detached
    from it since. -/
def Linked : List Deed → SignalId → SignalId → Prop
  | [], _, _ => False
  | deed :: deeds, x, y => deed.link? = some (x, y) ∨ deed ≠ .detach x y ∧ Linked deeds x y

/-- In the course of a history, `x` was linked to `y`, and it was not detached
    from it before `x` was cancelled. -/
def Bound : List Deed → SignalId → SignalId → Prop
  | [], _, _ => False
  | deed :: deeds, x, y => deed.link? = some (x, y) ∨
      (deed = .detach x y → (Signals.after deeds).isCancelled x = true) ∧ Bound deeds x y

/-- What is linked is bound. A link that was never detached was not detached in time
    either, so the stronger of the two relations needs no state to be read off. -/
theorem bound_of_linked {deeds : List Deed} {x y : SignalId} (h : Linked deeds x y) :
    Bound deeds x y := by
  induction deeds with
  | nil => exact h
  | cons deed deeds ih =>
      rcases h with hlink | ⟨hne, hlinked⟩
      · exact .inl hlink
      · exact .inr ⟨fun heq => absurd heq hne, ih hlinked⟩

namespace Signals

variable {g : Signals} {s t x y : SignalId} {bound linked : SignalId → SignalId → Prop}

/-! ## What the operations do to links -/

/-- Changing a signal neither makes nor removes one. -/
theorem size_modify (g : Signals) (s : SignalId) (f : Signal → Signal) :
    (g.modify s f).size = g.size :=
  List.length_modify ..

theorem size_deliver (g : Signals) (pending : List SignalId) : (g.deliver pending).size = g.size :=
  deliver_rule (P := fun g' => g'.size = g.size) (fun _ _ _ h => (size_modify _ _ _).trans h) g
    pending rfl

theorem size_fresh (g : Signals) : g.fresh.2.size = g.size + 1 :=
  List.length_append

/-- A link that is there after a delivery was there before. -/
theorem mem_linksOf_of_deliver {pending : List SignalId}
    (h : y ∈ (g.deliver pending).linksOf x) : y ∈ g.linksOf x := by
  rw [linksOf_deliver] at h
  by_cases hnew : g.isCancelled x = false ∧ (g.deliver pending).isCancelled x = true
  · rw [if_pos hnew] at h
    exact absurd h List.not_mem_nil
  · rwa [if_neg hnew] at h

/-- The new signal is the only one that gains a holder. -/
theorem isHeld_fresh_of_lt (h : s < g.size) : g.fresh.2.isHeld s = g.isHeld s := by
  rw [isHeld, isHeld, get?_fresh, if_neg (Nat.ne_of_lt h)]

/-- Changing the links of one signal changes those of no other. -/
theorem linksOf_relink (t : SignalId) (f : List SignalId → List SignalId) (hs : s < g.size) :
    (g.relink s f).linksOf t = if s = t then f (g.linksOf s) else g.linksOf t := by
  by_cases h : s = t
  · rw [if_pos h, ← h, linksOf_relink_self f hs]
  · rw [if_neg h, linksOf_relink_of_ne f h]

/-- What detaching does to links. -/
theorem linksOf_detach (t x : SignalId) (hs : s < g.size) :
    (g.detach s t).linksOf x =
      if s = x then (g.linksOf s).filter fun u => g.isHeld u && u != t else g.linksOf x := by
  rw [detach_eq, linksOf_relink x _ hs]

/-- Detaching removes all copies of a link, and of the other links none whose
    target is held. -/
theorem filter_linksOf_detach (t x : SignalId) (hs : s < g.size) :
    ((g.detach s t).linksOf x).filter g.isHeld =
      ((g.linksOf x).filter g.isHeld).filter fun y => !(x == s && y == t) := by
  rw [linksOf_detach t x hs, List.filter_filter]
  by_cases hx : s = x
  · subst hx
    rw [if_pos rfl, List.filter_filter]
    -- On the list of the source, a link is kept if its target is held and is another one.
    refine List.filter_congr fun y _ => ?_
    rw [beq_self_eq_true, Bool.true_and, bne]
    cases g.isHeld y <;> simp only [Bool.true_and, Bool.false_and, Bool.and_true, Bool.and_false]
  · rw [if_neg hx]
    refine List.filter_congr fun y _ => ?_
    rw [beq_false_of_ne (Ne.symm hx), Bool.false_and, Bool.not_false, Bool.true_and]

theorem size_attach (g : Signals) (s t : SignalId) : (g.attach s t).size = g.size := by
  rw [attach_eq]
  by_cases hc : g.isCancelled s = true
  · rw [if_pos hc, cancel, size_deliver]
  · rw [if_neg hc, relink, size_modify]

theorem size_detach (g : Signals) (s t : SignalId) : (g.detach s t).size = g.size := by
  rw [detach_eq, relink, size_modify]

/-- A link that is there after attaching was there before, or is the one that
    was attached. -/
theorem mem_linksOf_of_attach (h : y ∈ (g.attach s t).linksOf x) :
    x = s ∧ y = t ∨ y ∈ g.linksOf x := by
  have hx := lt_size_of_mem_linksOf h
  rw [size_attach] at hx
  rw [attach_eq] at h
  by_cases hc : g.isCancelled s = true
  · rw [if_pos hc] at h
    -- Too late for a link: the target is cancelled, which only takes links away.
    exact .inr (mem_linksOf_of_deliver h)
  · rw [if_neg hc] at h
    by_cases hsx : s = x
    · subst hsx
      rw [linksOf_relink_self _ hx, List.mem_append, List.mem_filter, List.mem_singleton] at h
      rcases h with ⟨hold, -⟩ | hnew
      · exact .inr hold
      · exact .inl ⟨rfl, hnew⟩
    · rw [linksOf_relink_of_ne _ hsx] at h
      exact .inr h

/-- A link that is there after detaching was there before, and is not the one
    that was detached. -/
theorem mem_linksOf_of_detach (h : y ∈ (g.detach s t).linksOf x) :
    ¬ (s = x ∧ t = y) ∧ y ∈ g.linksOf x := by
  have hx := lt_size_of_mem_linksOf h
  rw [size_detach] at hx
  rw [detach_eq] at h
  by_cases hsx : s = x
  · subst hsx
    rw [linksOf_relink_self _ hx, List.mem_filter, Bool.and_eq_true, bne_iff_ne] at h
    exact ⟨fun heq => h.2.2 heq.2.symm, h.1⟩
  · rw [linksOf_relink_of_ne _ hsx] at h
    exact ⟨fun heq => hsx heq.1, h⟩

/-- Attaching neither holds a signal nor lets one go, even where it comes too late
    and cancels. -/
theorem isHeld_attach (g : Signals) (s t x : SignalId) :
    (g.attach s t).isHeld x = g.isHeld x := by
  rw [attach_eq]
  by_cases hc : g.isCancelled s = true
  · rw [if_pos hc, cancel, isHeld_deliver_eq]
  · rw [if_neg hc, isHeld_relink]

/-! ## Links and the history -/

/-- The links are those of a history: what is bound is led to, if it is held,
    and what is there is linked. -/
structure Recorded (bound linked : SignalId → SignalId → Prop) (g : Signals) : Prop where
  leads : ∀ x y, bound x y → g.isHeld y = true → g.Leads x y
  linked : ∀ x y, y ∈ g.linksOf x → linked x y
  closed : ∀ x, g.isCancelled x = true → g.linksOf x = []
  bound_lt : ∀ x y, bound x y → y < g.size

theorem Recorded.mono {bound' linked' : SignalId → SignalId → Prop}
    (h : Recorded bound linked g) (hbound : ∀ x y, bound' x y → bound x y)
    (hlinked : ∀ x y, linked x y → linked' x y) : Recorded bound' linked' g where
  leads := fun x y hxy => h.leads x y (hbound x y hxy)
  linked := fun x y hlink => hlinked x y (h.linked x y hlink)
  closed := h.closed
  bound_lt := fun x y hxy => h.bound_lt x y (hbound x y hxy)

/-- Whatever changes no link and no mark, and brings nobody back who was gone,
    leaves the links as they are recorded. -/
theorem Recorded.same {g' : Signals} (h : Recorded bound linked g)
    (cancelled : ∀ x, g'.isCancelled x = g.isCancelled x)
    (links : ∀ x, g'.linksOf x = g.linksOf x)
    (held : ∀ x, x < g.size → g'.isHeld x = true → g.isHeld x = true)
    (size : g.size ≤ g'.size) : Recorded bound linked g' where
  leads := fun x y hxy hy => by
    rcases h.leads x y hxy (held y (h.bound_lt x y hxy) hy) with ⟨-, hlinked⟩
    refine ⟨hy, ?_⟩
    rwa [cancelled, cancelled, links]
  linked := fun x y hlink => by
    rw [links] at hlink
    exact h.linked x y hlink
  closed := fun x hx => by
    rw [cancelled] at hx
    rw [links, h.closed x hx]
  bound_lt := fun x y hxy => Nat.lt_of_lt_of_le (h.bound_lt x y hxy) size

/-- Making a signal leaves the links as they are recorded: it is new, so nothing
    recorded was about it. -/
theorem recorded_fresh (h : Recorded bound linked g) : Recorded bound linked g.fresh.2 :=
  h.same (isCancelled_fresh g) (linksOf_fresh g)
    (fun _ hlt hx => (isHeld_fresh_of_lt hlt).symm.trans hx)
    (Nat.le_trans (Nat.le_succ _) (Nat.le_of_eq (size_fresh g).symm))

theorem recorded_hold (hs : g.isHeld s = true) (h : Recorded bound linked g) :
    Recorded bound linked (g.hold s) :=
  h.same (isCancelled_hold g s) (linksOf_hold g s) (fun _ _ => isHeld_of_hold hs)
    (Nat.le_of_eq (size_modify ..).symm)

/-- Letting a signal go leaves the links as they are recorded. Less is held
    afterwards, and only targets that are held are asked about. -/
theorem recorded_release (s : SignalId) (h : Recorded bound linked g) :
    Recorded bound linked (g.release s) :=
  h.same (isCancelled_release g s) (linksOf_release g s) (fun _ _ => isHeld_of_release)
    (Nat.le_of_eq (size_modify ..).symm)

/-- A cancellation leaves what is bound led to, although the links themselves are
    gone: in their stead, the target is cancelled. -/
theorem recorded_cancel (s : SignalId) (h : Recorded bound linked g) :
    Recorded bound linked (g.cancel s) where
  leads := fun x y hxy hy => by
    rw [cancel, isHeld_deliver_eq] at hy
    exact (extends_cancel g s).leads x y (h.leads x y hxy hy)
  linked := fun x y hlink => h.linked x y (mem_linksOf_of_deliver hlink)
  closed := fun x hx => by
    rw [cancel] at hx ⊢
    rw [linksOf_deliver]
    cases hold : g.isCancelled x with
    | false => rw [if_pos ⟨rfl, hx⟩]
    | true => simp only [Bool.true_eq_false, false_and, if_false, h.closed x hold]
  bound_lt := fun x y hxy => by
    rw [cancel, size_deliver]
    exact h.bound_lt x y hxy

/-- Attaching records a link, or sees to it that there is nothing to record. -/
theorem recorded_attach (hs : s < g.size) (ht : t < g.size) (h : Recorded bound linked g) :
    Recorded (fun x y => x = s ∧ y = t ∨ bound x y) (fun x y => x = s ∧ y = t ∨ linked x y)
      (g.attach s t) where
  leads := fun x y hxy hy => by
    rw [isHeld_attach] at hy
    rcases hxy with ⟨rfl, rfl⟩ | hxy
    · exact leads_attach hs hy
    · exact (extends_attach g s t).leads x y (h.leads x y hxy hy)
  linked := fun x y hlink => (mem_linksOf_of_attach hlink).imp_right (h.linked x y)
  closed := fun x hx => by
    by_cases hc : g.isCancelled s = true
    · rw [attach_eq, if_pos hc] at hx ⊢
      exact (recorded_cancel t h).closed x hx
    · rw [attach_eq, if_neg hc] at hx ⊢
      rw [isCancelled_relink] at hx
      -- The link was given to a signal that is not cancelled.
      have hne : s ≠ x := fun heq => hc (heq ▸ hx)
      rw [linksOf_relink_of_ne _ hne, h.closed x hx]
  bound_lt := fun x y hxy => by
    rw [size_attach]
    rcases hxy with ⟨-, rfl⟩ | hxy
    · exact ht
    · exact h.bound_lt x y hxy

/-- Detaching unbinds a link whose source is not cancelled. -/
theorem recorded_detach (hs : s < g.size) (h : Recorded bound linked g) :
    Recorded (fun x y => (s = x ∧ t = y → g.isCancelled x = true) ∧ bound x y)
      (fun x y => ¬ (s = x ∧ t = y) ∧ linked x y) (g.detach s t) := by
  refine ⟨fun x y hxy hy => ?_, fun x y hlink => ?_, fun x hx => ?_, fun x y hxy => ?_⟩
  · rw [isHeld_detach] at hy
    rcases h.leads x y hxy.2 hy with ⟨hheld, hy' | ⟨hx, hlink⟩⟩
    · exact ⟨(isHeld_detach ..).trans hheld, .inl ((isCancelled_detach ..).trans hy')⟩
    · refine ⟨(isHeld_detach ..).trans hheld, .inr ⟨(isCancelled_detach ..).trans hx, ?_⟩⟩
      rw [linksOf_detach t x hs]
      by_cases hsx : s = x
      · -- Only a link to another target is left, or the source would be cancelled.
        subst hsx
        rw [if_pos rfl, List.mem_filter, Bool.and_eq_true, bne_iff_ne]
        refine ⟨hlink, hheld, fun heq => ?_⟩
        have hcancelled := hxy.1 ⟨rfl, heq.symm⟩
        rw [hx] at hcancelled
        exact Bool.false_ne_true hcancelled
      · rwa [if_neg hsx]
  · exact (mem_linksOf_of_detach hlink).imp_right (h.linked x y)
  · rw [isCancelled_detach] at hx
    rw [List.eq_nil_iff_forall_not_mem]
    intro y hlink
    have hold := (mem_linksOf_of_detach hlink).2
    rw [h.closed x hx] at hold
    exact absurd hold List.not_mem_nil
  · rw [size_detach]
    exact h.bound_lt x y hxy.2

/-! ## Deeds -/

/-- A deed that neither attaches nor detaches makes no difference to what is
    recorded. -/
theorem Recorded.plain {deeds : List Deed} {deed : Deed} (hlink : deed.link? = none)
    (hne : ∀ x y, deed ≠ .detach x y) (h : Recorded (Bound deeds) (Linked deeds) g) :
    Recorded (Bound (deed :: deeds)) (Linked (deed :: deeds)) g := by
  refine h.mono (fun x y hxy => ?_) (fun x y hxy => .inr ⟨hne x y, hxy⟩)
  rcases hxy with hnew | ⟨-, hold⟩
  · rw [hlink] at hnew
    exact absurd hnew (Option.some_ne_none _).symm
  · exact hold

/-- A deed that attaches adds one link to what is recorded. -/
theorem Recorded.attached {deeds : List Deed} {deed : Deed} (hlink : deed.link? = some (s, t))
    (h : Recorded (fun x y => x = s ∧ y = t ∨ Bound deeds x y)
      (fun x y => x = s ∧ y = t ∨ Linked deeds x y) g) :
    Recorded (Bound (deed :: deeds)) (Linked (deed :: deeds)) g := by
  refine h.mono (fun x y hxy => ?_) (fun x y hxy => ?_)
  · rcases hxy with hnew | ⟨-, hold⟩
    · rw [hlink, Option.some.injEq, Prod.mk.injEq] at hnew
      exact .inl ⟨hnew.1.symm, hnew.2.symm⟩
    · exact .inr hold
  · rcases hxy with ⟨rfl, rfl⟩ | hold
    · exact .inl hlink
    · refine .inr ⟨?_, hold⟩
      rintro rfl
      exact absurd hlink (Option.some_ne_none _).symm

/-- Every deed keeps the links those of the history, if it was allowed. This is the
    step of the induction over histories. -/
theorem recorded_perform {deeds : List Deed} {deed : Deed} (allowed : deed.Allowed (after deeds))
    (h : Recorded (Bound deeds) (Linked deeds) (after deeds)) :
    Recorded (Bound (deed :: deeds)) (Linked (deed :: deeds)) ((after deeds).perform deed) := by
  cases deed with
  | make s => exact (recorded_fresh h).plain rfl (fun _ _ => Deed.noConfusion)
  | makeCancelled s =>
      -- The new signal is cancelled before anybody can link it.
      exact (recorded_cancel _ (recorded_fresh h)).plain rfl (fun _ _ => Deed.noConfusion)
  | clone s => exact (recorded_hold allowed h).plain rfl (fun _ _ => Deed.noConfusion)
  | child s t =>
      -- A child is made and then attached, and between the two nothing is recorded of it.
      rcases allowed with ⟨hs, rfl⟩
      have hs' := isHeld_fresh_of_lt (lt_size_of_isHeld hs)
      exact (recorded_attach (lt_size_of_isHeld (hs'.trans hs))
        (lt_size_of_isHeld (isHeld_fresh_self _)) (recorded_fresh h)).attached rfl
  | attach s t =>
      exact (recorded_attach (lt_size_of_isHeld allowed.1) (lt_size_of_isHeld allowed.2)
        h).attached rfl
  | detach s t =>
      refine (recorded_detach (lt_size_of_isHeld allowed.1) h).mono (fun x y hxy => ?_)
        (fun x y hxy => ?_)
      · rcases hxy with hnew | ⟨hfirst, hold⟩
        · exact absurd hnew (Option.some_ne_none _).symm
        · exact ⟨fun heq => hfirst (by rw [heq.1, heq.2]), hold⟩
      · refine .inr ⟨fun heq => hxy.1 ?_, hxy.2⟩
        rwa [Deed.detach.injEq] at heq
  | cancel s => exact (recorded_cancel s h).plain rfl (fun _ _ => Deed.noConfusion)
  | drop s => exact (recorded_release s h).plain rfl (fun _ _ => Deed.noConfusion)

/-- The links are those of the history, by induction on its deeds. -/
theorem recorded_after {deeds : List Deed} (possible : Possible deeds) :
    Recorded (Bound deeds) (Linked deeds) (after deeds) := by
  induction deeds with
  | nil =>
      have hno : ∀ x y : SignalId, y ∉ empty.linksOf x := fun _ _ => List.not_mem_nil
      exact ⟨fun _ _ hxy => hxy.elim, fun x y hlink => absurd hlink (hno x y), fun _ _ => rfl,
        fun _ _ hxy => hxy.elim⟩
  | cons deed deeds ih => exact recorded_perform possible.1 (ih possible.2)

/-! ## What a cancellation does -/

/-- Nothing that is cancelled is ever not. -/
theorem isCancelled_perform (deed : Deed) (h : g.isCancelled x = true) :
    (g.perform deed).isCancelled x = true := by
  have hfresh : g.fresh.2.isCancelled x = true := (isCancelled_fresh g x).trans h
  cases deed with
  | make s => exact hfresh
  | makeCancelled s => exact isCancelled_deliver _ hfresh
  | clone s => exact (isCancelled_hold g s x).trans h
  | child s t => exact (extends_attach _ _ _).cancelled x hfresh
  | attach s t => exact (extends_attach g s t).cancelled x h
  | detach s t => exact (isCancelled_detach g s t x).trans h
  | cancel s => exact isCancelled_deliver _ h
  | drop s => exact (isCancelled_release g s x).trans h

/-- `x` is linked from `s` by a chain of signals that are held. -/
def Chained (deeds : List Deed) (g : Signals) : SignalId → SignalId → Prop :=
  Relation.ReflTransGen fun x y => Linked deeds x y ∧ g.isHeld x = true ∧ g.isHeld y = true

/-- What a cancellation cancels is what is linked from the signal. -/
theorem isCancelled_cancel_iff {deeds : List Deed}
    (h : Recorded (Bound deeds) (Linked deeds) g) (hs : g.isHeld s = true) :
    (g.cancel s).isCancelled x = true ↔ g.isCancelled x = true ∨ Chained deeds g s x := by
  refine ⟨fun hx => ?_, fun hx => ?_⟩
  · rcases meets_of_isCancelled_deliver g [s] hx with hx | ⟨p, hmem, -, hchain⟩
    · exact .inl hx
    · -- The links that the delivery followed were there, so each of them is one of the history.
      obtain rfl := List.mem_singleton.mp hmem
      refine .inr (Relation.ReflTransGen.mono ?_ _ _ hchain)
      rintro y z ⟨hy, hz, hlink⟩
      exact ⟨h.linked y z hlink, isHeld_of_isOpen hy, isHeld_of_isOpen hz⟩
  · rcases hx with hx | hchain
    · exact isCancelled_deliver [s] hx
    · -- What is linked is led to, before the cancellation and so after it.
      refine isCancelled_of_chain (Relation.ReflTransGen.mono ?_ _ _ hchain)
        (isCancelled_cancel hs)
      rintro y z ⟨hlinked, -, hz⟩
      exact (extends_cancel g s).leads y z (h.leads y z (bound_of_linked hlinked) hz)

/-- After every history: a thread that cancels a signal comes to an end, and
    then a signal is cancelled if it was cancelled before or is linked from
    that signal by a chain of signals that are held, and no other is; attaching
    to a signal that is cancelled is the same as cancelling the target, and
    otherwise cancels nothing; detaching removes all copies of a link, of the
    other links none whose target is held, and cancels nothing; nothing is ever
    cancelled no more; a cancelled signal has no links, and whatever was bound
    to it and is held is cancelled; and it does not matter which of two signals
    is cancelled first. -/
theorem cancel_spreads_along_links {deeds : List Deed} (possible : Possible deeds) :
    (∀ s, (after deeds).isHeld s = true →
      (∃ n, work^[n] ([.cancel s], after deeds) = ([], (after deeds).cancel s)) ∧
      ∀ x, (after deeds).isHeld x = true → (((after deeds).cancel s).isCancelled x = true ↔
        (after deeds).isCancelled x = true ∨ Chained deeds (after deeds) s x)) ∧
    (∀ s t, (after deeds).isHeld s = true → (after deeds).isHeld t = true →
      ((after deeds).isCancelled s = true → (after deeds).attach s t = (after deeds).cancel t) ∧
      ((after deeds).isCancelled s = false →
        ∀ x, ((after deeds).attach s t).isCancelled x = (after deeds).isCancelled x)) ∧
    (∀ s t, (after deeds).isHeld s = true → (after deeds).isHeld t = true →
      t ∉ ((after deeds).detach s t).linksOf s ∧
      (∀ x, (((after deeds).detach s t).linksOf x).filter (after deeds).isHeld =
        (((after deeds).linksOf x).filter (after deeds).isHeld).filter
          fun y => !(x == s && y == t)) ∧
      ∀ x, ((after deeds).detach s t).isCancelled x = (after deeds).isCancelled x) ∧
    (∀ deed x, (after deeds).isCancelled x = true →
      ((after deeds).perform deed).isCancelled x = true) ∧
    (∀ s, (after deeds).isCancelled s = true → (after deeds).linksOf s = [] ∧
      ∀ t, (after deeds).isHeld t = true → Bound deeds s t →
        (after deeds).isCancelled t = true) ∧
    ∀ s t, ((after deeds).cancel s).cancel t = ((after deeds).cancel t).cancel s := by
  -- All that is read off the history is in this; the other clauses are facts about any state.
  have h := recorded_after possible
  refine ⟨fun s hs => ⟨exists_work_cancel hs, fun x _ => isCancelled_cancel_iff h hs⟩,
    fun s t _ _ => ⟨fun hc => if_pos hc, fun hc x => ?_⟩, fun s t hs ht => ⟨?_, fun x => ?_, ?_⟩,
    fun deed x => isCancelled_perform deed,
    fun s hs => ⟨h.closed s hs, fun t ht hbound =>
      isCancelled_of_leads (h.leads s t hbound ht) hs⟩,
    cancel_comm _⟩
  · rw [attach_eq, hc, if_neg Bool.false_ne_true, isCancelled_relink]
  · rw [linksOf_detach t s (lt_size_of_isHeld hs), if_pos rfl, List.mem_filter,
      Bool.and_eq_true, bne_iff_ne]
    exact fun hmem => hmem.2.2 rfl
  · exact filter_linksOf_detach t x (lt_size_of_isHeld hs)
  · exact fun x => isCancelled_detach _ s t x

/-- A cycle, a link to itself, a link that is there twice, and a signal that
    somebody let go: cancellation goes round the cycle, but not past the signal
    that is gone. -/
theorem cancel_spreads_along_links_cycle : ∃ deeds : List Deed, Possible deeds ∧
    deeds = [.drop 2, .child 2 3, .child 1 2, .attach 1 1, .attach 0 1, .attach 1 0, .child 0 1,
      .make 0] ∧
    ((after deeds).cancel 1).isCancelled 0 = true ∧
    ((after deeds).cancel 1).isCancelled 3 = false := by
  have possible : Possible [.drop 2, .child 2 3, .child 1 2, .attach 1 1, .attach 0 1,
      .attach 1 0, .child 0 1, .make 0] :=
    ⟨rfl, ⟨rfl, rfl⟩, ⟨rfl, rfl⟩, ⟨rfl, rfl⟩, ⟨rfl, rfl⟩, ⟨rfl, rfl⟩, ⟨rfl, rfl⟩, rfl, trivial⟩
  rcases (cancel_spreads_along_links possible).1 1 rfl with ⟨-, hiff⟩
  refine ⟨_, possible, rfl, (hiff 0 rfl).mpr (.inr (.single ⟨?_, rfl, rfl⟩)), ?_⟩
  · simp [Linked, Deed.link?]
  · rw [← Bool.not_eq_true, hiff 3 rfl]
    rintro (hbefore | hchain)
    · exact absurd hbefore Bool.false_ne_true
    · -- The only link to the last signal is that of the one that is gone.
      rcases hchain.cases_tail with heq | ⟨y, -, hlinked, hheld, -⟩
      · exact absurd heq (by decide)
      · have hy : y = 2 := by simpa [Linked, Deed.link?, eq_comm] using hlinked
        rw [hy] at hheld
        exact absurd hheld Bool.false_ne_true

end Signals

end EventFlow
