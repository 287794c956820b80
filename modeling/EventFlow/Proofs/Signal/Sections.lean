import EventFlow.Proofs.Signal.History

/-!
# What a Critical Section Keeps

Between two critical sections of a call anything may happen, so what an
operation achieves has to be said of each of its critical sections.

A call on a signal is not one step. A thread that cancels marks a signal and
takes its links, and while it goes through them, others attach, detach, cancel,
and let go. What could go wrong is a link that is made while its source is
being cancelled: too late for the list that was taken, too early to be told
that there is nothing to attach to. It does not go wrong because both look at
the mark in the critical section in which they touch the list. So at each
moment a link that was attached is on the list of a source that is not
cancelled, or its target is cancelled, or some call is still on its way to the
target. `Sound` says this by what is `Recorded` of the links, for all targets
that nothing waits to be passed on to. It says as well that nothing is
cancelled, nor about to be, without a cause.

## Main definitions

* `Chore.Did`: All that a critical section can do.
* `Waits`: Something is still to be done that cancels a signal.
* `Attached`, `Caused`: What a history gives reason to.
* `Signals.Sound`: No link and no cancellation is lost, nor made up.

## Theorems

* `did_run`: A critical section does nothing else.
* `recorded_mark`: Marking a signal unbinds no more than the links it takes.
* `recorded_of_did`, `caused_of_isCancelled`, `caused_of_waits`: What becomes of
  links and causes.
* `sound_of_did`: A critical section of a longer call loses nothing.
* `sound_perform`: Neither does one that is all there is to do.
* `less_of_did`: Each leaves less to do.
-/

namespace EventFlow

open Signals

/-- What a deed in one critical section is, of those that call for no other. -/
def Deed.IsBrief : Deed → Prop
  | .make _ | .clone _ | .detach _ _ | .drop _ => True
  | .makeCancelled _ | .child _ _ | .attach _ _ | .cancel _ => False

namespace Signals.Chore

/-- The signal that a chore is going to cancel, if it comes to it. Of attaching
    nothing is known before the mark of the source has been looked at. -/
def target? : Chore → Option SignalId
  | .cancel s | .pass s => some s
  | .letGo _ | .attach _ _ => none

/-- What a chore adds to the history. -/
def deeds : Chore → List Deed
  | .attach s t => [.attach s t]
  | .cancel _ | .pass _ | .letGo _ => []

/-- The signals that a chore links are among those that there are. -/
def Inside (g : Signals) : Chore → Prop
  | .attach s t => s < g.size ∧ t < g.size
  | .cancel _ | .pass _ | .letGo _ => True

/-- What a critical section can do: what it leaves to do, and the signals to
    which it leads. -/
inductive Did (g : Signals) : Chore → List Chore → Signals → Prop where
  /-- The signal was cancelled before. -/
  | again {s : SignalId} (cancelled : g.isCancelled s = true) : Did g (.cancel s) [] g
  /-- The signal is marked, and its links are taken. -/
  | marked {s : SignalId} (uncancelled : g.isCancelled s = false) :
      Did g (.cancel s) ((g.linksOf s).map .pass) (g.mark s)
  /-- The signal is held, to be cancelled. -/
  | reached {s : SignalId} (held : g.isHeld s = true) :
      Did g (.pass s) [.cancel s, .letGo s] (g.hold s)
  /-- Nobody holds the signal any more. -/
  | missed {s : SignalId} (gone : ¬ g.isHeld s = true) : Did g (.pass s) [] g
  | released (s : SignalId) : Did g (.letGo s) [] (g.release s)
  /-- The source was cancelled before, so that the target has to be. -/
  | late {s t : SignalId} (cancelled : g.isCancelled s = true) : Did g (.attach s t) [.cancel t] g
  | linked {s t : SignalId} (uncancelled : g.isCancelled s = false) :
      Did g (.attach s t) [] (g.attach s t)

/-- A critical section does nothing else than `Did` says. From here on proofs go
    through its cases, and `Chore.run` stays closed. -/
theorem did_run (chore : Chore) (g : Signals) : Did g chore (chore.run g).1 (chore.run g).2 := by
  cases chore with
  | cancel s =>
      cases hc : g.isCancelled s with
      | true => rw [run_cancel_of_isCancelled hc]; exact .again hc
      | false => rw [run_cancel hc]; exact .marked hc
  | pass s =>
      by_cases held : g.isHeld s = true
      · rw [run_pass held]; exact .reached held
      · rw [run_pass_of_not_isHeld held]; exact .missed held
  | letGo s => exact .released s
  | attach s t =>
      cases hc : g.isCancelled s with
      | true => rw [run, if_pos hc]; exact .late hc
      | false => rw [run, hc, if_neg Bool.false_ne_true]; exact .linked hc

end Signals.Chore

/-- Some of the chores is on the way to cancel a signal. Until it gets there, a link
    to the signal may be on no list. -/
def Waits (chores : List Chore) (x : SignalId) : Prop :=
  ∃ chore ∈ chores, chore.target? = some x

/-- In the course of a history, `x` was linked to `y`. -/
def Attached (deeds : List Deed) (x y : SignalId) : Prop :=
  ∃ deed ∈ deeds, deed.link? = some (x, y)

/-- In the course of a history, a signal was to be cancelled, or one from which
    a chain of links leads to it. -/
def Caused (deeds : List Deed) (x : SignalId) : Prop :=
  ∃ s, Deed.cancel s ∈ deeds ∧ Relation.ReflTransGen (Attached deeds) s x

section Histories

variable {s t x y : SignalId} {deed : Deed} {deeds deeds' : List Deed} {chore : Chore}
  {first chores : List Chore}

/-! ## What is waited for, and why -/

theorem waits_cons : Waits (chore :: chores) x ↔ chore.target? = some x ∨ Waits chores x := by
  simp only [Waits, List.mem_cons, or_and_right, exists_or, exists_eq_left]

/-- What waits in a list of chores waits in one of its parts, so a call can be
    looked at apart from the others. -/
theorem waits_append : Waits (first ++ chores) x ↔ Waits first x ∨ Waits chores x := by
  simp only [Waits, List.mem_append, or_and_right, exists_or]

theorem not_waits_nil : ¬ Waits [] x := by
  rintro ⟨chore, hmem, -⟩
  exact List.not_mem_nil hmem

/-- What is done in one critical section and calls for no other attaches nothing. -/
theorem link?_of_isBrief (brief : deed.IsBrief) : deed.link? = none := by
  cases deed with
  | make _ | clone _ | detach _ _ | drop _ => rfl
  | makeCancelled _ | child _ _ | attach _ _ | cancel _ => exact brief.elim

/-- What is linked after a deed that attaches nothing was linked before, and is not
    what was detached. -/
theorem linked_of_cons (hlink : deed.link? = none) (h : Linked (deed :: deeds) x y) :
    deed ≠ .detach x y ∧ Linked deeds x y := by
  rcases h with hnew | hold
  · rw [hlink] at hnew
    exact absurd hnew.symm (Option.some_ne_none _)
  · exact hold

theorem Attached.cons (h : Attached deeds x y) : Attached (deed :: deeds) x y := by
  rcases h with ⟨deed, hmem, hlink⟩
  exact ⟨deed, .tail _ hmem, hlink⟩

/-- A cause remains one, whatever is done later. -/
theorem Caused.cons (h : Caused deeds x) : Caused (deed :: deeds) x := by
  rcases h with ⟨s, hs, hchain⟩
  exact ⟨s, .tail _ hs, Relation.ReflTransGen.mono (fun _ _ => Attached.cons) _ _ hchain⟩

theorem Caused.append (h : Caused deeds x) : Caused (deeds' ++ deeds) x := by
  induction deeds' with
  | nil => exact h
  | cons deed deeds' ih => exact ih.cons

/-- A cause is passed on along what was attached, even if it was detached since. -/
theorem Caused.tail (h : Caused deeds x) (hlink : Attached deeds x y) : Caused deeds y := by
  rcases h with ⟨s, hs, hchain⟩
  exact ⟨s, hs, hchain.tail hlink⟩

end Histories

namespace Signals

variable {g g' : Signals} {s t x y : SignalId} {bound bound' linked : SignalId → SignalId → Prop}
  {deed : Deed} {deeds : List Deed} {chore next : Chore}
  {more chores chores' : List Chore}

/-! ## What a critical section keeps -/

/-- A critical section of a call makes no signals. -/
theorem size_of_did (did : chore.Did g more g') : g'.size = g.size := by
  cases did with
  | again _ | missed _ | late _ => rfl
  | marked _ | reached _ | released _ => exact size_modify ..
  | linked _ => exact size_attach ..

/-- It is as well to bind targets that are cancelled or gone: of the former nothing
    more is asked, and of the latter nothing at all. -/
theorem Recorded.relax (h : Recorded bound linked g)
    (hnew : ∀ x y, bound' x y →
      bound x y ∨ y < g.size ∧ (g.isHeld y = true → g.isCancelled y = true)) :
    Recorded bound' linked g where
  leads := fun x y hxy hy => by
    rcases hnew x y hxy with hold | ⟨-, hcancelled⟩
    · exact h.leads x y hold hy
    · exact ⟨hy, .inl (hcancelled hy)⟩
  linked := h.linked
  closed := h.closed
  bound_lt := fun x y hxy => (hnew x y hxy).elim (h.bound_lt x y) And.left

/-- Marking a signal binds everything to it, and unbinds nothing but the targets
    of the links that are taken. -/
theorem recorded_mark (h : Recorded bound linked g)
    (hnew : ∀ x y, bound' x y → y < g.size ∧ y ∉ g.linksOf s ∧ (s = y ∨ bound x y)) :
    Recorded bound' linked (g.mark s) where
  leads := fun x y hxy hy => by
    rw [isHeld_mark] at hy
    refine ⟨(isHeld_mark g s y).trans hy, ?_⟩
    by_cases hsy : s = y
    · subst hsy
      exact .inl (isCancelled_mark_self hy)
    · rcases hnew x y hxy with ⟨-, htaken, hbound⟩
      rw [isCancelled_mark_of_ne g hsy]
      refine (h.leads x y (hbound.resolve_left hsy) hy).linked.imp_right fun ⟨hx, hlink⟩ => ?_
      -- The link is not one of those that are taken, so it is on another list.
      have hsx : s ≠ x := fun heq => htaken (heq ▸ hlink)
      rw [isCancelled_mark_of_ne g hsx, linksOf_mark_of_ne g hsx]
      exact ⟨hx, hlink⟩
  linked := fun x y hlink => by
    by_cases hsx : s = x
    · rw [hsx, linksOf_mark_self] at hlink
      exact absurd hlink List.not_mem_nil
    · rw [linksOf_mark_of_ne g hsx] at hlink
      exact h.linked x y hlink
  closed := fun x hx => by
    by_cases hsx : s = x
    · rw [hsx, linksOf_mark_self]
    · rw [isCancelled_mark_of_ne g hsx] at hx
      rw [linksOf_mark_of_ne g hsx, h.closed x hx]
  bound_lt := fun x y hxy => by
    rw [mark, size_modify]
    exact (hnew x y hxy).1

/-- A critical section keeps what is bound except to targets that some call is
    on its way to; those that `waits` are the targets of other calls. -/
theorem recorded_of_did {waits : SignalId → Prop} (did : chore.Did g more g')
    (inside : chore.Inside g) (hlt : ∀ x y, bound x y → y < g.size)
    (h : Recorded (fun x y => bound x y ∧ chore.target? ≠ some y ∧ ¬ waits y) linked g) :
    Recorded
      (fun x y => (chore = .attach x y ∨ bound x y) ∧
        (∀ next ∈ more, next.target? ≠ some y) ∧ ¬ waits y)
      (fun x y => chore = .attach x y ∨ linked x y) g' := by
  cases did with
  | @again s cancelled =>
      -- Whatever is linked to the signal is bound, now that it has been found cancelled.
      refine (h.relax fun x y hxy => ?_).mono (fun _ _ => id) fun _ _ => .inr
      rcases hxy with ⟨hbound, -, hwaits⟩
      have hbound := hbound.resolve_left Chore.noConfusion
      by_cases hsy : s = y
      · exact .inr ⟨hlt x y hbound, fun _ => hsy ▸ cancelled⟩
      · exact .inl ⟨hbound, fun heq => hsy (Option.some.inj heq), hwaits⟩
  | @marked s uncancelled =>
      -- Targets of the links that are taken are waited for from now on.
      refine (recorded_mark h fun x y hxy => ?_).mono (fun _ _ => id) fun _ _ => .inr
      rcases hxy with ⟨hbound, hnext, hwaits⟩
      have hbound := hbound.resolve_left Chore.noConfusion
      refine ⟨hlt x y hbound, fun hlink => ?_, ?_⟩
      · exact hnext (.pass y) (List.mem_map_of_mem hlink) rfl
      · rw [or_iff_not_imp_left]
        exact fun hsy => ⟨hbound, fun heq => hsy (Option.some.inj heq), hwaits⟩
  | @reached s held =>
      -- The call is still on its way there, and will not be put off any more.
      refine (recorded_hold held h).mono (fun x y hxy => ?_) fun _ _ => .inr
      rcases hxy with ⟨hbound, hnext, hwaits⟩
      exact ⟨hbound.resolve_left Chore.noConfusion, hnext (.cancel s) (.head _), hwaits⟩
  | @missed s gone =>
      -- Nothing is asked of a link to a signal that nobody holds.
      refine (h.relax fun x y hxy => ?_).mono (fun _ _ => id) fun _ _ => .inr
      rcases hxy with ⟨hbound, -, hwaits⟩
      have hbound := hbound.resolve_left Chore.noConfusion
      by_cases hsy : s = y
      · exact .inr ⟨hlt x y hbound, fun hy => absurd (hsy ▸ hy) gone⟩
      · exact .inl ⟨hbound, fun heq => hsy (Option.some.inj heq), hwaits⟩
  | released s =>
      refine (recorded_release s h).mono (fun x y hxy => ?_) fun _ _ => .inr
      rcases hxy with ⟨hbound, -, hwaits⟩
      exact ⟨hbound.resolve_left Chore.noConfusion, (Option.some_ne_none y).symm, hwaits⟩
  | @late s t cancelled =>
      -- What binds the target is the call that is on its way to it, and not a link.
      refine h.mono (fun x y hxy => ?_) fun _ _ => .inr
      rcases hxy with ⟨hbound, hnext, hwaits⟩
      refine ⟨hbound.resolve_left fun heq => ?_, (Option.some_ne_none y).symm, hwaits⟩
      have hty : t = y := (Chore.attach.inj heq).2
      exact hnext (.cancel t) (.head _) (congrArg some hty)
  | @linked s t uncancelled =>
      -- The mark was looked at in the critical section in which the link is recorded.
      refine (recorded_attach inside.1 inside.2 h).mono (fun x y hxy => ?_) fun x y hxy => ?_
      · rcases hxy with ⟨heq | hbound, -, hwaits⟩
        · rcases Chore.attach.inj heq with ⟨rfl, rfl⟩
          exact .inl ⟨rfl, rfl⟩
        · exact .inr ⟨hbound, (Option.some_ne_none y).symm, hwaits⟩
      · rcases hxy with ⟨rfl, rfl⟩ | hxy
        · exact .inl rfl
        · exact .inr hxy

/-- Deeds that are done in one critical section cancel nothing. Those that might are
    calls. -/
theorem isCancelled_perform_brief (brief : deed.IsBrief) (g : Signals)
    (x : SignalId) : (g.perform deed).isCancelled x = g.isCancelled x := by
  cases deed with
  | make s => exact isCancelled_fresh g x
  | clone s => exact isCancelled_hold g s x
  | detach s t => exact isCancelled_detach g s t x
  | drop s => exact isCancelled_release g s x
  -- A child may come too late for a link, and is then cancelled.
  | makeCancelled _ | child _ _ | attach _ _ | cancel _ => exact brief.elim

theorem size_perform_brief (brief : deed.IsBrief) (g : Signals) :
    g.size ≤ (g.perform deed).size := by
  cases deed with
  | make s => exact Nat.le_trans (Nat.le_succ _) (Nat.le_of_eq (size_fresh g).symm)
  | clone s | detach s t | drop s => exact Nat.le_of_eq (size_modify ..).symm
  | makeCancelled _ | child _ _ | attach _ _ | cancel _ => exact brief.elim

/-- Of what can be done in one critical section, only detaching unbinds. -/
theorem recorded_perform_brief (brief : deed.IsBrief) (allowed : deed.Allowed g)
    (h : Recorded bound linked g) :
    Recorded (fun x y => deed ≠ .detach x y ∧ bound x y) linked (g.perform deed) := by
  cases deed with
  | make s => exact (recorded_fresh h).mono (fun _ _ => And.right) fun _ _ => id
  | clone s => exact (recorded_hold allowed h).mono (fun _ _ => And.right) fun _ _ => id
  | detach s t =>
      refine (recorded_detach (lt_size_of_isHeld allowed.1) h).mono (fun x y hxy => ?_)
        fun _ _ => And.right
      refine ⟨fun heq => absurd ?_ hxy.1, hxy.2⟩
      rw [heq.1, heq.2]
  | drop s => exact (recorded_release s h).mono (fun _ _ => And.right) fun _ _ => id
  | makeCancelled _ | child _ _ | attach _ _ | cancel _ => exact brief.elim

/-- A critical section cancels nothing without a cause. It marks its own target at
    most, and that was waited for. -/
theorem caused_of_isCancelled (did : chore.Did g more g')
    (cancelled : ∀ x, g.isCancelled x = true → Caused deeds x)
    (target : ∀ x, chore.target? = some x → Caused deeds x) (hx : g'.isCancelled x = true) :
    Caused (chore.deeds ++ deeds) x := by
  cases did with
  | again _ | missed _ => exact cancelled x hx
  | late _ => exact (cancelled x hx).cons
  | @marked s uncancelled =>
      by_cases hsx : s = x
      · exact target x (congrArg some hsx)
      · exact cancelled x ((isCancelled_mark_of_ne g hsx).symm.trans hx)
  | @reached s held => exact cancelled x ((isCancelled_hold g s x).symm.trans hx)
  | released s => exact cancelled x ((isCancelled_release g s x).symm.trans hx)
  | @linked s t uncancelled =>
      rw [attach_eq, uncancelled, if_neg Bool.false_ne_true, isCancelled_relink] at hx
      exact (cancelled x hx).cons

/-- What a critical section leaves to be cancelled has the cause that it had
    itself, by the links that it found. -/
theorem caused_of_waits (did : chore.Did g more g')
    (cancelled : ∀ x, g.isCancelled x = true → Caused deeds x)
    (target : ∀ x, chore.target? = some x → Caused deeds x)
    (linked : ∀ x y, y ∈ g.linksOf x → Attached deeds x y) (hx : Waits more x) :
    Caused (chore.deeds ++ deeds) x := by
  rcases hx with ⟨next, hmem, hnext⟩
  cases did with
  | again _ | missed _ | released _ | linked _ => exact absurd hmem List.not_mem_nil
  | @marked s uncancelled =>
      rcases List.mem_map.mp hmem with ⟨y, hlink, rfl⟩
      obtain rfl := Option.some.inj hnext
      exact (target s rfl).tail (linked s y hlink)
  | @reached s held =>
      simp only [List.mem_cons, List.not_mem_nil, or_false] at hmem
      rcases hmem with rfl | rfl
      · exact target x hnext
      · exact absurd hnext.symm (Option.some_ne_none x)
  | @late s t hc =>
      -- The link was not recorded, but it was attached, and its source is cancelled.
      obtain rfl := List.mem_singleton.mp hmem
      obtain rfl := Option.some.inj hnext
      exact (cancelled s hc).cons.tail ⟨.attach s t, .head _, rfl⟩

/-! ## Soundness -/

/-- No link and no cancellation is lost or made up: what is linked is bound, if
    nothing waits to cancel it, and whatever is cancelled, or waited for, has a
    cause. -/
structure Sound (chores : List Chore) (deeds : List Deed) (g : Signals) : Prop where
  recorded : Recorded (fun x y => Linked deeds x y ∧ ¬ Waits chores y) (Attached deeds) g
  linked_lt : ∀ x y, Linked deeds x y → y < g.size
  inside : ∀ chore ∈ chores, chore.Inside g
  cancelled : ∀ x, g.isCancelled x = true → Caused deeds x
  waits : ∀ x, Waits chores x → Caused deeds x

/-- At the beginning there is nothing that could be lost. -/
theorem sound_empty : Sound [] [] empty where
  recorded :=
    have h : Recorded (Bound []) (Linked []) empty := recorded_after trivial
    h.mono (fun _ _ => And.left) fun _ _ hlink => hlink.elim
  linked_lt := fun _ _ hlink => hlink.elim
  inside := fun _ hmem => absurd hmem List.not_mem_nil
  cancelled := fun _ hx => absurd hx Bool.false_ne_true
  waits := fun _ hx => absurd hx not_waits_nil

/-- It does not matter in which order things are to be done, nor how often. -/
theorem Sound.of_mem_iff (h : Sound chores deeds g)
    (hmem : ∀ chore, chore ∈ chores ↔ chore ∈ chores') : Sound chores' deeds g := by
  have hwaits : ∀ x, Waits chores x ↔ Waits chores' x := fun x => by
    simp only [Waits, hmem]
  refine ⟨h.recorded.mono (fun x y hxy => ?_) (fun _ _ => id), h.linked_lt,
    fun chore hchore => h.inside chore ((hmem chore).mpr hchore), h.cancelled,
    fun x hx => h.waits x ((hwaits x).mpr hx)⟩
  rwa [hwaits]

/-- Signals stay when others are made, so chores stay among those that there are. -/
theorem inside_mono (hle : g.size ≤ g'.size) (h : chore.Inside g) : chore.Inside g' := by
  cases chore with
  | attach s t => exact ⟨Nat.lt_of_lt_of_le h.1 hle, Nat.lt_of_lt_of_le h.2 hle⟩
  | cancel _ | pass _ | letGo _ => trivial

/-- A critical section leaves nothing to do that adds to the history. -/
theorem deeds_of_mem (did : chore.Did g more g') (hmem : next ∈ more) : next.deeds = [] := by
  cases did with
  | again _ | missed _ | released _ | linked _ => exact absurd hmem List.not_mem_nil
  | marked _ =>
      rcases List.mem_map.mp hmem with ⟨y, -, rfl⟩
      rfl
  | reached _ =>
      simp only [List.mem_cons, List.not_mem_nil, or_false] at hmem
      rcases hmem with rfl | rfl <;> rfl
  | late _ =>
      obtain rfl := List.mem_singleton.mp hmem
      rfl

/-- A chore that adds nothing to the history links nothing. -/
theorem inside_of_deeds (h : chore.deeds = []) (g : Signals) : chore.Inside g := by
  cases chore with
  | attach s t => exact absurd h (List.cons_ne_nil _ _)
  | cancel _ | pass _ | letGo _ => trivial

/-- What is linked after a chore was linked before, or is what the chore attaches. -/
theorem linked_deeds_append (h : Linked (chore.deeds ++ deeds) x y) :
    chore = .attach x y ∨ Linked deeds x y := by
  cases chore with
  | attach s t =>
      rcases h with hnew | ⟨-, hold⟩
      · obtain ⟨rfl, rfl⟩ := Prod.mk.inj (Option.some.inj hnew)
        exact .inl rfl
      · exact .inr hold
  | cancel _ | pass _ | letGo _ => exact .inr h

theorem attached_deeds_append (h : chore = .attach x y ∨ Attached deeds x y) :
    Attached (chore.deeds ++ deeds) x y := by
  rcases h with rfl | ⟨deed, hmem, hlink⟩
  · exact ⟨.attach x y, .head _, rfl⟩
  · exact ⟨deed, List.mem_append_right _ hmem, hlink⟩

/-- A critical section of a call loses nothing. -/
theorem sound_of_did (did : chore.Did g more g') (h : Sound (chore :: chores) deeds g) :
    Sound (more ++ chores) (chore.deeds ++ deeds) g' := by
  have hchore := h.inside chore (.head _)
  have htarget : ∀ x, chore.target? = some x → Caused deeds x := fun x hx =>
    h.waits x (waits_cons.mpr (.inl hx))
  have hbefore : Recorded
      (fun x y => Linked deeds x y ∧ chore.target? ≠ some y ∧ ¬ Waits chores y)
      (Attached deeds) g := by
    refine h.recorded.mono (fun x y hxy => ⟨hxy.1, ?_⟩) fun _ _ => id
    rw [waits_cons, not_or]
    exact hxy.2
  -- All other chores wait for the same as before, whatever this one was.
  have hrecorded := recorded_of_did did hchore h.linked_lt hbefore
  refine ⟨hrecorded.mono (fun x y hxy => ?_) fun _ _ => attached_deeds_append,
    fun x y hlinked => ?_, fun next hmem => ?_,
    fun x => caused_of_isCancelled did h.cancelled htarget, fun x hx => ?_⟩
  · rcases hxy with ⟨hlinked, hwaits⟩
    rw [waits_append, not_or] at hwaits
    exact ⟨linked_deeds_append hlinked, fun next hmem hnext => hwaits.1 ⟨next, hmem, hnext⟩,
      hwaits.2⟩
  · rw [size_of_did did]
    rcases linked_deeds_append hlinked with rfl | hold
    · exact hchore.2
    · exact h.linked_lt x y hold
  · rcases List.mem_append.mp hmem with hnew | hold
    · exact inside_of_deeds (deeds_of_mem did hnew) g'
    · exact inside_mono (Nat.le_of_eq (size_of_did did).symm) (h.inside next (.tail _ hold))
  · rcases waits_append.mp hx with hnew | hold
    · exact caused_of_waits did h.cancelled htarget h.recorded.linked hnew
    · exact (h.waits x (waits_cons.mpr (.inr hold))).append

/-- What is done in one critical section, and calls for no other, loses nothing. -/
theorem sound_perform (brief : deed.IsBrief) (allowed : deed.Allowed g)
    (h : Sound chores deeds g) : Sound chores (deed :: deeds) (g.perform deed) where
  recorded := (recorded_perform_brief brief allowed h.recorded).mono
    (fun _ _ ⟨hlinked, hwaits⟩ =>
      have hold := linked_of_cons (link?_of_isBrief brief) hlinked
      ⟨hold.1, hold.2, hwaits⟩)
    fun _ _ => Attached.cons
  linked_lt := fun x y hlinked => Nat.lt_of_lt_of_le
    (h.linked_lt x y (linked_of_cons (link?_of_isBrief brief) hlinked).2)
    (size_perform_brief brief g)
  inside := fun chore hmem => inside_mono (size_perform_brief brief g) (h.inside chore hmem)
  cancelled := fun x hx =>
    (h.cancelled x ((isCancelled_perform_brief brief g x).symm.trans hx)).cons
  waits := fun x hx => (h.waits x hx).cons

/-- A call to cancel a signal begins. -/
theorem Sound.cancel (s : SignalId) (h : Sound chores deeds g) :
    Sound (.cancel s :: chores) (.cancel s :: deeds) g where
  recorded := h.recorded.mono
    (fun _ _ ⟨hlinked, hwaits⟩ =>
      ⟨(linked_of_cons rfl hlinked).2, fun hw => hwaits (waits_cons.mpr (.inr hw))⟩)
    fun _ _ => Attached.cons
  linked_lt := fun x y hlinked => h.linked_lt x y (linked_of_cons rfl hlinked).2
  inside := List.forall_mem_cons.mpr ⟨trivial, h.inside⟩
  cancelled := fun x hx => (h.cancelled x hx).cons
  waits := fun x hx => by
    rcases waits_cons.mp hx with hnew | hold
    · obtain rfl := Option.some.inj hnew
      exact ⟨s, .head _, .refl⟩
    · exact (h.waits x hold).cons

/-- A call to attach a signal to another one begins. -/
theorem Sound.attach (hs : s < g.size) (ht : t < g.size) (h : Sound chores deeds g) :
    Sound (.attach s t :: chores) deeds g where
  recorded := h.recorded.mono
    (fun _ _ ⟨hlinked, hwaits⟩ => ⟨hlinked, fun hw => hwaits (waits_cons.mpr (.inr hw))⟩)
    fun _ _ => id
  linked_lt := h.linked_lt
  inside := List.forall_mem_cons.mpr ⟨⟨hs, ht⟩, h.inside⟩
  cancelled := h.cancelled
  waits := fun x hx => h.waits x
    ((waits_cons.mp hx).resolve_left (Option.some_ne_none x).symm)

/-! ## What is left to do -/

/-- The most critical sections that a chore stands for, if it marks no signal.
    Passing on is three: to look whether anybody holds the signal, to cancel it, and
    to let it go. -/
def Chore.weight : Chore → Nat
  | .cancel _ | .letGo _ => 1
  | .attach _ _ => 2
  | .pass _ => 3

/-- How many critical sections chores stand for, if they mark no signal. -/
def load : List Chore → Nat
  | [] => 0
  | chore :: chores => chore.weight + load chores

/-- What is to do in two lists of chores adds up. -/
theorem load_append (first chores : List Chore) :
    load (first ++ chores) = load first + load chores := by
  induction first with
  | nil => exact (Nat.zero_add _).symm
  | cons chore first ih => rw [List.cons_append, load, load, ih, Nat.add_assoc]

/-- A critical section marks a signal, or it leaves less to do. -/
theorem less_of_did (did : chore.Did g more g') :
    g'.uncancelled < g.uncancelled ∨
      g'.uncancelled = g.uncancelled ∧ load more < chore.weight := by
  cases did with
  | again _ => exact .inr ⟨rfl, Nat.zero_lt_one⟩
  | @marked s uncancelled =>
      cases hget : g.get? s with
      | some signal =>
          rw [isCancelled, hget] at uncancelled
          -- The signal counted as one to be cancelled, and does so no more.
          exact .inl (countP_modify_lt (fun _ => rfl) g.all s signal hget uncancelled)
      | none =>
          -- There is no such signal, and so nothing to mark and no link to follow.
          have hlinks : g.linksOf s = [] := by rw [linksOf, hget]
          have hmark : g.mark s = g := by
            refine eq_of_get? fun x => ?_
            rw [mark, get?_modify]
            by_cases hsx : s = x
            · rw [← hsx, hget, Option.map_none]
            · simp only [if_neg hsx, Option.map_id']
          rw [hlinks, hmark]
          exact .inr ⟨rfl, Nat.zero_lt_one⟩
  | @reached s held => exact .inr ⟨uncancelled_hold g s, Nat.lt_succ_self 2⟩
  | missed _ => exact .inr ⟨rfl, Nat.succ_pos 2⟩
  | released s => exact .inr ⟨uncancelled_release g s, Nat.zero_lt_one⟩
  | late _ => exact .inr ⟨rfl, Nat.lt_succ_self 1⟩
  | @linked s t uncancelled =>
      rw [attach_eq, uncancelled, if_neg Bool.false_ne_true]
      exact .inr ⟨uncancelled_relink g s _, Nat.succ_pos 1⟩

end Signals

end EventFlow
