import EventFlow.Proofs.Signal.Sections

/-!
# Signals Shared by Threads

Cancelling and attaching at the same time, by any number of threads whose
critical sections are interleaved in any way, loses no cancellation.

The calls of `Traffic` are lists of what they have to do next, and a step does
the first thing of any of them. Threads are not told apart, so a call may
begin whenever it likes, whatever thread it belongs to. Signals may be let go
even by a holder whose call on them is under way. Both only add to what can
happen. A signal that is made cancelled is one that is made, and then cancelled
by a call.

Everything of importance is said of one critical section, by `Sound`, which is
about all that is left to do, in whatever order. So `sound_of_reaches` is an
induction whose steps are there already. It tells what is true when nothing is
left to do, and `works_wellFounded` that this comes to pass: calls that go on,
taking turns as they like, cannot go on for ever.

The steps have to be those of the operations. `reaches_cancel`,
`reaches_attach` and `reaches_child` say so of calls that nobody interferes
with.

## Main definitions

* `Traffic`: Signals, and the calls on them that were begun.
* `Traffic.Works`: A critical section of some call.
* `Traffic.Step`: The same, or the beginning of a call.

## Theorems

* `sound_step`, `sound_of_reaches`: Nothing is lost, however steps interleave.
* `reaches_cancel`, `reaches_attach`, `reaches_child`: What a call does that
  nobody interferes with.
* `works_wellFounded`, `exists_quiet`: Calls that go on come to an end.
* `cancelled_of_quiet`: When all calls are over, cancellation has reached
  whatever it should, and it never reaches anything else.
-/

namespace EventFlow

open Signals

/-- Signals that threads share. -/
structure Traffic where
  signals : Signals
  /-- What each call that was begun still has to do. -/
  calls : List (List Chore)
  /-- What was done, latest first: a call to cancel as soon as it was begun,
      and attaching as soon as it was seen whether the source is cancelled. -/
  deeds : List Deed

namespace Traffic

/-- No signals, and no calls. -/
def beginning : Traffic := ⟨.empty, [], []⟩

/-- All calls are over. A call that is over stays in the list with nothing to do, so
    that the others keep their places in it. -/
def IsQuiet (c : Traffic) : Prop := ∀ chores ∈ c.calls, chores = []

/-- A call does what it has to do next: one critical section, of whichever call
    comes to have its turn. What the section leaves to do comes before the rest of
    its own call, and nothing is said about the order of different calls. -/
inductive Works : Traffic → Traffic → Prop where
  | turn {c : Traffic} {before others : List (List Chore)} {chore : Chore} {chores : List Chore}
      (calls : c.calls = before ++ (chore :: chores) :: others) :
      Works c ⟨(chore.run c.signals).2, before ++ ((chore.run c.signals).1 ++ chores) :: others,
        chore.deeds ++ c.deeds⟩

/-- Something is done, by one of the threads. -/
inductive Step : Traffic → Traffic → Prop where
  /-- A signal is made, shared, detached or let go. -/
  | brief {c : Traffic} {deed : Deed} (brief : deed.IsBrief) (allowed : deed.Allowed c.signals) :
      Step c { c with signals := c.signals.perform deed, deeds := deed :: c.deeds }
  /-- A call to cancel a signal begins. -/
  | cancel {c : Traffic} {s : SignalId} (held : c.signals.isHeld s = true) :
      Step c { c with calls := c.calls ++ [[.cancel s]], deeds := .cancel s :: c.deeds }
  /-- A call to attach a signal to another one begins. -/
  | attach {c : Traffic} {s t : SignalId} (source : c.signals.isHeld s = true)
      (target : c.signals.isHeld t = true) :
      Step c { c with calls := c.calls ++ [[.attach s t]] }
  /-- A call for a child begins: a new signal is made, and is to be attached. -/
  | child {c : Traffic} {s : SignalId} (held : c.signals.isHeld s = true) :
      Step c ⟨c.signals.fresh.2, c.calls ++ [[.attach s c.signals.size]],
        .make c.signals.size :: c.deeds⟩
  | work {c c' : Traffic} (works : Works c c') : Step c c'

variable {c c' : Traffic} {g g' : Signals} {s t x y : SignalId} {deeds : List Deed}
  {before others calls : List (List Chore)} {chores chores' : List Chore}
  {chore next : Chore}

/-! ## No step loses anything -/

/-- What there is to do while one call has its turn: what its critical section
    leaves, and besides that what all calls had to do. -/
theorem mem_flatten_turn (first : List Chore) :
    next ∈ (before ++ (first ++ chores) :: others).flatten ↔
      next ∈ first ++ (before ++ chores :: others).flatten := by
  simp only [List.flatten_append, List.flatten_cons, List.mem_append, or_assoc]
  exact or_left_comm

theorem mem_flatten_concat :
    next ∈ (calls ++ [[chore]]).flatten ↔ next ∈ chore :: calls.flatten := by
  rw [List.flatten_append, List.flatten_singleton, List.mem_append, List.mem_singleton,
    List.mem_cons, or_comm]

/-- No step loses a link or a cancellation, nor makes one up, whoever takes it. This
    is the step of the induction over runs; each kind of step is a lemma of its own
    about a critical section. -/
theorem sound_step (step : Step c c') (h : Sound c.calls.flatten c.deeds c.signals) :
    Sound c'.calls.flatten c'.deeds c'.signals := by
  cases step with
  | brief brief allowed => exact sound_perform brief allowed h
  | cancel held => exact (h.cancel _).of_mem_iff fun _ => mem_flatten_concat.symm
  | attach source target =>
      exact (h.attach (lt_size_of_isHeld source) (lt_size_of_isHeld target)).of_mem_iff
        fun _ => mem_flatten_concat.symm
  | @child s held =>
      have hfresh : Sound c.calls.flatten (.make c.signals.size :: c.deeds) c.signals.fresh.2 :=
        sound_perform trivial rfl h
      have hs : s < c.signals.fresh.2.size :=
        (size_fresh c.signals).symm ▸ Nat.lt_succ_of_lt (lt_size_of_isHeld held)
      exact (hfresh.attach hs (lt_size_of_isHeld (isHeld_fresh_self _))).of_mem_iff
        fun _ => mem_flatten_concat.symm
  | work works =>
      cases works with
      | @turn before others chore chores calls =>
          -- The order does not matter, so the chore whose turn it is may be the first.
          have hturn : Sound (chore :: (before ++ chores :: others).flatten) c.deeds c.signals :=
            h.of_mem_iff fun next => by
              rw [calls]
              exact mem_flatten_turn [chore]
          exact (sound_of_did (chore.did_run c.signals) hturn).of_mem_iff fun _ =>
            (mem_flatten_turn _).symm

/-- So nothing is lost or made up in a run, by induction on its steps, in whatever
    order the calls have their turns. -/
theorem sound_of_reaches (reached : Relation.ReflTransGen Step beginning c) :
    Sound c.calls.flatten c.deeds c.signals := by
  induction reached with
  | refl => exact sound_empty
  | tail _ step ih => exact sound_step step ih

/-! ## Calls that nobody interferes with -/

/-- The steps of a call that links nothing are those of a thread of its own. Such a
    call adds nothing to the history, so the state it leads to differs in the
    signals only. -/
theorem reaches_of_work {n : Nat} (hdeeds : ∀ chore ∈ chores, chore.deeds = [])
    (h : work^[n] (chores, g) = (chores', g')) (calls : List (List Chore)) (deeds : List Deed) :
    Relation.ReflTransGen Step ⟨g, calls ++ [chores], deeds⟩ ⟨g', calls ++ [chores'], deeds⟩ := by
  induction n generalizing chores g with
  | zero =>
      obtain ⟨rfl, rfl⟩ := Prod.mk.inj h
      exact .refl
  | succ n ih =>
      cases chores with
      | nil => exact ih hdeeds h
      | cons chore chores =>
          have hnext : ∀ next ∈ (chore.run g).1 ++ chores, next.deeds = [] := fun next hmem =>
            (List.mem_append.mp hmem).elim (deeds_of_mem (chore.did_run g)) fun hmem =>
              hdeeds next (.tail _ hmem)
          have hstep := Step.work (.turn (c := ⟨g, calls ++ [chore :: chores], deeds⟩) rfl)
          rw [hdeeds chore (.head _)] at hstep
          exact .head hstep (ih hnext h)

/-- A call to cancel that has begun comes to its end, if the others leave it alone. -/
theorem reaches_of_cancel (held : g.isHeld s = true) (calls : List (List Chore))
    (deeds : List Deed) :
    Relation.ReflTransGen Step ⟨g, calls ++ [[.cancel s]], deeds⟩
      ⟨g.cancel s, calls ++ [[]], deeds⟩ := by
  rcases exists_work_cancel held with ⟨n, hn⟩
  refine reaches_of_work (fun chore hmem => ?_) hn calls deeds
  obtain rfl := List.mem_singleton.mp hmem
  rfl

/-- So does one to attach, whether it is in time for a link or has a target to
    cancel. -/
theorem reaches_of_attach (target : g.isHeld t = true) (s : SignalId)
    (calls : List (List Chore)) (deeds : List Deed) :
    Relation.ReflTransGen Step ⟨g, calls ++ [[.attach s t]], deeds⟩
      ⟨g.attach s t, calls ++ [[]], .attach s t :: deeds⟩ := by
  -- Either the link is recorded and that is all, or the call goes on to cancel the target.
  have hstep := Step.work (.turn (c := ⟨g, calls ++ [[.attach s t]], deeds⟩) rfl)
  by_cases hc : g.isCancelled s = true
  · rw [Chore.run, if_pos hc] at hstep
    rw [attach_eq, if_pos hc]
    exact .head hstep (reaches_of_cancel target calls _)
  · rw [Chore.run, if_neg hc] at hstep
    exact .single hstep

/-- A call to cancel a signal that nobody interferes with cancels it. -/
theorem reaches_cancel (held : g.isHeld s = true) (calls : List (List Chore))
    (deeds : List Deed) :
    Relation.ReflTransGen Step ⟨g, calls, deeds⟩
      ⟨g.cancel s, calls ++ [[]], .cancel s :: deeds⟩ :=
  .head (.cancel held) (reaches_of_cancel held calls _)

/-- A call to attach a signal that nobody interferes with attaches it. -/
theorem reaches_attach (source : g.isHeld s = true) (target : g.isHeld t = true)
    (calls : List (List Chore)) (deeds : List Deed) :
    Relation.ReflTransGen Step ⟨g, calls, deeds⟩
      ⟨g.attach s t, calls ++ [[]], .attach s t :: deeds⟩ :=
  .head (.attach source target) (reaches_of_attach target s calls deeds)

/-- A call for a child that nobody interferes with makes one. -/
theorem reaches_child (held : g.isHeld s = true) (calls : List (List Chore))
    (deeds : List Deed) :
    Relation.ReflTransGen Step ⟨g, calls, deeds⟩
      ⟨(g.child s).2, calls ++ [[]], .attach s g.size :: .make g.size :: deeds⟩ :=
  .head (.child held) (reaches_of_attach (isHeld_fresh_self g) s calls _)

/-! ## Calls come to an end -/

/-- How many signals may yet be marked, and how much there is to do meanwhile.
    Marking a signal may leave as much to do as it has links, so the second counts
    only where the first stays. -/
def toDo (c : Traffic) : Nat × Nat :=
  (c.signals.uncancelled, load c.calls.flatten)

/-- Every critical section leaves less to do: either one signal less can be marked,
    or the section was one of those that were counted. -/
theorem toDo_decreases (works : Works c c') : Prod.Lex (· < ·) (· < ·) c'.toDo c.toDo := by
  cases works with
  | @turn before others chore chores calls =>
      -- Only what the call has to do next makes a difference to the sum.
      have hload : ∀ first : List Chore, load (before ++ (first ++ chores) :: others).flatten =
          load first + load (before ++ chores :: others).flatten := by
        intro first
        simp only [List.flatten_append, List.flatten_cons, load_append]
        omega
      have hbefore : load c.calls.flatten =
          chore.weight + load (before ++ chores :: others).flatten := by
        rw [calls]
        exact hload [chore]
      rw [toDo, toDo, Prod.lex_def]
      refine (less_of_did (chore.did_run c.signals)).imp_right fun hless => ⟨hless.1, ?_⟩
      rw [hbefore, hload]
      exact Nat.add_lt_add_right hless.2 _

/-- Calls that go on, taking turns as they like, cannot go on for ever. -/
theorem works_wellFounded : WellFounded fun c' c : Traffic => Works c c' :=
  Subrelation.wf toDo_decreases (InvImage.wf toDo (Prod.lex Nat.lt_wfRel Nat.lt_wfRel).wf)

/-- Unless all calls are over, one of them has a turn. -/
theorem exists_works (h : ¬ c.IsQuiet) : ∃ c', Works c c' := by
  simp only [IsQuiet, not_forall, exists_prop] at h
  rcases h with ⟨chores, hmem, hne⟩
  rcases List.append_of_mem hmem with ⟨before, others, hcalls⟩
  rcases List.exists_cons_of_ne_nil hne with ⟨chore, chores, rfl⟩
  exact ⟨_, .turn hcalls⟩

/-- So all calls can come to an end, whatever state they are in, by turns of their
    own and without help of those that begin calls. -/
theorem exists_quiet (c : Traffic) : ∃ c', Relation.ReflTransGen Works c c' ∧ c'.IsQuiet := by
  induction c using works_wellFounded.induction with
  | _ c ih =>
    by_cases h : c.IsQuiet
    · exact ⟨c, .refl, h⟩
    · rcases exists_works h with ⟨c', works⟩
      rcases ih c' works with ⟨c'', hreaches, quiet⟩
      exact ⟨c'', .head works hreaches, quiet⟩

/-! ## When all calls are over -/

/-- Whatever threads did: when all calls are over, every target that was linked
    and not detached since is cancelled if its source is, as long as anybody
    holds it; and at no time is any signal cancelled but those that were to be,
    and those that chains of links lead to from them. -/
theorem cancelled_of_quiet (reached : Relation.ReflTransGen Step beginning c) :
    (c.IsQuiet → ∀ x y, Linked c.deeds x y → c.signals.isCancelled x = true →
      c.signals.isHeld y = true → c.signals.isCancelled y = true) ∧
    ∀ x, c.signals.isCancelled x = true → Caused c.deeds x := by
  have h := sound_of_reaches reached
  -- With nothing left to do, nothing is waited for, and every link is bound.
  refine ⟨fun quiet x y hlinked hx hy => ?_, h.cancelled⟩
  have hwaits : ¬ Waits c.calls.flatten y := by
    rw [List.flatten_eq_nil_iff.mpr quiet]
    exact not_waits_nil
  exact isCancelled_of_leads (h.recorded.leads x y ⟨hlinked, hwaits⟩ hy) hx

/-- While a signal is being cancelled, another one is attached to it: too late
    for a link, and in time to be cancelled. -/
theorem cancelled_of_quiet_race : ∃ c, Relation.ReflTransGen Step beginning c ∧ c.IsQuiet ∧
    Linked c.deeds 0 1 ∧ c.signals.isCancelled 1 = true := by
  have hbegun : Relation.ReflTransGen Step beginning
      ⟨⟨[⟨false, [], 1⟩, ⟨false, [], 1⟩]⟩, [[.cancel 0], [.attach 0 1]],
        [.cancel 0, .make 1, .make 0]⟩ :=
    Relation.ReflTransGen.refl
      |>.tail (.brief (show Deed.IsBrief (.make 0) from trivial) rfl)
      |>.tail (.brief (show Deed.IsBrief (.make 1) from trivial) rfl)
      |>.tail (.cancel (s := 0) rfl)
      |>.tail (.attach (s := 0) (t := 1) rfl rfl)
  -- The first signal is marked, and only then the second one attached.
  have hmarked := hbegun.tail (.work (.turn
    (show _ = [] ++ (Chore.cancel 0 :: []) :: [[.attach 0 1]] from rfl)))
  have hattached := hmarked.tail (.work (.turn
    (show _ = [[]] ++ (Chore.attach 0 1 :: []) :: [] from rfl)))
  have hpassed := hattached.tail (.work (.turn
    (show _ = [[]] ++ (Chore.cancel 1 :: []) :: [] from rfl)))
  have quiet : IsQuiet ⟨⟨[⟨true, [], 1⟩, ⟨true, [], 1⟩]⟩, [[], []],
      [.attach 0 1, .cancel 0, .make 1, .make 0]⟩ := by
    rintro chores hmem
    simp only [List.mem_cons, List.not_mem_nil, or_false, or_self] at hmem
    exact hmem
  exact ⟨_, hpassed, quiet, .inl rfl,
    (cancelled_of_quiet hpassed).1 quiet 0 1 (.inl rfl) rfl rfl⟩

end Traffic

end EventFlow
