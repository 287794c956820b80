import EventFlow.Proofs.Signal.Newcomers
import EventFlow.Proofs.Worker.Course

/-!
# Claims and the Signals of Others

A claim leaves the signals of others as it found them.

It makes a signal of its own, links two others to it, and unlinks them in the
end, while others may cancel whatever they like. The two may be one, or be
linked to each other, or be cancelled already; they may be cancelled meanwhile,
so that their links are gone before the claim comes to take its own away. None
of this has to be told apart. Below the signals that were there before, each of
these steps makes no difference (`Alike`), and what the others cancel they
would have cancelled without the claim.

A claim that a fault of the clock stops does not come to unlink anything. It
lets its signal go all the same, and then its links are links to a signal that
nobody holds, which lead nowhere and are cleared away by the next link or
unlinking. So nobody can tell the difference, but the links are still there:
that no link is left behind at all holds of the claims that come back.

What the others do is read off the outside (`Outside.Cancels`), as the outside
is all that a claim waits for. Between linking and unlinking, nothing else
happens to the signals (`heard_claim`). Claims follow one another in the
same way (`Parted.trans`), so any number of them leaves no more behind than
one, which is nothing.

## Main definitions

* `Outside.Cancels`: What others cancel meanwhile.
* `World.Heard`: Nothing happened to the signals but what others cancelled.
* `World.Leaves`: What a claim does to the signals, whichever way it ends.
* `World.Parted`: A claim, or several, left no trace that could be told.
* `World.Restored`: What that comes to, one signal at a time.

## Theorems

* `heard_call`, `heard_await`, `heard_run`: Whoever waits hears others.
* `heard_claim`: A claim hears others, and lets go of its signal.
* `parted_consumeWith`, `parted_consume`: One claim.
* `mem_linksOf_of_consumeWith`: A claim that comes back adds no link.
* `claims_restore_signals`: Any number of claims.
-/

namespace EventFlow

namespace Outside

variable {σ : Type}

/-- These signals are cancelled by others while the outside goes from one state to
    another. Of a wait only the beginning may be noticed, as a cancellation can end
    it. -/
inductive Cancels (b : Outside σ) : σ → List SignalId → σ → Prop where
  | nothing (outside : σ) : Cancels b outside [] outside
  | connect (outside : σ) (endpoints : Endpoints) :
      Cancels b outside ((b.connect outside endpoints).1.during.flatMap Happening.cancelled)
        (b.connect outside endpoints).2.2
  | answer (session : SessionId) (call : Call) (outside : σ) (endpoints : Endpoints) :
      Cancels b outside
        ((b.answer session call outside endpoints).1.during.flatMap Happening.cancelled)
        (b.answer session call outside endpoints).2.2
  | wait (start finish : Moment) (outside : σ) (happenings : List Happening)
      (noticed : happenings <+: (b.wait start finish outside).1) :
      Cancels b outside (happenings.flatMap Happening.cancelled) (b.wait start finish outside).2
  | both {outside between after : σ} {first second : List SignalId}
      (earlier : Cancels b outside first between) (later : Cancels b between second after) :
      Cancels b outside (first ++ second) after

end Outside

namespace Signals

variable {g : Signals} {x y : SignalId}

theorem cancelAll_append (g : Signals) (first second : List SignalId) :
    g.cancelAll (first ++ second) = (g.cancelAll first).cancelAll second :=
  List.foldl_append

theorem size_cancelAll (g : Signals) (signals : List SignalId) :
    (g.cancelAll signals).size = g.size := by
  rw [cancelAll]
  induction signals generalizing g with
  | nil => rfl
  | cons s signals ih => exact (ih (g.cancel s)).trans (size_deliver g [s])

theorem isCancelled_cancelAll (signals : List SignalId) (h : g.isCancelled x = true) :
    (g.cancelAll signals).isCancelled x = true :=
  (extends_cancelAll g signals).cancelled x h

theorem mem_linksOf_of_cancelAll {signals : List SignalId}
    (h : y ∈ (g.cancelAll signals).linksOf x) : y ∈ g.linksOf x := by
  rw [cancelAll] at h
  induction signals generalizing g with
  | nil => exact h
  | cons s signals ih => exact mem_linksOf_of_deliver (ih h)

/-- Cancellations take the links of the signals away that they cancel, and no
    others. It makes no difference in how many steps they are made. -/
theorem liveLinks_cancelAll (g : Signals) (signals : List SignalId) (x : SignalId) :
    (g.cancelAll signals).liveLinks x =
      if g.isCancelled x = false ∧ (g.cancelAll signals).isCancelled x = true then []
      else g.liveLinks x := by
  induction signals generalizing g with
  | nil =>
      rw [cancelAll, List.foldl_nil, if_neg]
      rintro ⟨hno, hyes⟩
      exact absurd (hno.symm.trans hyes) Bool.false_ne_true
  | cons s signals ih =>
      change ((g.cancel s).cancelAll signals).liveLinks x =
        if _ ∧ ((g.cancel s).cancelAll signals).isCancelled x = true then [] else _
      rw [ih, liveLinks_cancel]
      -- Once cancelled, a signal stays so, which leaves three courses of events.
      cases hbefore : g.isCancelled x with
      | true => simp only [extends_cancel g s |>.cancelled x hbefore, Bool.true_eq_false, false_and,
          if_false]
      | false =>
          cases hfirst : (g.cancel s).isCancelled x with
          | true => simp only [isCancelled_cancelAll signals hfirst, Bool.true_eq_false, false_and,
              if_false, true_and, if_true]
          | false => simp only [Bool.false_eq_true, and_false, if_false]

end Signals

namespace Scene

/-- What happens to the signals when others act. -/
theorem signals_pass (scene : Scene) (happenings : List Happening) :
    (scene.pass happenings).signals =
      scene.signals.cancelAll (happenings.flatMap Happening.cancelled) := by
  rw [pass]
  induction happenings generalizing scene with
  | nil => rfl
  | cons first rest ih =>
      rw [List.foldl_cons, ih, List.flatMap_cons, Signals.cancelAll_append]
      rfl

/-- A wait notices the beginning of what others do, and does nothing else to the
    signals. Making no claim on how much it notices spares a case for each way in
    which a wait can end. -/
theorem exists_signals_sleepUntil (s : SignalId) (wake : Moment) (deadline : Option Moment)
    (scene : Scene) (happenings : List Happening) : ∃ noticed, noticed <+: happenings ∧
      (scene.sleepUntil s wake deadline happenings).2.signals =
        scene.signals.cancelAll (noticed.flatMap Happening.cancelled) := by
  -- By induction on what others do: each time, the wait ends or takes notice of one thing more.
  fun_induction sleepUntil s wake deadline scene happenings with
  | case1 | case2 | case3 | case4 | case5 => exact ⟨[], List.nil_prefix, rfl⟩
  | case6 scene first rest hcheck hwake hlate ih =>
      rcases ih with ⟨noticed, hprefix, hsignals⟩
      refine ⟨first :: noticed, List.prefix_cons_inj first |>.mpr hprefix, ?_⟩
      rw [hsignals, List.flatMap_cons, Signals.cancelAll_append]
      rfl

end Scene

namespace World

variable {σ α : Type} {b : Outside σ} {w w' w'' : World σ} {signal : SignalId} {rounds : Nat}
  {others others' : List SignalId}

/-! ## Others -/

/-- Nothing happened to the signals but that others cancelled some. What the others
    are is read off the outside, so that it cannot be chosen to fit. -/
def Heard (b : Outside σ) (w w' : World σ) : Prop :=
  ∃ others, b.Cancels w.outside others w'.outside ∧
    w'.scene.signals = w.scene.signals.cancelAll others

theorem Heard.trans (h : Heard b w w') (h' : Heard b w' w'') : Heard b w w'' := by
  rcases h with ⟨others, hcancels, hsignals⟩
  rcases h' with ⟨others', hcancels', hsignals'⟩
  refine ⟨others ++ others', hcancels.both hcancels', ?_⟩
  rw [hsignals', hsignals, Signals.cancelAll_append]

/-- What is neither outside nor a signal makes no difference. -/
theorem Heard.same (outside_eq : w'.outside = w.outside)
    (signals_eq : w'.scene.signals = w.scene.signals) : Heard b w w' :=
  ⟨[], outside_eq ▸ .nothing w'.outside, signals_eq⟩

theorem heard_connect (b : Outside σ) (w : World σ) : Heard b w (w.connect b).2 := by
  have hmeet : Heard b w (w.meet b) :=
    ⟨_, .connect w.outside w.worker.endpoints, Scene.signals_pass ..⟩
  rw [connect_eq]
  cases (b.connect w.outside w.worker.endpoints).1.result <;> exact hmeet

theorem heard_lookUp (b : Outside σ) (w : World σ) : Heard b w (w.lookUp b).2 := by
  rw [lookUp]
  cases w.worker.slot with
  | some session => exact .same rfl rfl
  | none => exact heard_connect b w

theorem heard_ask (b : Outside σ) (session : SessionId) (call : Call) (w : World σ) :
    Heard b w (w.ask b session call).2 :=
  ⟨_, .answer session call w.outside w.worker.endpoints, Scene.signals_pass ..⟩

/-- A call hears others while it connects and while it is answered; what it does to
    the session concerns no signal. -/
theorem heard_call (b : Outside σ) (call : Call) (w : World σ) : Heard b w (w.call b call).2 := by
  have hlook := heard_lookUp b w
  rcases call_eq b call w with ⟨e, w₁, hl, hcall⟩ | ⟨session, w₁, hl, hcall⟩
  · rw [hl] at hlook
    rwa [hcall]
  · rw [hl] at hlook
    rw [hcall]
    exact (hlook.trans (heard_ask b session call w₁)).trans
      (.same (outside_settle ..) (congrArg Scene.signals (scene_settle ..)))

theorem heard_await (b : Outside σ) (scope : Scope) (wake : Moment) (w : World σ) :
    Heard b w (w.await b scope wake).2 := by
  rcases Scene.exists_signals_sleepUntil scope.signal wake scope.deadline w.scene
    (b.wait w.scene.now (Scene.limit wake scope.deadline) w.outside).1 with
    ⟨noticed, hprefix, hsignals⟩
  exact ⟨_, .wait _ _ w.outside noticed hprefix, hsignals⟩

/-- A run hears others in its attempts and while it waits. -/
theorem heard_run {scope : Scope} {attempt : UInt32 → World σ → Except SessionError α × World σ}
    (h : ∀ n w, Heard b w (attempt n w).2) (rounds : Nat) (w : World σ) :
    Heard b w (Retry.run b rounds scope attempt w).2 :=
  Retry.run_frame (P := Heard b w) (fun _ _ hw => hw.trans (.same rfl rfl))
    (fun v wake hw => hw.trans (heard_await b scope wake v)) (fun n v hw => hw.trans (h n v))
    rounds (.same rfl rfl)

/-! ## One claim -/

/-- Claims left no trace that could be told: below the signals that were there
    before, all is as if only the others had acted, and nobody holds any other
    signal. There may well be more signals than before. -/
structure Parted (b : Outside σ) (w w' : World σ) (others : List SignalId) : Prop where
  heard : b.Cancels w.outside others w'.outside
  size_le : w.scene.signals.size ≤ w'.scene.signals.size
  alike : Signals.Alike w.scene.signals.size (w.scene.signals.cancelAll others) w'.scene.signals
  gone : ∀ s, w.scene.signals.size ≤ s → w'.scene.signals.holdersOf s = 0

theorem Parted.refl (b : Outside σ) (w : World σ) : Parted b w w [] :=
  ⟨.nothing _, Nat.le_refl _, .refl (Signals.inert_size _),
    fun _ => Signals.holdersOf_of_size_le⟩

/-- Two claims, one after the other, leave no more behind than one. The signal that
    the first has made stands between the two, and is held by nobody. -/
theorem Parted.trans (h : Parted b w w' others) (h' : Parted b w' w'' others') :
    Parted b w w'' (others ++ others') := by
  have halike := h.alike.cancelAll others'
  refine ⟨h.heard.both h'.heard, Nat.le_trans h.size_le h'.size_le, ?_, fun s hs => ?_⟩
  · rw [Signals.cancelAll_append]
    exact halike.trans (h'.alike.lower h.size_le halike.inert')
  · -- A signal of the first claim had no holder before the second, which gives it none.
    rcases Nat.lt_or_ge s w'.scene.signals.size with hlt | hge
    · rw [h'.alike.holders s hlt, Signals.holdersOf_cancelAll, h.gone s hs]
    · exact h'.gone s hge

/-- What a claim makes of the signals before its loop. -/
def joined (w : World σ) (signal : SignalId) : Signals :=
  (w.join signal).2.scene.signals

/-- The signals when a claim has come back, in the course of which others
    cancelled some. -/
def partedSignals (w : World σ) (signal : SignalId) (others : List SignalId) : Signals :=
  ((((w.joined signal).cancelAll others).detach signal w.scene.signals.size).detach
    w.worker.shutdown w.scene.signals.size).release w.scene.signals.size

/-- The signals when a claim was stopped by a fault, in the course of which others
    cancelled some. -/
def droppedSignals (w : World σ) (signal : SignalId) (others : List SignalId) : Signals :=
  ((w.joined signal).cancelAll others).release w.scene.signals.size

/-- A claim that ended so left these signals behind: it unlinked its own if it came
    back, and let go of it in any case. -/
def Leaves (w : World σ) (signal : SignalId) (others : List SignalId)
    (outcome : Outcome Reference) (g : Signals) : Prop :=
  g = w.partedSignals signal others ∨
    outcome = .beyondClock ∧ g = w.droppedSignals signal others

/-- What a claim does to the signals after it has heard others. -/
theorem leaves_part {v : World σ} (hsignals : v.scene.signals = (w.joined signal).cancelAll others)
    (hshutdown : v.worker.shutdown = w.worker.shutdown) (outcome : Outcome Reference) :
    w.Leaves signal others outcome
      (v.part outcome signal w.scene.signals.size).scene.signals := by
  -- Only the fault keeps the claim from taking its two links away.
  rcases outcome with _ | _ | _
  · exact .inl (by rw [partedSignals, ← hsignals, ← hshutdown]; rfl)
  · exact .inr ⟨rfl, by rw [droppedSignals, ← hsignals]; rfl⟩
  · exact .inl (by rw [partedSignals, ← hsignals, ← hshutdown]; rfl)

/-- Whichever way a claim ends, it has heard others and has let go of its signal. -/
theorem heard_claim (b : Outside σ) (rounds : Nat) (signal : SignalId) (w : World σ) :
    ∃ others, b.Cancels w.outside others (claim b rounds signal w).2.outside ∧
      w.Leaves signal others (claim b rounds signal w).1
        (claim b rounds signal w).2.scene.signals := by
  rw [claim]
  cases hd : (w.join signal).2.deadline? with
  | none =>
      simp only [hd]
      -- The claim ends before it has waited for anybody.
      exact ⟨[], .nothing _, .inr ⟨rfl, rfl⟩⟩
  | some deadline =>
      simp only [hd]
      -- The loop hears others, and the worker keeps the signal that is to be unlinked.
      have hrun := @heard_run σ Reference b
        ((w.join signal).2.claimScope (w.join signal).1 deadline) (claimAttempt b deadline)
        (fun _ v => heard_call b (.claim (budget v.scene.now deadline)) v) rounds (w.join signal).2
      have hshutdown := (@kept_run σ Reference b
        ((w.join signal).2.claimScope (w.join signal).1 deadline) (claimAttempt b deadline)
        (fun _ v => kept_call b (.claim (budget v.scene.now deadline)) v) rounds
        (w.join signal).2).shutdown_eq
      rcases hrun with ⟨others, hcancels, hsignals⟩
      exact ⟨others, hcancels, leaves_part hsignals hshutdown _⟩

theorem size_joined (w : World σ) (signal : SignalId) :
    (w.joined signal).size = w.scene.signals.size + 1 := by
  change ((w.scene.signals.fresh.2.attach signal _).attach w.worker.shutdown _).size = _
  rw [Signals.size_attach, Signals.size_attach, Signals.size_fresh]

/-- Making a signal, linking it and hearing others makes no difference to who does
    not know the signal. Each link leads to it, and none leads away from it. -/
theorem alike_joined (w : World σ) (signal : SignalId) (others : List SignalId) :
    Signals.Alike w.scene.signals.size (w.scene.signals.cancelAll others)
      ((w.joined signal).cancelAll others) := by
  have hfresh := Signals.alike_fresh (Signals.inert_size w.scene.signals) (Nat.le_refl _)
  have hchild := hfresh.trans (Signals.alike_attach hfresh.inert' signal (Nat.le_refl _))
  have hjoined := hchild.trans
    (Signals.alike_attach hchild.inert' w.worker.shutdown (Nat.le_refl _))
  exact hjoined.cancelAll others

/-- Nor does what the claim does with its signal in the end, whether it unlinks that
    or not. -/
theorem Leaves.alike {outcome : Outcome Reference} {g : Signals}
    (h : w.Leaves signal others outcome g) :
    Signals.Alike w.scene.signals.size (w.scene.signals.cancelAll others) g := by
  have hloop := w.alike_joined signal others
  rcases h with rfl | ⟨-, rfl⟩
  case inr => exact hloop.trans (Signals.alike_release hloop.inert' (Nat.le_refl _))
  have hfirst := hloop.trans (Signals.alike_detach hloop.inert' signal (Nat.le_refl _))
  have hboth := hfirst.trans
    (Signals.alike_detach hfirst.inert' w.worker.shutdown (Nat.le_refl _))
  exact hboth.trans (Signals.alike_release hboth.inert' (Nat.le_refl _))

/-- Nobody holds the claim's own signal when it is over, nor any that was not
    made before it. -/
theorem Leaves.holdersOf_eq_zero {outcome : Outcome Reference} {g : Signals}
    (h : w.Leaves signal others outcome g) {s : SignalId} (hs : w.scene.signals.size ≤ s) :
    g.holdersOf s = 0 := by
  have hjoined : (w.joined signal).holdersOf s =
      if s = w.scene.signals.size then 1 else w.scene.signals.holdersOf s := by
    change ((w.scene.signals.fresh.2.attach signal _).attach w.worker.shutdown _).holdersOf s = _
    rw [Signals.holdersOf_attach, Signals.holdersOf_attach, Signals.holdersOf_fresh]
  -- Unlinking is no letting go, so both ways to end come to the same count.
  have hheld : g.holdersOf s = if w.scene.signals.size = s then
      (w.joined signal).holdersOf s - 1 else (w.joined signal).holdersOf s := by
    rcases h with rfl | ⟨-, rfl⟩
    · rw [partedSignals, Signals.holdersOf_release, Signals.holdersOf_detach,
        Signals.holdersOf_detach, Signals.holdersOf_cancelAll]
    · rw [droppedSignals, Signals.holdersOf_release, Signals.holdersOf_cancelAll]
  rw [hheld, hjoined]
  by_cases hown : w.scene.signals.size = s
  · rw [if_pos hown, if_pos hown.symm]
  · rw [if_neg hown, if_neg (Ne.symm hown), Signals.holdersOf_of_size_le hs]

/-- A claim has made one signal, which stays when it has let go of it. -/
theorem Leaves.size_eq {outcome : Outcome Reference} {g : Signals}
    (h : w.Leaves signal others outcome g) : g.size = w.scene.signals.size + 1 := by
  rcases h with rfl | ⟨-, rfl⟩
  · rw [partedSignals, Signals.release, Signals.size_modify, Signals.size_detach,
      Signals.size_detach, Signals.size_cancelAll, size_joined]
  · rw [droppedSignals, Signals.release, Signals.size_modify, Signals.size_cancelAll, size_joined]

/-- A claim that finds no place does nothing. Any other hears others and lets go of
    its signal, whichever way it ends. -/
theorem consumeWith_cases (b : Outside σ) (rounds : Nat) (signal : SignalId) (w : World σ) :
    (w.consumeWith b rounds signal).2 = w ∨
    ∃ others, b.Cancels w.outside others (w.consumeWith b rounds signal).2.outside ∧
      w.Leaves signal others (w.consumeWith b rounds signal).1
        (w.consumeWith b rounds signal).2.scene.signals := by
  rw [consumeWith]
  cases hr : w.worker.reserve? with
  | none => exact .inl rfl
  | some taken =>
      rcases heard_claim b rounds signal { w with worker := taken } with
        ⟨others, hcancels, hleaves⟩
      refine .inr ⟨others, ?_, ?_⟩
      · simp only [outside_conclude]
        exact hcancels
      · simp only [scene_conclude]
        -- With its place the worker has the signal that it had.
        rw [Leaves, partedSignals, droppedSignals, joined, join, (config_of_reserve? hr).2]
          at hleaves
        rw [Leaves, partedSignals, droppedSignals, joined, join]
        exact hleaves

/-- A claim that was given a signal leaves nothing behind that could be told. -/
theorem parted_consumeWith (b : Outside σ) (rounds : Nat) (signal : SignalId) (w : World σ) :
    ∃ others, Parted b w (w.consumeWith b rounds signal).2 others := by
  rcases consumeWith_cases b rounds signal w with hsame | ⟨others, hcancels, hleaves⟩
  · rw [hsame]
    exact ⟨[], .refl b w⟩
  · exact ⟨others, hcancels, hleaves.size_eq ▸ Nat.le_succ _, hleaves.alike,
      fun s hs => hleaves.holdersOf_eq_zero hs⟩

/-- A claim that makes the signal of its caller itself lets go of it, too. -/
theorem parted_consume (b : Outside σ) (rounds : Nat) (w : World σ) :
    ∃ others, Parted b w (w.consume b rounds).2 others := by
  rcases parted_consumeWith b rounds w.scene.signals.size w.withSignal with ⟨others, h⟩
  have hsize : w.withSignal.scene.signals.size = w.scene.signals.size + 1 :=
    Signals.size_fresh w.scene.signals
  have hfresh := (Signals.alike_fresh (Signals.inert_size w.scene.signals)
    (Nat.le_refl _)).cancelAll others
  have hmade := hfresh.trans (h.alike.lower (hsize ▸ Nat.le_succ _) hfresh.inert')
  refine ⟨others, h.heard, ?_, hmade.trans (Signals.alike_release hmade.inert' (Nat.le_refl _)),
    fun s hs => ?_⟩
  · exact Nat.le_trans (Nat.le_of_lt (Nat.lt_of_lt_of_eq (Nat.lt_succ_self _) hsize.symm))
      (Nat.le_trans h.size_le (Nat.le_of_eq (Signals.size_modify ..).symm))
  · change ((w.withSignal.consumeWith b rounds w.scene.signals.size).2.scene.signals.release
      w.scene.signals.size).holdersOf s = 0
    rw [Signals.holdersOf_release]
    by_cases hne : w.scene.signals.size = s
    · -- The caller's signal has the one holder that it was made with.
      subst hne
      rw [if_pos rfl, h.alike.holders _ (hsize ▸ Nat.lt_succ_self _), Signals.holdersOf_cancelAll]
      change w.scene.signals.fresh.2.holdersOf w.scene.signals.size - 1 = 0
      rw [Signals.holdersOf_fresh, if_pos rfl]
    · rw [if_neg hne]
      exact h.gone s (hsize ▸ Nat.lt_of_le_of_ne hs hne)

/-- A claim that comes back adds no link to any signal, not even one to a signal
    that nobody holds any more. -/
theorem mem_linksOf_of_consumeWith {s t : SignalId}
    (back : (w.consumeWith b rounds signal).1 ≠ .beyondClock)
    (h : t ∈ (w.consumeWith b rounds signal).2.scene.signals.linksOf s) :
    t ∈ w.scene.signals.linksOf s := by
  rcases consumeWith_cases b rounds signal w with hsame | ⟨others, -, hsignals | ⟨hfault, -⟩⟩
  · rwa [hsame] at h
  rotate_left
  · exact absurd hfault back
  · rw [hsignals, partedSignals, Signals.linksOf_release] at h
    rcases Signals.mem_linksOf_of_detach h with ⟨hshutdown, h⟩
    rcases Signals.mem_linksOf_of_detach h with ⟨hsignal, h⟩
    have h := Signals.mem_linksOf_of_cancelAll h
    -- A link that was made before the loop is one of the two that were detached.
    rcases Signals.mem_linksOf_of_attach h with ⟨rfl, rfl⟩ | h
    · exact absurd ⟨rfl, rfl⟩ hshutdown
    · rcases Signals.mem_linksOf_of_attach h with ⟨rfl, rfl⟩ | h
      · exact absurd ⟨rfl, rfl⟩ hsignal
      · exact Signals.linksOf_fresh w.scene.signals s ▸ h

/-! ## Any number of claims -/

/-- From one world to another, others cancelled these signals. Of the signals
    that were there before, each has the holders that it had; it is cancelled if
    it was, or if what the others cancelled gets to it by the links that were
    there before; and its links to signals that somebody holds are those that it
    had, unless it was cancelled meanwhile. Nobody holds any other signal. -/
structure Restored (b : Outside σ) (w w' : World σ) (others : List SignalId) : Prop where
  heard : b.Cancels w.outside others w'.outside
  holders : ∀ s < w.scene.signals.size,
    w'.scene.signals.holdersOf s = w.scene.signals.holdersOf s
  cancelled : ∀ s < w.scene.signals.size,
    w'.scene.signals.isCancelled s = (w.scene.signals.cancelAll others).isCancelled s
  links : ∀ s < w.scene.signals.size, w'.scene.signals.liveLinks s =
    if w.scene.signals.isCancelled s = false ∧ w'.scene.signals.isCancelled s = true then []
    else w.scene.signals.liveLinks s
  gone : ∀ s, w.scene.signals.size ≤ s → w'.scene.signals.isHeld s = false

/-- Being alike, one signal at a time. Nobody holds the signals from there on, so
    they are not counted among the links that lead on. -/
theorem Parted.restored (h : Parted b w w' others) : Restored b w w' others where
  heard := h.heard
  holders := fun s hs => by rw [h.alike.holders s hs, Signals.holdersOf_cancelAll]
  cancelled := h.alike.cancelled
  links := fun s hs => by
    rw [h.alike.cancelled s hs, ← Signals.liveLinks_cancelAll]
    refine h.alike.liveLinks_eq hs (fun t ht => ?_) fun t ht => ?_
    · rw [Signals.isHeld_eq, Signals.holdersOf_cancelAll, Signals.holdersOf_of_size_le ht]
      rfl
    · rw [Signals.isHeld_eq, h.gone t ht]
      rfl
  gone := fun s hs => by
    rw [Signals.isHeld_eq, h.gone s hs]
    rfl

theorem parted_perform (b : Outside σ) (rounds : Nat) {action : Action}
    (hclaim : action.isClaim = true) (w : World σ) :
    ∃ others, Parted b w (w.perform b rounds action).2 others := by
  cases action with
  | consume => exact parted_consume b rounds w
  | consumeWith signal => exact parted_consumeWith b rounds signal w
  | get | ack | produce | shutDown | arrange => exact absurd hclaim Bool.false_ne_true

/-- Any number of claims leaves nothing behind that could be told. -/
theorem parted_performAll (b : Outside σ) (claims : List (Nat × Action))
    (hclaims : ∀ claim ∈ claims, claim.2.isClaim = true) (w : World σ) :
    ∃ others, Parted b w (w.performAll b claims).2 others := by
  induction claims generalizing w with
  | nil => exact ⟨[], .refl b w⟩
  | cons first claims ih =>
      rcases parted_perform b first.1 (hclaims first (.head _)) w with ⟨others, hfirst⟩
      rcases ih (fun claim hmem => hclaims claim (.tail _ hmem)) (w.perform b first.1 first.2).2
        with ⟨others', hrest⟩
      exact ⟨others ++ others', hfirst.trans hrest⟩

/-- Whatever the graph of the signals, whichever signal a claim is given, and
    however the session and others behave, a claim leaves the signals that were
    there before as they would be if only the others had acted, and no other
    that anybody holds; and if it returns, no signal has a link that it did not
    have before. The same holds of any number of claims, one after the other,
    with signals of their callers or without. -/
theorem claims_restore_signals (b : Outside σ) (w : World σ) :
    (∀ rounds signal,
      (∃ others, Restored b w (w.consumeWith b rounds signal).2 others) ∧
      ((w.consumeWith b rounds signal).1 ≠ .beyondClock → ∀ s t,
        t ∈ (w.consumeWith b rounds signal).2.scene.signals.linksOf s →
        t ∈ w.scene.signals.linksOf s)) ∧
    ∀ claims : List (Nat × Action), (∀ claim ∈ claims, claim.2.isClaim = true) →
      ∃ others, Restored b w (w.performAll b claims).2 others := by
  refine ⟨fun rounds signal => ⟨?_, fun back s t => mem_linksOf_of_consumeWith back⟩,
    fun claims hclaims => ?_⟩
  · rcases parted_consumeWith b rounds signal w with ⟨others, h⟩
    exact ⟨others, h.restored⟩
  · rcases parted_performAll b claims hclaims w with ⟨others, h⟩
    exact ⟨others, h.restored⟩

/-- Two claims, the first of which is given the worker's own signal, which is
    cancelled meanwhile. -/
theorem claims_restore_signals_tardy : ∃ w₀ w,
    prepare .oneClaim ⟨0, .empty⟩ () = .ok w₀ ∧ w₀.launch .tardy = (.ok (), w) ∧
    w.scene.signals.isHeld 0 = true ∧
    (∀ s t, t ∉ (w.consumeWith .tardy 1 0).2.scene.signals.linksOf s) ∧
    ∃ others, Restored .tardy w
      (w.performAll .tardy [(1, .consumeWith 0), (1, .consume)]).2 others := by
  refine ⟨_, _, rfl, rfl, rfl, fun s t hlink => ?_, ?_⟩
  · have hreturns : ∀ outcome : Outcome Reference, outcome = .finished (.ok ⟨"a", "e", none⟩) →
        outcome ≠ .beyondClock := fun _ heq => heq ▸ nofun
    have hold := ((claims_restore_signals .tardy _).1 1 0).2 (hreturns _ rfl) s t hlink
    cases s <;> exact absurd hold List.not_mem_nil
  · refine (claims_restore_signals .tardy _).2 _ fun claim hmem => ?_
    rcases List.mem_cons.mp hmem with rfl | hmem
    · rfl
    · rw [List.mem_singleton.mp hmem]
      rfl

end World

end EventFlow
