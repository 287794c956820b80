import EventFlow.Proofs.Worker.Run
import Mathlib.Data.Finset.Card

/-!
# The Session of a Worker

Which session a worker uses, when nobody else uses the worker meanwhile.

A session is known by the number of the connect that gave it, so the newest
session can be told from a trace by counting, and so can those that were
reported lost. The slot of a worker says less: it is empty or holds the newest
session (`Tracked`). It says enough, though, as long as calls are made one
after the other. What a call finds in the slot was never reported lost, since
the call that reported it would have emptied the slot before anybody could
look again; and what it puts there has not been used. `InTurn` has both, and
`inTurn_performAll` carries it through every run.

Most of what a worker does is no concern of its session. `Aside` is what makes
no difference to it, and `Resting` is what makes none to the rotation and to the
backends either. `perform_keeps` is the rule for facts that calls keep and things
of no concern do, too.

## Main definitions

* `newest`, `lostSessions`: What a trace says of sessions.
* `World.LookedUp`: What looking for a session comes to.
* `World.Aside`: What makes no difference to the session.
* `World.Resting`: What nobody is asked for.
* `World.Tracked`: The slot agrees with the trace.
* `World.InTurn`: Calls are made on the newest session, and before it is lost.

## Theorems

* `lookedUp_lookUp`: Looking for a session does nothing else.
* `slot_settle`: Who empties the slot.
* `perform_keeps`: What calls keep, every operation keeps.
* `inTurn_call`: A call from beginning to end.
* `inTurn_performAll`: A run, one operation after the other.
-/

namespace EventFlow

/-- Whether the answer to a call says that the session is lost. -/
def reportsLost {α : Type} : Except SessionError α → Bool
  | .ok _ => false
  | .error e => e.isConnectionLost

namespace Event

/-- Whether an event is a connect. -/
def isConnect : Event → Bool
  | .connect _ _ => true
  | _ => false

/-- Whether an event is a connect that gave a session. -/
def opens : Event → Bool
  | .connect _ (.ok _) => true
  | _ => false

/-- The session that an event reports lost. -/
def lost? : Event → Option SessionId
  | .call _ session _ result => if reportsLost result then some session else none
  | _ => none

/-- Whether an event is no concern of the session: neither the beginning of an
    operation nor an interval says anything of one. -/
def isAside : Event → Bool
  | .connect _ _ | .call _ _ _ _ => false
  | .start _ | .interval _ => true

end Event

/-- The number of successful connects, which is that of the newest session. Sessions
    are numbered from one, so it is zero as long as there is none. -/
def newest (trace : List Event) : SessionId := trace.countP Event.opens

/-- The sessions that were reported lost. They are a set: a session that several
    calls report lost is lost once. -/
def lostSessions (trace : List Event) : Finset SessionId :=
  (trace.filterMap Event.lost?).toFinset

section Traces

variable {event : Event} {trace : List Event} {s t : SessionId}

theorem newest_cons : newest (event :: trace) = newest trace + if event.opens then 1 else 0 :=
  List.countP_cons

theorem mem_lostSessions_cons :
    s ∈ lostSessions (event :: trace) ↔ event.lost? = some s ∨ s ∈ lostSessions trace := by
  simp only [lostSessions, List.mem_toFinset, List.mem_filterMap, List.exists_mem_cons_iff]

theorem mem_lostSessions_call {began : Moment} {call : Call}
    {result : Except SessionError call.Answer} :
    t ∈ lostSessions (.call began s call result :: trace) ↔
      reportsLost result = true ∧ s = t ∨ t ∈ lostSessions trace := by
  rw [mem_lostSessions_cons, Event.lost?, Option.ite_none_right_eq_some, Option.some.injEq]

/-- A connect reports nothing lost. -/
theorem mem_lostSessions_connect {began : Moment} {result : Except SessionError Unit} :
    s ∈ lostSessions (.connect began result :: trace) ↔ s ∈ lostSessions trace :=
  mem_lostSessions_cons.trans (or_iff_right (Option.some_ne_none s).symm)

theorem newest_cons_of_isAside (h : event.isAside = true) :
    newest (event :: trace) = newest trace := by
  cases event with
  | start _ | interval _ => exact newest_cons
  | connect _ _ | call _ _ _ _ => exact absurd h Bool.false_ne_true

theorem lostSessions_cons_of_isAside (h : event.isAside = true) :
    lostSessions (event :: trace) = lostSessions trace := by
  ext s
  cases event with
  | start _ | interval _ =>
      exact mem_lostSessions_cons.trans (or_iff_right (Option.some_ne_none s).symm)
  | connect _ _ | call _ _ _ _ => exact absurd h Bool.false_ne_true

end Traces

namespace World

variable {σ α : Type} {b : Outside σ} {w w' : World σ} {s t : SessionId}

/-! ## What a call does to the slot -/

/-- What looking for a session comes to. There is no other effect: a session in the
    slot is used as it is, and a failed connect leaves the slot empty. -/
inductive LookedUp (w : World σ) : Except SessionError SessionId × World σ → Prop where
  /-- There is one in the slot. -/
  | kept (s : SessionId) (slot : w.worker.slot = some s) : LookedUp w (.ok s, w)
  /-- There is none, and connecting failed. -/
  | failed (began : Moment) (e : SessionError) (w' : World σ) (empty : w.worker.slot = none)
      (slot : w'.worker.slot = none) (connects : w'.worker.connects = w.worker.connects)
      (trace : w'.trace = .connect began (.error e) :: w.trace) : LookedUp w (.error e, w')
  /-- There was none, and connecting gave one. -/
  | opened (began : Moment) (w' : World σ) (empty : w.worker.slot = none)
      (slot : w'.worker.slot = some (w.worker.connects + 1))
      (connects : w'.worker.connects = w.worker.connects + 1)
      (trace : w'.trace = .connect began (.ok ()) :: w.trace) :
      LookedUp w (.ok (w.worker.connects + 1), w')

theorem lookedUp_connect (b : Outside σ) (empty : w.worker.slot = none) :
    LookedUp w (w.connect b) := by
  have htrace : (w.meet b).trace =
      .connect w.scene.now (b.connect w.outside w.worker.endpoints).1.result :: w.trace := rfl
  rw [connect_eq]
  cases hr : (b.connect w.outside w.worker.endpoints).1.result with
  | error e => exact .failed w.scene.now e (w.meet b) empty empty rfl (by rw [htrace, hr])
  | ok _ => exact .opened w.scene.now _ empty rfl rfl (by rw [htrace, hr])

theorem lookedUp_lookUp (b : Outside σ) (w : World σ) : LookedUp w (w.lookUp b) := by
  rw [lookUp]
  cases hs : w.worker.slot with
  | some s => exact .kept s hs
  | none => exact lookedUp_connect b hs

theorem lookedUp_of_eq {result : Except SessionError SessionId × World σ}
    (h : w.lookUp b = result) : LookedUp w result :=
  h ▸ lookedUp_lookUp b w

/-- What was looked up is in the slot. -/
theorem LookedUp.slot_eq (h : LookedUp w (.ok s, w')) : w'.worker.slot = some s := by
  cases h with
  | kept s slot => exact slot
  | opened began w' empty slot => exact slot

theorem settle_of_reportsLost {result : Except SessionError α} (s : SessionId) (w : World σ)
    (h : reportsLost result = true) :
    w.settle s result = { w with worker := w.worker.dropSession s } := by
  cases result with
  | ok a => exact absurd h Bool.false_ne_true
  | error e => exact if_pos h

theorem settle_of_not_reportsLost {result : Except SessionError α} (s : SessionId) (w : World σ)
    (h : reportsLost result = false) : w.settle s result = w := by
  cases result with
  | ok a => rfl
  | error e => exact if_neg (Bool.not_eq_true _ ▸ h)

/-- Who empties the slot: a call that reports its session lost, if the session is
    still there. A report that comes when the slot has another session changes
    nothing. -/
theorem slot_settle (s : SessionId) (result : Except SessionError α) (w : World σ) :
    (w.settle s result).worker.slot =
      if reportsLost result = true ∧ w.worker.slot = some s then none else w.worker.slot := by
  cases h : reportsLost result with
  | false => rw [settle_of_not_reportsLost s w h, if_neg fun hand => Bool.false_ne_true hand.1]
  | true =>
      rw [settle_of_reportsLost s w h, Worker.dropSession]
      by_cases hs : w.worker.slot = some s
      · rw [if_pos hs, if_pos ⟨rfl, hs⟩]
      · rw [if_neg hs, if_neg fun hand => hs hand.2]

theorem connects_settle (s : SessionId) (result : Except SessionError α) (w : World σ) :
    (w.settle s result).worker.connects = w.worker.connects := by
  rcases w.settle_eq s result with h | h
  · rw [h]
  · rcases w.worker.dropSession_eq s with hdrop | hdrop <;> rw [h, hdrop]

/-! ## What makes no difference -/

/-- The worker did something that makes no difference to its session, or others did.
    There is at most one event in it, which is enough for each of the steps between
    two calls. -/
structure Aside (w w' : World σ) : Prop where
  slot : w'.worker.slot = w.worker.slot
  connects : w'.worker.connects = w.worker.connects
  trace : w'.trace = w.trace ∨ ∃ event : Event, event.isAside = true ∧ w'.trace = event :: w.trace

theorem Aside.newest_eq (h : Aside w w') : newest w'.trace = newest w.trace := by
  rcases h.trace with heq | ⟨event, haside, heq⟩
  · rw [heq]
  · rw [heq, newest_cons_of_isAside haside]

theorem Aside.lostSessions_eq (h : Aside w w') : lostSessions w'.trace = lostSessions w.trace := by
  rcases h.trace with heq | ⟨event, haside, heq⟩
  · rw [heq]
  · rw [heq, lostSessions_cons_of_isAside haside]

/-- The worker asked nobody for anything. It may have waited, which is the only
    thing that the outside has heard of. -/
structure Resting (b : Outside σ) (w w' : World σ) : Prop extends Aside w w' where
  endpoints : w'.worker.endpoints = w.worker.endpoints
  outside : w'.outside = w.outside ∨
    ∃ start finish, w'.outside = (b.wait start finish w.outside).2

theorem resting_scene (b : Outside σ) (w : World σ) (scene : Scene) :
    Resting b w { w with scene } :=
  ⟨⟨rfl, rfl, .inl rfl⟩, rfl, .inl rfl⟩

theorem resting_record (b : Outside σ) (w : World σ) {event : Event} (h : event.isAside = true) :
    Resting b w (w.record event) :=
  ⟨⟨rfl, rfl, .inr ⟨event, h, rfl⟩⟩, rfl, .inl rfl⟩

/-- What a loop does between two attempts is resting. -/
theorem resting_of_idled (h : Retry.Idled b w w') : Resting b w w' where
  slot := by rw [h.worker_eq]
  connects := by rw [h.worker_eq]
  trace := h.trace_eq.imp_right fun ⟨interval, heq⟩ => ⟨.interval interval, rfl, heq⟩
  endpoints := by rw [h.worker_eq]
  outside := h.outside_eq

theorem resting_reserve (b : Outside σ) {worker : Worker} (h : w.worker.reserve? = some worker) :
    Resting b w { w with worker } := by
  rcases Worker.eq_of_reserve? h with ⟨n, rfl⟩
  exact ⟨⟨rfl, rfl, .inl rfl⟩, rfl, .inl rfl⟩

theorem resting_release (b : Outside σ) (w : World σ) :
    Resting b w { w with worker := w.worker.release } := by
  rw [Worker.release]
  split <;> exact ⟨⟨rfl, rfl, .inl rfl⟩, rfl, .inl rfl⟩

theorem resting_conclude (b : Outside σ) (outcome : Outcome Reference) (w : World σ) :
    Resting b w (conclude outcome w) := by
  rcases outcome with (e | a) | _ | _
  · exact resting_release b w
  · exact ⟨⟨rfl, rfl, .inl rfl⟩, rfl, .inl rfl⟩
  · exact resting_release b w
  · exact resting_release b w

section Rule

variable {P : World σ → Prop}

/-- What the attempts of a run keep, and resting keeps, the run keeps. This is the
    rule for runs with one fact in all places. -/
theorem run_keeps {scope : Scope} {attempt : UInt32 → World σ → Except SessionError α × World σ}
    (rest : ∀ w w', P w → Resting b w w' → P w') (attempts : ∀ n w, P w → P (attempt n w).2)
    (rounds : Nat) {w : World σ} (h : P w) : P (Retry.run b rounds scope attempt w).2 := by
  have hattempt : ∀ n w r w', P w → attempt n w = (r, w') → P w' := by
    intro n w r w' hw htry
    have := attempts n w hw
    rwa [htry] at this
  -- The loop may end with a success or without one, and does not care which here.
  rcases @Retry.run_rule σ α b scope attempt P (fun _ => P) rounds w
    (fun w w' hw hidle => rest w w' hw (resting_of_idled hidle))
    (fun n w e w' => hattempt n w _ w') (fun n w a w' => hattempt n w _ w')
    (rest w _ h (resting_record b w rfl)) with ⟨_, -, hend⟩ | ⟨-, hend⟩
  · exact hend
  · exact hend

/-- A claim makes calls and rests in between: taking and giving back its place,
    linking and unlinking its signal, and waiting are all of no concern to a
    session. -/
theorem consumeWith_keeps (rest : ∀ w w', P w → Resting b w w' → P w')
    (calls : ∀ call w, P w → P (w.call b call).2) (rounds : Nat) (signal : SignalId)
    {w : World σ} (h : P w) : P (w.consumeWith b rounds signal).2 := by
  have hclaim : ∀ w, P w → P (claim b rounds signal w).2 := by
    intro w h
    -- Links are made and taken away around the loop, and signals hold no sessions.
    have hjoin : P (w.join signal).2 := rest w _ h (resting_scene b w _)
    rw [claim]
    cases hd : (w.join signal).2.deadline? with
    | none =>
        simp only [hd]
        exact rest _ _ hjoin (resting_scene b _ _)
    | some deadline =>
        simp only [hd]
        have hrun : P (Retry.run b rounds ((w.join signal).2.claimScope (w.join signal).1 deadline)
            (claimAttempt b deadline) (w.join signal).2).2 :=
          run_keeps rest (fun _ w => calls (.claim (budget w.scene.now deadline)) w) rounds hjoin
        exact rest _ _ hrun (resting_scene b _ _)
  rw [consumeWith]
  cases hr : w.worker.reserve? with
  | none => exact h
  | some worker =>
      exact rest _ _ (hclaim _ (rest w _ h (resting_reserve b hr))) (resting_conclude b _ _)

/-- What calls keep, and what a worker keeps that asks nobody for anything, every
    operation keeps. To learn something of all runs, then, a single call has to be
    looked at. -/
theorem perform_keeps (rest : ∀ w w', P w → Resting b w w' → P w')
    (calls : ∀ call w, P w → P (w.call b call).2) (rounds : Nat) (action : Action) {w : World σ}
    (h : P w) : P (w.perform b rounds action).2 := by
  cases action with
  | consume =>
      exact rest _ _ (consumeWith_keeps rest calls rounds _ (rest w _ h (resting_scene b w _)))
        (resting_scene b _ _)
  | consumeWith signal => exact consumeWith_keeps rest calls rounds signal h
  | get reference => exact run_keeps rest (fun _ w => calls _ w) rounds h
  | ack reference options => exact run_keeps rest (fun _ w => calls _ w) rounds h
  | produce message =>
      -- One attempt is two calls here, and the second is made only if the first was answered.
      refine run_keeps rest (fun n w hw => ?_) rounds h
      have hreserve := calls .reserve w hw
      rcases produceAttempt_eq b message n w with ⟨e, w₁, hr, hp⟩ | ⟨eventId, w₁, hr, hp⟩
      · rw [hr] at hreserve
        rwa [hp]
      · rw [hr] at hreserve
        rw [hp]
        exact calls _ w₁ hreserve
  | shutDown => exact rest w _ h (resting_scene b w _)
  | arrange change => exact rest w _ h (resting_scene b w _)

theorem performAll_keeps (rest : ∀ w w', P w → Resting b w w' → P w')
    (calls : ∀ call w, P w → P (w.call b call).2) (actions : List (Nat × Action)) {w : World σ}
    (h : P w) : P (w.performAll b actions).2 := by
  induction actions generalizing w with
  | nil => exact h
  | cons action actions ih => exact ih (perform_keeps rest calls action.1 action.2 h)

/-- What calls keep, and what makes no difference to the session keeps, a run
    keeps. -/
theorem performAll_rule (aside : ∀ w w', P w → Aside w w' → P w')
    (calls : ∀ call w, P w → P (w.call b call).2) (actions : List (Nat × Action)) {w : World σ}
    (h : P w) : P (w.performAll b actions).2 :=
  performAll_keeps (fun w w' hw hrest => aside w w' hw hrest.toAside) calls actions h

end Rule

/-! ## The slot and the trace -/

/-- The slot agrees with the trace: it is empty or holds the newest session. It does
    not say that the session is still alive, which nobody can know before a call. -/
structure Tracked (w : World σ) : Prop where
  slot : w.worker.slot = none ∨ w.worker.slot = some w.worker.connects
  connects : w.worker.connects = newest w.trace

theorem Tracked.eq_connects (h : Tracked w) (slot : w.worker.slot = some s) :
    s = w.worker.connects := by
  rcases h.slot with hnone | hsome
  · exact absurd (slot.symm.trans hnone) (Option.some_ne_none s)
  · exact Option.some.inj (slot.symm.trans hsome)

theorem Tracked.aside (h : Tracked w) (haside : Aside w w') : Tracked w' where
  slot := by rw [haside.slot, haside.connects]; exact h.slot
  connects := by rw [haside.connects, h.connects, haside.newest_eq]

/-- Looking for a session puts the newest one into the slot, or leaves the slot as
    it is. -/
theorem tracked_of_lookedUp {result : Except SessionError SessionId} (h : Tracked w)
    (look : LookedUp w (result, w')) : Tracked w' := by
  -- A failed connect has no session to count; a successful one has the next number.
  cases look with
  | kept s slot => exact h
  | failed began e _ empty slot connects trace =>
      refine ⟨.inl slot, ?_⟩
      rw [connects, trace, h.connects, newest_cons]
      rfl
  | opened began _ empty slot connects trace =>
      refine ⟨.inr (connects ▸ slot), ?_⟩
      rw [connects, trace, h.connects, newest_cons]
      rfl

theorem tracked_ask (h : Tracked w) (s : SessionId) (call : Call) :
    Tracked (w.ask b s call).2 where
  slot := h.slot
  connects := h.connects

theorem tracked_settle (h : Tracked w) (s : SessionId) (result : Except SessionError α) :
    Tracked (w.settle s result) where
  slot := by
    rw [slot_settle, connects_settle]
    split
    · exact .inl rfl
    · exact h.slot
  connects := by rw [connects_settle, trace_settle, h.connects]

/-! ## One call after the other -/

/-- Calls were made on the session that was the newest one then, and of which
    nobody had said that it is lost; and the slot holds such a session, if any. -/
structure InTurn (w : World σ) : Prop extends Tracked w where
  pos : ∀ s, w.worker.slot = some s → 0 < s
  lost_le : ∀ s ∈ lostSessions w.trace, s ≤ w.worker.connects
  sound : ∀ s, w.worker.slot = some s → s ∉ lostSessions w.trace
  calls : ∀ earlier began s call result, .call began s call result :: earlier <:+ w.trace →
    s = newest earlier ∧ 0 < s ∧ s ∉ lostSessions earlier

theorem InTurn.aside (h : InTurn w) (haside : Aside w w') : InTurn w' where
  toTracked := h.toTracked.aside haside
  pos := by rw [haside.slot]; exact h.pos
  lost_le := by rw [haside.connects, haside.lostSessions_eq]; exact h.lost_le
  sound := by rw [haside.slot, haside.lostSessions_eq]; exact h.sound
  calls := fun earlier began s call result hsuffix => by
    rcases haside.trace with heq | ⟨event, hevent, heq⟩
    · exact h.calls earlier began s call result (heq ▸ hsuffix)
    · rw [heq, List.suffix_cons_iff] at hsuffix
      rcases hsuffix with hnew | hold
      · rw [← (List.cons.inj hnew).1] at hevent
        exact absurd hevent Bool.false_ne_true
      · exact h.calls earlier began s call result hold

/-- Connecting reports nothing lost and makes no calls. -/
theorem inTurn_connect {began : Moment} {result : Except SessionError Unit} (h : InTurn w)
    (tracked : Tracked w') (connects : w.worker.connects ≤ w'.worker.connects)
    (slot : ∀ s, w'.worker.slot = some s → s = w.worker.connects + 1)
    (trace : w'.trace = .connect began result :: w.trace) : InTurn w' := by
  have hlost : ∀ s, s ∈ lostSessions w'.trace ↔ s ∈ lostSessions w.trace := by
    intro s
    rw [trace, mem_lostSessions_connect]
  refine ⟨tracked, fun s hs => ?_, fun s hs => ?_, fun s hs hmem => ?_,
    fun earlier began s call result hsuffix => ?_⟩
  · rw [slot s hs]
    exact Nat.succ_pos _
  · exact Nat.le_trans (h.lost_le s ((hlost s).mp hs)) connects
  · -- The session is newer than all that were reported lost.
    have hle := h.lost_le s ((hlost s).mp hmem)
    rw [slot s hs] at hle
    exact Nat.not_succ_le_self _ hle
  · rw [trace, List.suffix_cons_iff] at hsuffix
    exact h.calls earlier began s call result
      (hsuffix.resolve_left fun hnew => Event.noConfusion (List.cons.inj hnew).1)

/-- Looking for a session keeps calls in turn. -/
theorem inTurn_of_lookedUp {result : Except SessionError SessionId} (h : InTurn w)
    (look : LookedUp w (result, w')) : InTurn w' := by
  have htracked := tracked_of_lookedUp h.toTracked look
  cases look with
  | kept s slot => exact h
  | failed began e _ empty slot connects trace =>
      refine inTurn_connect h htracked (Nat.le_of_eq connects.symm) (fun s hs => ?_) trace
      rw [slot] at hs
      exact absurd hs.symm (Option.some_ne_none s)
  | opened began _ empty slot connects trace =>
      refine inTurn_connect h htracked (connects ▸ Nat.le_succ _) (fun s hs => ?_) trace
      rw [slot] at hs
      exact (Option.some.inj hs).symm

/-- A call on the session in the slot, and what becomes of the slot by it. -/
theorem inTurn_ask (h : InTurn w) (slot : w.worker.slot = some s) (call : Call) :
    InTurn ((w.ask b s call).2.settle s (w.ask b s call).1) := by
  have hs := h.eq_connects slot
  have htrace : ((w.ask b s call).2.settle s (w.ask b s call).1).trace =
      .call w.scene.now s call (w.ask b s call).1 :: w.trace := trace_settle ..
  -- Between the call and its end the slot is nobody else's, so it still has the session.
  have hslot : ((w.ask b s call).2.settle s (w.ask b s call).1).worker.slot =
      if reportsLost (w.ask b s call).1 = true then none else some s := by
    have hkept : (w.ask b s call).2.worker.slot = some s := slot
    rw [slot_settle, hkept]
    simp only [and_true]
  refine ⟨tracked_settle (tracked_ask h.toTracked s call) s _, fun t ht => ?_, fun t ht => ?_,
    fun t ht hmem => ?_, fun earlier began t call' result hsuffix => ?_⟩
  · rw [hslot] at ht
    split at ht
    · exact absurd ht.symm (Option.some_ne_none t)
    · exact h.pos t (slot.trans ht)
  · rw [htrace, mem_lostSessions_call] at ht
    rw [connects_settle]
    rcases ht with ⟨-, rfl⟩ | hold
    · exact Nat.le_of_eq hs
    · exact h.lost_le t hold
  · -- The session stays only if this call did not report it lost.
    rw [hslot] at ht
    rw [htrace, mem_lostSessions_call] at hmem
    split at ht
    · exact absurd ht.symm (Option.some_ne_none t)
    · rename_i hkept
      exact h.sound t (slot.trans ht) (hmem.resolve_left fun hand => hkept hand.1)
  · -- The only new call is this one, and what it found is what the slot promised.
    rw [htrace, List.suffix_cons_iff] at hsuffix
    rcases hsuffix with hnew | hold
    · cases hnew
      exact ⟨hs.trans h.connects, h.pos s slot, h.sound s slot⟩
    · exact h.calls earlier began t call' result hold

/-- A call keeps the order of things, from beginning to end. -/
theorem inTurn_call (call : Call) (h : InTurn w) : InTurn (w.call b call).2 := by
  -- A call that finds no session is not made at all.
  rcases call_eq b call w with ⟨e, w₁, hlook, hcall⟩ | ⟨s, w₁, hlook, hcall⟩
  · rw [hcall]
    exact inTurn_of_lookedUp h (lookedUp_of_eq hlook)
  · -- Nobody comes in between what was looked up and the call on it.
    have hlooked := lookedUp_of_eq hlook
    rw [hcall]
    exact inTurn_ask (inTurn_of_lookedUp h hlooked) hlooked.slot_eq call

/-- Before its first connect, a worker has no session and has done nothing. -/
theorem new_of_prepare {config : Config} {scene : Scene} {outside : σ}
    (h : prepare config scene outside = .ok w) :
    w.worker.slot = none ∧ w.worker.connects = 0 ∧ w.trace = [] := by
  rw [prepare] at h
  cases he : Endpoints.of config.endpoints with
  | error e =>
      rw [he] at h
      exact absurd h (by simp only [reduceCtorEq, not_false_eq_true])
  | ok endpoints =>
      rw [he] at h
      obtain rfl := Except.ok.inj h
      exact ⟨rfl, rfl, rfl⟩

/-- A worker that could be made has connected, and its first session is in the slot. -/
theorem lookedUp_launch (empty : w.worker.slot = none) (h : w.launch b = (.ok (), w')) :
    ∃ s, LookedUp w (.ok s, w') := by
  have hlooked := lookedUp_connect b empty
  rw [launch] at h
  rcases hc : w.connect b with ⟨e | s, w₁⟩
  · rw [hc] at h
    exact absurd h (by simp only [Prod.mk.injEq, reduceCtorEq, false_and, not_false_eq_true])
  · rw [hc] at h hlooked
    obtain ⟨-, rfl⟩ := Prod.mk.inj h
    exact ⟨s, hlooked⟩

/-- Before its first connect nothing is out of turn, as there is neither a session
    nor a call. -/
theorem inTurn_of_prepare {config : Config} {scene : Scene} {outside : σ}
    (h : prepare config scene outside = .ok w) : InTurn w := by
  rcases new_of_prepare h with ⟨hslot, hconnects, htrace⟩
  have hnone : ∀ s, w.worker.slot ≠ some s := fun s hs =>
    Option.some_ne_none s (hs.symm.trans hslot)
  have hlost : ∀ s, s ∉ lostSessions w.trace := fun s hs => by
    rw [htrace] at hs
    exact absurd hs (Finset.notMem_empty s)
  refine ⟨⟨.inl hslot, by rw [hconnects, htrace]; rfl⟩, fun s hs => absurd hs (hnone s),
    fun s hs => absurd hs (hlost s), fun s hs => absurd hs (hnone s),
    fun earlier began s call result hsuffix => ?_⟩
  rw [htrace, List.suffix_nil] at hsuffix
  exact absurd hsuffix (List.cons_ne_nil _ _)

/-- A run, one operation after the other, makes every call on the newest session,
    and before that was reported lost. -/
theorem inTurn_performAll (b : Outside σ) (actions : List (Nat × Action)) (h : InTurn w) :
    InTurn (w.performAll b actions).2 :=
  performAll_rule (fun _ _ hw haside => hw.aside haside) (fun call _ hw => inTurn_call call hw)
    actions h

end World

end EventFlow
