import EventFlow.Proofs.Worker.Intake
import EventFlow.Proofs.Worker.Sessions
import Mathlib.Order.Interval.Finset.Nat

/-!
# Calls at the Same Time

Any number of calls on the session of one worker, their steps interleaved in
any way, replace a session once when it is lost, and never another.

A call looks for the session, makes its request, and when it was answered that
the session is lost, empties the slot. In between the slot belongs to others,
who may have replaced the session by the time that the answer comes. `Team` is
a worker together with how far each of its calls has come; a step is taken by
one of them, or makes no difference to the session.

`Sound` is what all steps keep. Every session but that in the slot was
reported lost, as the slot is only emptied by a call that reported its session
lost, and filled only when it is empty. So the sessions that there have been
are counted by those that were lost, and one more. A session that has left the
slot does not come back: the slot is only ever filled with a newer one.

`reaches_call` and `reaches_performAll` tie the steps to the operations: a call
that runs alone, and a run of a single caller, are runs of these steps.

## Main definitions

* `Stage`: How far a call has come.
* `Team`, `Team.Step`: A worker and its calls, and a step of one of them.
* `Team.settle`: The last step of a call.
* `Team.Sound`: Sessions are accounted for.
* `Outside.failing`: A backend whose first session is lost.

## Theorems

* `sound_step`, `sound_of_reaches`: Any interleaving accounts for sessions.
* `gone_step`: A session that has left the slot does not come back.
* `slot_of_step`: Who empties the slot.
* `reaches_call`, `reaches_performAll`: A call, and a run, on their own.
* `session_shared`: How calls share a session.
-/

namespace EventFlow

/-- How far a call has come. Between two stages of a call, all the others may go on. -/
inductive Stage where
  /-- It has no session yet. -/
  | waiting (call : Call)
  /-- It has a session to ask. -/
  | asking (session : SessionId) (call : Call)
  /-- The session has answered. -/
  | answered (session : SessionId) (call : Call) (result : Except SessionError call.Answer)
  | ended

/-- A worker, and how far each of its calls has come. -/
structure Team (σ : Type) where
  world : World σ
  calls : List Stage

/-- What is known of the session of a call: it is one that there has been, and if
    the call says that it is lost, it was reported lost. Both last when the trace
    grows. -/
def Stage.Known (trace : List Event) : Stage → Prop
  | .waiting _ | .ended => True
  | .asking s _ => s ≤ newest trace
  | .answered s _ result =>
      s ≤ newest trace ∧ (reportsLost result = true → s ∈ lostSessions trace)

theorem Stage.Known.cons {stage : Stage} {trace : List Event} (event : Event)
    (h : stage.Known trace) : stage.Known (event :: trace) := by
  have hle : newest trace ≤ newest (event :: trace) := newest_cons ▸ Nat.le_add_right _ _
  cases stage with
  | waiting _ | ended => trivial
  | asking s call => exact Nat.le_trans h hle
  | answered s call result =>
      exact ⟨Nat.le_trans h.1 hle, fun hlost => mem_lostSessions_cons.mpr (.inr (h.2 hlost))⟩

namespace Team

variable {σ : Type} {b : Outside σ} {team team' : Team σ} {w w' : World σ} {s t : SessionId}
  {stage : Stage} {calls : List Stage} {i : Nat}

/-- The last step of a call: the slot is emptied if the session is lost, and if it
    is this session that is in it. -/
def settle (team : Team σ) (i : Nat) (s : SessionId) {α : Type} (result : Except SessionError α) :
    Team σ :=
  ⟨team.world.settle s result, team.calls.set i .ended⟩

/-- A call begins or comes further, or something is done that makes no difference to
    the session. Looking for a session is one step, connect included, because nobody
    else comes to the slot meanwhile. -/
inductive Step (b : Outside σ) : Team σ → Team σ → Prop where
  | begin {team : Team σ} (call : Call) :
      Step b team { team with calls := team.calls ++ [.waiting call] }
  /-- A call gets a session. -/
  | found {team : Team σ} {i : Nat} {call : Call} {s : SessionId} {w : World σ}
      (stage : team.calls[i]? = some (.waiting call)) (look : team.world.lookUp b = (.ok s, w)) :
      Step b team ⟨w, team.calls.set i (.asking s call)⟩
  /-- A call gets none, and is over. -/
  | refused {team : Team σ} {i : Nat} {call : Call} {e : SessionError} {w : World σ}
      (stage : team.calls[i]? = some (.waiting call))
      (look : team.world.lookUp b = (.error e, w)) :
      Step b team ⟨w, team.calls.set i .ended⟩
  /-- A session answers. -/
  | answered {team : Team σ} {i : Nat} {call : Call} {s : SessionId}
      (stage : team.calls[i]? = some (.asking s call)) :
      Step b team ⟨(team.world.ask b s call).2,
        team.calls.set i (.answered s call (team.world.ask b s call).1)⟩
  /-- A call that was answered comes to its end. -/
  | settled {team : Team σ} {i : Nat} {call : Call} {s : SessionId}
      {result : Except SessionError call.Answer}
      (stage : team.calls[i]? = some (.answered s call result)) :
      Step b team (team.settle i s result)
  | aside {team : Team σ} {w : World σ} (aside : World.Aside team.world w) :
      Step b team { team with world := w }

/-! ## Sessions are accounted for -/

/-- The slot agrees with the trace, every session but that in the slot was
    reported lost, and calls know the sessions that they are made on. -/
structure Sound (team : Team σ) : Prop where
  tracked : team.world.Tracked
  accounted : ∀ s, 0 < s → s ≤ team.world.worker.connects →
    team.world.worker.slot = some s ∨ s ∈ lostSessions team.world.trace
  known : ∀ stage ∈ team.calls, stage.Known team.world.trace

/-- Connecting while the slot is empty: all sessions so far were reported lost. -/
theorem Sound.connect {began : Moment} {result : Except SessionError Unit} (h : Sound team)
    (empty : team.world.worker.slot = none) (tracked : w.Tracked)
    (opened : ∀ s, s ≤ w.worker.connects → s ≤ team.world.worker.connects ∨
      w.worker.slot = some s)
    (trace : w.trace = .connect began result :: team.world.trace) : Sound ⟨w, team.calls⟩ where
  tracked := tracked
  accounted := fun s hpos hle => by
    rcases opened s hle with hold | hnew
    · rcases h.accounted s hpos hold with hslot | hlost
      · exact absurd (hslot.symm.trans empty) (Option.some_ne_none s)
      · exact .inr (trace ▸ mem_lostSessions_connect.mpr hlost)
    · exact .inl hnew
  known := fun stage hmem => trace ▸ (h.known stage hmem).cons _

/-- Looking for a session keeps the books: a new one is only made where the slot was
    empty, and then it takes its place there. -/
theorem Sound.lookUp {result : Except SessionError SessionId} (h : Sound team)
    (look : World.LookedUp team.world (result, w)) : Sound ⟨w, team.calls⟩ := by
  have htracked := World.tracked_of_lookedUp h.tracked look
  cases look with
  | kept s slot => exact h
  | failed began e _ empty slot connects trace =>
      exact h.connect empty htracked (fun s hle => .inl (connects ▸ hle)) trace
  | opened began _ empty slot connects trace =>
      refine h.connect empty htracked (fun s hle => ?_) trace
      rw [connects] at hle
      rw [slot]
      exact (Nat.le_succ_iff.mp hle).imp_right fun heq => congrArg some heq.symm

/-- An answer may add a session to those that were reported lost, and takes none
    away. -/
theorem Sound.ask (h : Sound team) (s : SessionId) (call : Call) :
    Sound ⟨(team.world.ask b s call).2, team.calls⟩ where
  tracked := World.tracked_ask h.tracked s call
  accounted := fun t hpos hle =>
    (h.accounted t hpos hle).imp_right fun hlost => mem_lostSessions_call.mpr (.inr hlost)
  known := fun stage hmem => (h.known stage hmem).cons _

/-- The end of a call keeps the books, provided that the session it reports lost is
    among those that were. -/
theorem Sound.settle {α : Type} {result : Except SessionError α} (h : Sound team)
    (reported : reportsLost result = true → s ∈ lostSessions team.world.trace) :
    Sound ⟨team.world.settle s result, team.calls⟩ where
  tracked := World.tracked_settle h.tracked s result
  accounted := fun t hpos hle => by
    rw [World.connects_settle] at hle
    rw [World.slot_settle, World.trace_settle]
    rcases h.accounted t hpos hle with hslot | hlost
    · -- The session leaves the slot only if it was reported lost.
      split
      · rename_i hand
        obtain rfl := Option.some.inj (hand.2.symm.trans hslot)
        exact .inr (reported hand.1)
      · exact .inl hslot
    · exact .inr hlost
  known := fun stage hmem => (World.trace_settle s result team.world).symm ▸ h.known stage hmem

/-- What makes no difference to the session makes none to the books. -/
theorem Sound.aside (h : Sound team) (aside : World.Aside team.world w) :
    Sound ⟨w, team.calls⟩ where
  tracked := h.tracked.aside aside
  accounted := by
    rw [aside.connects, aside.slot, aside.lostSessions_eq]
    exact h.accounted
  known := fun stage hmem => by
    rcases aside.trace with heq | ⟨event, -, heq⟩
    · exact heq.symm ▸ h.known stage hmem
    · exact heq.symm ▸ (h.known stage hmem).cons event

/-- A call comes further. -/
theorem Sound.set (h : Sound team) (i : Nat) (stage : Stage)
    (known : stage.Known team.world.trace) :
    Sound { team with calls := team.calls.set i stage } where
  tracked := h.tracked
  accounted := h.accounted
  known := fun stage' hmem => by
    rcases List.mem_or_eq_of_mem_set hmem with hold | rfl
    · exact h.known stage' hold
    · exact known

/-- Every step keeps the books, whichever call takes it. -/
theorem sound_step (h : Sound team) (step : Step b team team') : Sound team' := by
  cases step with
  | begin call =>
      refine ⟨h.tracked, h.accounted, fun stage hmem => ?_⟩
      rcases List.mem_append.mp hmem with hold | hnew
      · exact h.known stage hold
      · obtain rfl := List.mem_singleton.mp hnew
        trivial
  | @found i call s w stage look =>
      -- What is in the slot is the newest session, so it is one that there has been.
      have hlooked := World.lookedUp_of_eq look
      have hsound := h.lookUp hlooked
      have hs : s = newest w.trace :=
        (hsound.tracked.eq_connects hlooked.slot_eq).trans hsound.tracked.connects
      exact hsound.set i (.asking s call) (Nat.le_of_eq hs)
  | refused stage look =>
      exact (h.lookUp (World.lookedUp_of_eq look)).set _ .ended trivial
  -- The answer is noted in the same step, so the call cannot report what the trace has not.
  | @answered i call s stage =>
      have hknown := (h.known _ (List.mem_of_getElem? stage)).cons
        (.call team.world.scene.now s call (team.world.ask b s call).1)
      exact (h.ask s call).set i _
        ⟨hknown, fun hlost => mem_lostSessions_call.mpr (.inl ⟨hlost, rfl⟩)⟩
  | settled stage =>
      -- If the call reports its session lost, the trace has had that since it was answered.
      have hknown := h.known _ (List.mem_of_getElem? stage)
      exact (h.settle hknown.2).set _ .ended trivial
  | aside haside => exact h.aside haside

/-- So does every interleaving of such steps. -/
theorem sound_of_reaches (h : Sound team) (reached : Relation.ReflTransGen (Step b) team team') :
    Sound team' := by
  induction reached with
  | refl => exact h
  | tail _ step ih => exact sound_step ih step

/-- There have been no more sessions than those that were reported lost, and
    the one in the slot. -/
theorem Sound.newest_le (h : Sound team) :
    newest team.world.trace ≤ 1 + (lostSessions team.world.trace).card := by
  -- Sessions are numbered from one to the newest, and all of them are accounted for.
  have hsub : Finset.Icc 1 (newest team.world.trace) ⊆
      insert (newest team.world.trace) (lostSessions team.world.trace) := by
    intro s hs
    rw [Finset.mem_Icc, ← h.tracked.connects] at hs
    rw [Finset.mem_insert]
    exact (h.accounted s hs.1 hs.2).imp_left fun hslot =>
      (h.tracked.eq_connects hslot).trans h.tracked.connects
  calc newest team.world.trace = (Finset.Icc 1 (newest team.world.trace)).card := by
        rw [Nat.card_Icc, Nat.add_sub_cancel]
    _ ≤ (insert (newest team.world.trace) (lostSessions team.world.trace)).card :=
        Finset.card_le_card hsub
    _ ≤ 1 + (lostSessions team.world.trace).card :=
        Nat.add_comm _ 1 ▸ Finset.card_insert_le _ _

/-! ## What becomes of the slot -/

/-- A session has left the slot. It is one that there has been, which is what tells
    it from all sessions to come. -/
structure Gone (s : SessionId) (team : Team σ) : Prop where
  le : s ≤ team.world.worker.connects
  slot : team.world.worker.slot ≠ some s

/-- A session that has left the slot does not come back: whatever is connected
    is newer. -/
theorem gone_of_lookedUp {result : Except SessionError SessionId} (h : Gone s team)
    (look : World.LookedUp team.world (result, w)) (calls : List Stage) : Gone s ⟨w, calls⟩ := by
  cases look with
  | kept t slot => exact ⟨h.le, h.slot⟩
  | failed began e _ empty slot connects trace =>
      exact ⟨connects ▸ h.le, fun hslot => Option.some_ne_none s (hslot.symm.trans slot)⟩
  | opened began _ empty slot connects trace =>
      -- The number of the session that comes into the slot is greater than all before it.
      refine ⟨connects ▸ Nat.le_succ_of_le h.le, fun hslot => ?_⟩
      have heq : team.world.worker.connects + 1 = s := Option.some.inj (slot.symm.trans hslot)
      exact Nat.not_succ_le_self _ (heq ▸ h.le)

/-- No step brings it back, since only a connect fills the slot. -/
theorem gone_step (h : Gone s team) (step : Step b team team') : Gone s team' := by
  cases step with
  | begin call => exact ⟨h.le, h.slot⟩
  | found stage look => exact gone_of_lookedUp h (World.lookedUp_of_eq look) _
  | refused stage look => exact gone_of_lookedUp h (World.lookedUp_of_eq look) _
  | answered stage => exact ⟨h.le, h.slot⟩
  | @settled i call t result stage =>
      refine ⟨(World.connects_settle t result team.world).symm ▸ h.le, ?_⟩
      rw [settle, World.slot_settle]
      split
      · exact (Option.some_ne_none s).symm
      · exact h.slot
  | aside haside => exact ⟨haside.connects ▸ h.le, haside.slot ▸ h.slot⟩

/-- So it stays away for good, whatever calls come and go. -/
theorem gone_of_reaches (h : Gone s team) (reached : Relation.ReflTransGen (Step b) team team') :
    Gone s team' := by
  induction reached with
  | refl => exact h
  | tail _ step ih => exact gone_step ih step

/-- Nobody who looks for a session finds it again. -/
theorem Gone.lookUp_ne (h : Gone s team) (b : Outside σ) :
    (team.world.lookUp b).1 ≠ .ok s := by
  intro hresult
  have hlooked : World.LookedUp team.world (.ok s, (team.world.lookUp b).2) :=
    World.lookedUp_of_eq (b := b) (Prod.ext hresult rfl)
  exact (gone_of_lookedUp h hlooked []).slot hlooked.slot_eq

/-- A call that reports its session lost takes it out of the slot. -/
theorem Sound.gone {call : Call} {result : Except SessionError call.Answer} (h : Sound team)
    (stage : team.calls[i]? = some (.answered s call result))
    (reported : reportsLost result = true) : Gone s (team.settle i s result) where
  le := by
    rw [Team.settle, World.connects_settle, h.tracked.connects]
    exact (h.known _ (List.mem_of_getElem? stage)).1
  slot := by
    rw [Team.settle, World.slot_settle]
    split
    · exact (Option.some_ne_none s).symm
    · rename_i hand
      exact fun hslot => hand ⟨reported, hslot⟩

/-- Only a call that reports a session lost takes it out of the slot. Calls on other
    sessions, late ones above all, leave it where it is. -/
theorem slot_of_step (slot : team.world.worker.slot = some s) (step : Step b team team') :
    team'.world.worker.slot = some s ∨
      ∃ i call, ∃ result : Except SessionError call.Answer,
        team.calls[i]? = some (.answered s call result) ∧ reportsLost result = true ∧
        team' = team.settle i s result := by
  -- While there is a session in the slot, a lookup finds it and does nothing else.
  have hlook : team.world.lookUp b = (.ok s, team.world) := by rw [World.lookUp, slot]
  cases step with
  | begin call => exact .inl slot
  | found stage look =>
      obtain ⟨-, rfl⟩ := Prod.mk.inj (hlook.symm.trans look)
      exact .inl slot
  | refused stage look =>
      obtain ⟨-, rfl⟩ := Prod.mk.inj (hlook.symm.trans look)
      exact .inl slot
  | answered stage => exact .inl slot
  -- The session that is settled may be another one than that in the slot.
  | @settled i call t result stage =>
      by_cases hand : reportsLost result = true ∧ team.world.worker.slot = some t
      · obtain rfl := Option.some.inj (slot.symm.trans hand.2)
        exact .inr ⟨i, call, result, stage, hand.1, rfl⟩
      · rw [settle, World.slot_settle, if_neg hand]
        exact .inl slot
  | aside haside => exact .inl (haside.slot.trans slot)

/-- Nobody connects unless the slot is empty. -/
theorem connects_of_step (slot : team.world.worker.slot = some s) (step : Step b team team') :
    team'.world.trace.filter Event.isConnect = team.world.trace.filter Event.isConnect := by
  have hlook : team.world.lookUp b = (.ok s, team.world) := by rw [World.lookUp, slot]
  cases step with
  | begin call => rfl
  | found stage look =>
      obtain ⟨-, rfl⟩ := Prod.mk.inj (hlook.symm.trans look)
      rfl
  | refused stage look =>
      obtain ⟨-, rfl⟩ := Prod.mk.inj (hlook.symm.trans look)
      rfl
  | answered stage => rfl
  | settled stage => rw [settle, World.trace_settle]
  | aside haside =>
      rcases haside.trace with heq | ⟨event, hevent, heq⟩
      · rw [heq]
      · cases event with
        | start _ | interval _ => rw [heq]; rfl
        | connect _ _ | call _ _ _ _ => exact absurd hevent Bool.false_ne_true

/-! ## Calls on their own -/

/-- A call that runs from beginning to end takes these steps, so what holds of all
    interleavings holds of calls on their own. -/
theorem reaches_call (b : Outside σ) (call : Call) (w : World σ) (calls : List Stage) :
    Relation.ReflTransGen (Step b) ⟨w, calls⟩ ⟨(w.call b call).2, calls ++ [.ended]⟩ := by
  -- The call is the last of all, and stays where it is.
  have hget : ∀ stage : Stage, (calls ++ [stage])[calls.length]? = some stage := fun _ =>
    List.getElem?_concat_length
  have hset : ∀ stage stage' : Stage,
      (calls ++ [stage]).set calls.length stage' = calls ++ [stage'] := fun stage stage' => by
    rw [List.set_append_right _ _ (Nat.le_refl _), Nat.sub_self, List.set_cons_zero]
  have hbegin : Relation.ReflTransGen (Step b) ⟨w, calls⟩ ⟨w, calls ++ [.waiting call]⟩ :=
    .single (.begin call)
  rcases World.call_eq b call w with ⟨e, w₁, hlook, hcall⟩ | ⟨s, w₁, hlook, hcall⟩
  · have hrefused := hbegin.tail (.refused (hget _) hlook)
    rw [hset] at hrefused
    rwa [hcall]
  · have hfound := hbegin.tail (.found (hget _) hlook)
    rw [hset] at hfound
    have hanswered := hfound.tail (.answered (hget _))
    rw [hset] at hanswered
    have hsettled := hanswered.tail (.settled (hget _))
    rw [settle, hset] at hsettled
    rwa [hcall]

/-- A caller who does one thing after the other takes these steps, and what lies
    between two calls makes no difference to the session. -/
theorem reaches_performAll (b : Outside σ) (actions : List (Nat × Action)) (w : World σ) :
    ∃ calls, Relation.ReflTransGen (Step b) ⟨w, []⟩ ⟨(w.performAll b actions).2, calls⟩ := by
  refine World.performAll_rule (b := b) (P := fun w' =>
    ∃ calls, Relation.ReflTransGen (Step b) ⟨w, []⟩ ⟨w', calls⟩) ?_ ?_ actions ⟨[], .refl⟩
  · rintro w₁ w₂ ⟨calls, hreach⟩ haside
    exact ⟨calls, hreach.tail (.aside haside)⟩
  · rintro call w₁ ⟨calls, hreach⟩
    exact ⟨calls ++ [.ended], hreach.trans (reaches_call b call w₁ calls)⟩

/-! ## Any number of calls -/

/-- A worker that has just connected has its books in order: its first session is in
    the slot. -/
theorem sound_launch {config : Config} {scene : Scene} {outside : σ} {w₀ : World σ}
    (hprepare : World.prepare config scene outside = .ok w₀)
    (hlaunch : w₀.launch b = (.ok (), w)) : Sound ⟨w, []⟩ := by
  rcases World.new_of_prepare hprepare with ⟨hslot, hconnects, -⟩
  rcases World.lookedUp_launch hslot hlaunch with ⟨s, hlooked⟩
  -- Before the first connect there are no sessions to account for.
  have hnew : Sound ⟨w₀, []⟩ := by
    refine ⟨(World.inTurn_of_prepare hprepare).toTracked, fun t hpos hle => ?_,
      fun _ hmem => absurd hmem List.not_mem_nil⟩
    rw [hconnects] at hle
    exact absurd hpos (Nat.not_lt.mpr hle)
  exact hnew.lookUp hlooked

/-- However many calls there are, whatever comes of their connects and
    requests, and in whatever order their steps come: the slot is empty or
    holds the newest session; nobody connects unless it is empty; only a call
    that reports the session in it lost empties it, and any other leaves it as
    it is; a session that was reported lost by a call that is over is never
    looked up again; and there are no more successful connects than sessions
    that were reported lost, and one. If calls are made one after the other,
    each is made on the newest session, and nobody has reported that lost. -/
theorem session_shared {config : Config} {scene : Scene} {outside : σ} {w₀ : World σ}
    (b : Outside σ) (hprepare : World.prepare config scene outside = .ok w₀)
    (hlaunch : w₀.launch b = (.ok (), w)) :
    (∀ team, Relation.ReflTransGen (Step b) ⟨w, []⟩ team →
      (team.world.worker.slot = none ∨
        team.world.worker.slot = some (newest team.world.trace)) ∧
      (∀ team' s, Step b team team' → team.world.worker.slot = some s →
        team'.world.trace.filter Event.isConnect = team.world.trace.filter Event.isConnect ∧
        (team'.world.worker.slot = some s ∨
          ∃ i call, ∃ result : Except SessionError call.Answer,
            team.calls[i]? = some (.answered s call result) ∧ reportsLost result = true ∧
            team' = team.settle i s result)) ∧
      (∀ i s call, ∀ result : Except SessionError call.Answer,
        team.calls[i]? = some (.answered s call result) →
        (∀ t, t ≠ s → team.world.worker.slot = some t →
          (team.settle i s result).world.worker.slot = some t) ∧
        (reportsLost result = false →
          (team.settle i s result).world.worker.slot = team.world.worker.slot) ∧
        (reportsLost result = true →
          ∀ later, Relation.ReflTransGen (Step b) (team.settle i s result) later →
            (later.world.lookUp b).1 ≠ .ok s)) ∧
      newest team.world.trace ≤ 1 + (lostSessions team.world.trace).card) ∧
    ∀ actions earlier began s call result,
      .call began s call result :: earlier <:+ (w.performAll b actions).2.trace →
      s = newest earlier ∧ 0 < s ∧ s ∉ lostSessions earlier := by
  have hstart := sound_launch hprepare hlaunch
  refine ⟨fun team reached => ?_, fun actions => ?_⟩
  · have h := sound_of_reaches hstart reached
    refine ⟨h.tracked.connects ▸ h.tracked.slot, fun team' s step slot =>
      ⟨connects_of_step slot step, slot_of_step slot step⟩,
      fun i s call result stage =>
        ⟨fun t hne slot => ?_, fun other => ?_, fun lost later hlater => ?_⟩, h.newest_le⟩
    · rw [settle, World.slot_settle, if_neg, slot]
      exact fun hand => hne (Option.some.inj (slot.symm.trans hand.2))
    · rw [settle, World.settle_of_not_reportsLost s team.world other]
    · -- The call takes its session out of the slot, for good.
      exact (gone_of_reaches (h.gone stage lost) hlater).lookUp_ne b
  · rcases World.lookedUp_launch (World.new_of_prepare hprepare).1 hlaunch with ⟨s, hlooked⟩
    exact (World.inTurn_performAll b actions
      (World.inTurn_of_lookedUp (World.inTurn_of_prepare hprepare) hlooked)).calls

end Team

/-- A backend whose first session is lost as soon as it is used. -/
def Outside.failing : Outside Unit where
  connect := fun _ e => (⟨.ok (), []⟩, e, ())
  answer := fun s _ _ e =>
    (⟨.error (if s = 1 then .disconnected "reset" else .notFound), []⟩, e, ())
  wait := fun _ _ _ => ([], ())

namespace Team

/-- Two calls were told that the first session is lost. One of them empties the
    slot, a third call connects, and then the other one comes too late to take
    the new session away. -/
theorem session_shared_late : ∃ w₀ w team, ∃ lost : Except SessionError EventId,
    World.prepare .oneClaim ⟨0, .empty⟩ () = .ok w₀ ∧ w₀.launch .failing = (.ok (), w) ∧
    Relation.ReflTransGen (Step .failing) ⟨w, []⟩ team ∧
    team.calls[1]? = some (.answered 1 .reserve lost) ∧ reportsLost lost = true ∧
    (team.settle 1 1 lost).world.worker.slot = some 2 ∧
    newest team.world.trace ≤ 1 + (lostSessions team.world.trace).card := by
  obtain ⟨w₀, w, hprepare, hlaunch, hslot, hconnects⟩ : ∃ w₀ w,
      World.prepare .oneClaim ⟨0, .empty⟩ () = .ok w₀ ∧ w₀.launch .failing = (.ok (), w) ∧
      w.worker.slot = some 1 ∧ w.worker.connects = 1 := ⟨_, _, rfl, rfl, rfl, rfl⟩
  have hlook : w.lookUp .failing = (.ok 1, w) := by rw [World.lookUp, hslot]
  have hasking : Relation.ReflTransGen (Step .failing) ⟨w, []⟩
      ⟨w, [.asking 1 .reserve, .asking 1 .reserve]⟩ :=
    Relation.ReflTransGen.refl
      |>.tail (.begin .reserve) |>.tail (.begin .reserve)
      |>.tail (.found (i := 0) rfl hlook) |>.tail (.found (i := 1) rfl hlook)
  -- Both calls are answered before either of them comes to its end.
  let lost : Except SessionError EventId := .error (.disconnected "reset")
  obtain ⟨w₁, hsettled, hslot₁, hconnects₁⟩ : ∃ w₁, Relation.ReflTransGen (Step .failing) ⟨w, []⟩
      ⟨w₁, [.ended, .answered 1 .reserve lost]⟩ ∧ w₁.worker.slot = none ∧ w₁.worker.connects = 1 :=
    ⟨_, hasking
      |>.tail (.answered (i := 0) rfl) |>.tail (.answered (i := 1) rfl)
      |>.tail (.settled (i := 0) rfl),
      (World.slot_settle ..).trans (if_pos ⟨rfl, hslot⟩),
      (World.connects_settle ..).trans hconnects⟩
  obtain ⟨w₂, hlook₁⟩ : ∃ w₂, w₁.lookUp .failing = (.ok 2, w₂) := by
    refine ⟨(w₁.lookUp .failing).2, Prod.ext ?_ rfl⟩
    rw [World.lookUp, hslot₁]
    exact congrArg (fun n => Except.ok (n + 1)) hconnects₁
  have hslot₂ : w₂.worker.slot = some 2 := (World.lookedUp_of_eq hlook₁).slot_eq
  have hconnected : Relation.ReflTransGen (Step .failing) ⟨w, []⟩
      ⟨w₂, [.ended, .answered 1 .reserve lost, .asking 2 .reserve]⟩ :=
    hsettled.tail (.begin .reserve) |>.tail (.found (i := 2) rfl hlook₁)
  rcases (session_shared .failing hprepare hlaunch).1 _ hconnected with ⟨-, -, hlate, hcount⟩
  exact ⟨w₀, w, _, lost, hprepare, hlaunch, hconnected, rfl, rfl,
    (hlate 1 1 .reserve lost rfl).1 2 (by decide) hslot₂, hcount⟩

end Team

end EventFlow
