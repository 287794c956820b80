import EventFlow.Proofs.Http.Failover
import EventFlow.Proofs.Http.Polling

/-!
# The Count of the Attempts Goes Round

What a claim reports that has polled for longer than its count lasts.

A claim counts its attempts in 32 bits, and a limit on retries has as many. The
number of attempts that such a limit allows is one more than the limit, so the
largest of them allows an attempt that the count has no number for. A backend
that has no work at any time leads a claim there: every answer is followed by
another request, up to the limit (`step_empty`), and then by the report that the
backoff gave up (`step_empty_last`). The report has the count, which has come
back to zero.

Nothing here looks at the single rounds of so long a run. Both lemmas are about
one round, wherever the count stands, and `loop_empty` goes through the rounds by
induction on the retries that are left. Time does not pass in it: a backoff
without waits and a backend that answers at once keep the clock where it is.

## Main definitions

* `Transport.empty`: A backend that never has work.
* `Polls`: The world of a claim that polls it.
* `Patient`: What a loop runs under that only its limit on retries ends.
* `idle`, `idleLoop`: A worker with such a limit, and the loop of its claims.

## Theorems

* `claimAttempt_empty`: A request finds no work, and nothing else happens.
* `loop_empty`, `loop_empty_of_le`: A loop that has rounds for all of its
  retries, and one that has not.
* `exhausted_empty`, `unfinished_empty`: What a worker comes to with any limit.
* `not_counted_empty`: With the largest one, no attempt at all.
-/

namespace EventFlow

namespace Http

/-- A backend that never has work. It answers at once, and lets no time pass while a
    worker waits. -/
def Transport.empty : Transport Unit where
  exchange := fun _ _ => (⟨.ok ⟨204, []⟩, []⟩, ())
  wait := fun _ _ _ => ([], ())

/-- A claim that polls a backend without work under this scope: it was not
    cancelled, no time has passed, and it has sent so many requests. -/
structure Polls (scope : Scope) (now : Moment) (count : Nat) (w : World (State Unit)) : Prop where
  calm : w.scene.signals.isCancelled scope.signal = false
  now_eq : w.scene.now = now
  sent_eq : w.outside.sent.length = count

variable {c : Client} {scope : Scope} {now : Moment} {count : Nat} {w : World (State Unit)}

/-- Nothing ends such a claim from without: it is not cancelled, and it has no
    deadline. -/
theorem Polls.check_eq_none (h : Polls scope now count w) (deadline : scope.deadline = none) :
    w.scene.check scope.signal scope.deadline = none :=
  Signals.check_eq_none.mpr ⟨h.calm, by rw [deadline]; rfl⟩

/-- A call to a backend that lets no time pass and does nothing else leaves the
    clock and the signals alone. -/
theorem scene_call_empty (call : Call) (w : World (State Unit)) :
    (w.call (outside c .empty) call).2.scene = w.scene := by
  -- Connecting does nothing either: it happens without any exchange.
  have hlook : ∀ {session w₁}, w.lookUp (outside c .empty) = (.ok session, w₁) →
      w₁.scene = w.scene := by
    intro session w₁ hlook
    unfold World.lookUp at hlook
    split at hlook <;> cases hlook <;> rfl
  rcases World.call_eq (outside c .empty) call w with ⟨e, w₁, hl, hcall⟩ | ⟨session, w₁, hl, hcall⟩
  · rcases lookUp_outside c .empty w with ⟨session, w₂, hl', -⟩
    cases hl'.symm.trans hl
  · have hduring : (c.call .empty call w₁.outside w₁.worker.endpoints).1.during = [] := by
      have hasked := asked_call c .empty call w₁.outside w₁.worker.endpoints
      generalize c.call .empty call w₁.outside w₁.worker.endpoints = asked at hasked
      cases hasked <;> rfl
    rw [hcall, World.scene_settle, ← hlook hl]
    change w₁.scene.pass (c.call .empty call w₁.outside w₁.worker.endpoints).1.during = w₁.scene
    rw [hduring]
    rfl

/-- A request finds no work, and all that has changed is that one more was sent. The
    premise is that it can be sent, which is the same for all requests of a client. -/
theorem claimAttempt_empty (sendable : ∀ endpoint, refusal (c.claimRequest endpoint none) = none)
    (n : UInt32) (h : Polls scope now count w) :
    ∃ w', World.claimAttempt (outside c .empty) none n w = (.error .noWork, w') ∧
      Polls scope now (count + 1) w' := by
  change ∃ w', w.call (outside c .empty) (.claim none) = (.error .noWork, w') ∧ _
  have hscene := @scene_call_empty c (.claim none) w
  rcases call_outside c .empty (.claim none) w with ⟨hresult, -, houtside⟩
  have hasked := asked_call c .empty (.claim none) w.outside w.worker.endpoints
  generalize c.call .empty (.claim none) w.outside w.worker.endpoints = asked at *
  cases hasked with
  | unwritten error task => simp only [Client.task, reduceCtorEq] at task
  | refused task failure written refused =>
      obtain rfl := Except.ok.inj written
      exact absurd ((sendable _).symm.trans refused) (Option.some_ne_none _).symm
  | sent task request written addressed =>
      refine ⟨_, Prod.ext hresult rfl, by rw [hscene, h.calm], by rw [hscene, h.now_eq], ?_⟩
      rw [houtside, List.length_cons, h.sent_eq]

/-- A wait for no time at all is over at once. -/
theorem await_empty (h : Polls scope now count w) (deadline : scope.deadline = none) :
    ∃ w', w.await (outside c .empty) scope now = (none, w') ∧ Polls scope now count w' := by
  have hcheck := h.check_eq_none deadline
  have hnow := h.now_eq
  rw [deadline] at hcheck
  refine ⟨{ w with outside := ⟨(), w.outside.sent⟩ }, ?_, h.calm, hnow, h.sent_eq⟩
  unfold World.await Scene.sleepUntil
  simp only [outside, Transport.empty, deadline, hcheck, Scene.limit, hnow, Nat.max_self]
  rw [← hnow]
  exact congrArg (·, w) hcheck

/-! ## One round -/

/-- What a loop of requests for work runs under that never ends but by its limit on
    retries, which it makes at once. -/
structure Patient (c : Client) (scope : Scope) (now : Moment) : Prop where
  retries_eq : scope.retries = .onlyNoWork
  deadline_eq : scope.deadline = none
  sendable : ∀ endpoint, refusal (c.claimRequest endpoint none) = none
  shown : now < Moment.horizon

variable {limit used : Nat} {number : UInt32}

/-- With retries left, a round is followed by another one. The generator has used
    one of them up, the count has gone on by one, and the clock shows what it did. -/
theorem step_empty (patient : Patient c scope now) (left : used < limit)
    (h : Polls scope now count w) :
    ∃ w', Retry.step (outside c .empty) scope (World.claimAttempt (outside c .empty) none)
        ⟨number, .maxRetries .zero limit used, now⟩ w =
      (.inr ⟨number + 1, .maxRetries .zero limit (used + 1), now⟩, w') ∧
      Polls scope now (count + 1) w' := by
  rcases claimAttempt_empty patient.sendable number h with ⟨w₁, htried, hpolls⟩
  have hasked : ∀ moment, (Generator.maxRetries .zero limit used).next moment =
      (some .zero, .maxRetries .zero limit (used + 1)) := by
    intro moment
    rw [Generator.next, if_neg (Nat.not_le.mpr left)]
    rfl
  have hpolls' : Polls scope now (count + 1) (w₁.record (.interval (some .zero))) :=
    ⟨hpolls.calm, hpolls.now_eq, hpolls.sent_eq⟩
  rcases @await_empty c scope now _ _ hpolls' patient.deadline_eq with ⟨w₂, hawait, hended⟩
  refine ⟨w₂, ?_, hended⟩
  rw [Retry.step, h.check_eq_none patient.deadline_eq]
  simp only [htried]
  rw [Retry.afterFailure_of_retried (hpolls.check_eq_none patient.deadline_eq)
    (by rw [patient.deadline_eq]; rfl) (by rw [patient.retries_eq]; rfl)
    (congrArg Prod.fst (hasked _)), Retry.pause_eq]
  -- The end of a wait for no time is now, which is a moment that the clock shows.
  have hwake : Moment.add? (w₁.record (.interval (some .zero))).scene.now .zero = some now := by
    rw [hpolls'.now_eq, Moment.add?]
    exact if_pos patient.shown
  simp only [hwake, hawait, hasked]

/-- Without, it is the last one, and what is reported is its number. No time has
    passed since the loop began, so none is reported. -/
theorem step_empty_last (patient : Patient c scope now) (h : Polls scope now count w) :
    ∃ w', Retry.step (outside c .empty) scope (World.claimAttempt (outside c .empty) none)
        ⟨number, .maxRetries .zero limit limit, now⟩ w =
      (Retry.fail (.exhausted scope.operation number .zero .noWork), w') ∧
      Polls scope now (count + 1) w' := by
  rcases claimAttempt_empty patient.sendable number h with ⟨w₁, htried, hpolls⟩
  refine ⟨w₁.record (.interval none), ?_, hpolls.calm, hpolls.now_eq, hpolls.sent_eq⟩
  rw [Retry.step, h.check_eq_none patient.deadline_eq]
  simp only [htried]
  rw [Retry.afterFailure_of_stop (hpolls.check_eq_none patient.deadline_eq)
    (by rw [patient.deadline_eq]; rfl) (by rw [patient.retries_eq]; rfl)
    (by rw [Generator.next, if_pos (Nat.le_refl limit)]), hpolls.now_eq, Nat.sub_self]
  rfl

/-! ## All of them -/

/-- A loop with so many retries left makes them all, and reports the number that the
    last of its attempts has. The sum goes round where 32 bits end, which is all
    that this is about. -/
theorem loop_empty (patient : Patient c scope now) (left : Nat) (hleft : used + left = limit)
    (h : Polls scope now count w) :
    ∃ w', Retry.loop (outside c .empty) scope (World.claimAttempt (outside c .empty) none)
        (left + 1) ⟨number, .maxRetries .zero limit used, now⟩ w =
      (.finished (.error (.exhausted scope.operation (number + UInt32.ofNat left) .zero .noWork)),
        w') ∧ Polls scope now (count + left + 1) w' := by
  -- By induction on the retries that are left: each takes the number to the next one.
  induction left generalizing used count number w with
  | zero =>
      obtain rfl : used = limit := hleft
      rcases @step_empty_last c scope now count w used number patient h with ⟨w', hstep, hpolls⟩
      refine ⟨w', ?_, hpolls⟩
      rw [Retry.loop, hstep]
      exact congrArg (fun n => (Outcome.finished (.error (.exhausted _ n _ _)), w'))
        (UInt32.add_zero number).symm
  | succ left ih =>
      rcases @step_empty c scope now count w limit used number patient (by omega) h with
        ⟨w₁, hstep, hpolls⟩
      rcases @ih (count + 1) w₁ (used + 1) (number + 1) (by omega) hpolls with ⟨w', hloop, hended⟩
      refine ⟨w', ?_, by rwa [Nat.add_right_comm count 1, Nat.add_assoc count] at hended⟩
      rw [Retry.loop, hstep, Retry.number_add_succ]
      exact hloop

/-- One that has not so many rounds uses them up. So a loop that is stopped before
    its count goes round has reported nothing until then. -/
theorem loop_empty_of_le (patient : Patient c scope now) (rounds : Nat)
    (hfew : used + rounds ≤ limit) (h : Polls scope now count w) :
    ∃ w', Retry.loop (outside c .empty) scope (World.claimAttempt (outside c .empty) none) rounds
        ⟨number, .maxRetries .zero limit used, now⟩ w = (.unfinished, w') ∧
      Polls scope now (count + rounds) w' := by
  -- By induction on the rounds, none of which is the last that the limit allows.
  induction rounds generalizing used count number w with
  | zero => exact ⟨w, rfl, h⟩
  | succ rounds ih =>
      rcases @step_empty c scope now count w limit used number patient (by omega) h with
        ⟨w₁, hstep, hpolls⟩
      rcases @ih (count + 1) w₁ (used + 1) (number + 1) (by omega) hpolls with ⟨w', hloop, hended⟩
      refine ⟨w', ?_, by rwa [Nat.add_right_comm] at hended⟩
      rw [Retry.loop, hstep]
      exact hloop

/-! ## A worker -/

/-- A worker that is allowed so many retries, before its first call. It has one
    endpoint and no time limit, and nobody but itself holds its signal. -/
def idle (limit : Nat) : World (State Unit) where
  worker := ⟨.retrying [.ofHost 'a'] limit, .single, 0, none, 0, 0, 0⟩
  scene := ⟨0, Signals.empty.fresh.2⟩
  outside := ⟨(), []⟩
  trace := []

/-- The loop of its claims, which has no deadline and observes nobody. -/
def idleLoop (limit rounds : Nat) : Outcome Reference × World (State Unit) :=
  let joined := (idle limit).withSignal.join 1
  Retry.run (outside .plain .empty) rounds (joined.2.claimScope joined.1 none)
    (World.claimAttempt (outside .plain .empty) none) joined.2

/-- A claim of this worker is such a loop, and nothing around it shows in what is
    returned or sent. -/
theorem perform_idle (limit rounds : Nat) :
    ((idle limit).perform (outside .plain .empty) rounds .consume).1 =
        .consumed (idleLoop limit rounds).1 ∧
      ((idle limit).perform (outside .plain .empty) rounds .consume).2.outside =
        (idleLoop limit rounds).2.outside :=
  ⟨rfl, World.outside_conclude _ _⟩

/-- That loop is one that only its limit ends. -/
theorem patient_idle (limit : Nat) :
    let joined := (idle limit).withSignal.join 1
    Patient .plain (joined.2.claimScope joined.1 none) 0 :=
  ⟨rfl, rfl, fun _ => refusal_plain _ _, by decide⟩

/-- And it begins as a claim that has sent nothing yet. -/
theorem polls_idle (limit : Nat) :
    let joined := (idle limit).withSignal.join 1
    Polls (joined.2.claimScope joined.1 none) 0 0 (joined.2.record (.start .consume)) :=
  ⟨rfl, rfl, rfl⟩

/-- With a round for each attempt, such a worker reports the number of the last one. -/
theorem exhausted_empty (limit : Nat) :
    ((idle limit).perform (outside .plain .empty) (limit + 1) .consume).1 =
        .consumed (.finished (.error
          (.exhausted .consume (UInt32.ofNat (limit + 1)) .zero .noWork))) ∧
      ((idle limit).perform (outside .plain .empty) (limit + 1) .consume).2.outside.sent.length =
        limit + 1 := by
  rcases perform_idle limit (limit + 1) with ⟨hresult, houtside⟩
  rcases loop_empty (patient_idle limit) limit (Nat.zero_add limit) (polls_idle limit) with
    ⟨w', hloop, hpolls⟩
  have hidle : idleLoop limit (limit + 1) = _ := hloop
  rw [hresult, houtside, hidle]
  refine ⟨?_, ?_⟩
  · rw [UInt32.ofNat_add, UInt32.add_comm]
    rfl
  · rw [hpolls.sent_eq, Nat.zero_add]

/-- With fewer, it has not ended, and it has sent a request in each. -/
theorem unfinished_empty {limit rounds : Nat} (few : rounds ≤ limit) :
    ((idle limit).perform (outside .plain .empty) rounds .consume).1 = .consumed .unfinished ∧
      ((idle limit).perform (outside .plain .empty) rounds .consume).2.outside.sent.length =
        rounds := by
  rcases perform_idle limit rounds with ⟨hresult, houtside⟩
  rcases loop_empty_of_le (patient_idle limit) rounds (Nat.zero_add rounds ▸ few)
    (polls_idle limit) with ⟨w', hloop, hpolls⟩
  have hidle : idleLoop limit rounds = _ := hloop
  rw [hresult, houtside, hidle]
  exact ⟨rfl, by rw [hpolls.sent_eq, Nat.zero_add]⟩

/-- The largest limit allows an attempt that has no number. A worker that goes on with
    zero sends as many requests as 32 bits have numbers, and reports that it made no
    attempt; one that stops with a fault there reports nothing at all. -/
theorem not_counted_empty : ∃ w : World (State Unit),
    World.prepare (.retrying [.ofHost 'a'] Retry.numbers) ⟨0, .empty⟩ ⟨(), []⟩ = .ok w ∧
    (w.perform (outside .plain .empty) UInt32.size .consume).1 =
      .consumed (.finished (.error (.exhausted .consume 0 .zero .noWork))) ∧
    (w.perform (outside .plain .empty) UInt32.size .consume).2.outside.sent.length = UInt32.size ∧
    (w.perform (outside .plain .empty) Retry.numbers .consume).1 = .consumed .unfinished ∧
    (w.perform (outside .plain .empty) Retry.numbers .consume).2.outside.sent.length =
      Retry.numbers := by
  have hnumbers : Retry.numbers + 1 = UInt32.size := by decide
  have hround : UInt32.ofNat UInt32.size = 0 := by decide
  -- With a round more than there are numbers the count goes round; with as many rounds it does
  -- not end.
  rcases exhausted_empty Retry.numbers with ⟨hreported, hsent⟩
  rcases @unfinished_empty Retry.numbers Retry.numbers (Nat.le_refl _) with ⟨hfault, hsent'⟩
  rw [hnumbers, hround] at hreported
  rw [hnumbers] at hsent
  exact ⟨idle Retry.numbers, rfl, hreported, hsent, hfault, hsent'⟩

end Http

end EventFlow
