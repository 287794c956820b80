import EventFlow.Proofs.Worker.Deadline

/-!
# The Budget of a Claim

What the calls to claim are allowed to take, and what is left of the time for
them.

An attempt to claim works out what is left of its time, then looks for a
session, and then makes the call. The budget is therefore what was left when
the attempt began, not when the call did. Where there is a session already,
nothing lies in between and the two are the same. Where there is none, a
connect does, and however long that takes, the call is still given all the time
that was left before it. It may even be made when the deadline has passed, since
nobody looks at the clock again after the connect.

`Budgeted` says what holds in spite of that. The budgets are what was left when
the calls were made if and only if no time was spent on finding a session. And if
every call keeps to its budget, a claim is late by no more than the time that
its last attempt spent so.

## Main definitions

* `Asking`, `askings`: A call to claim, and those in a trace, in order.
* `World.asking?`: The call to claim that an attempt makes.
* `Attempt.delay`: How long an attempt was looking for its session.
* `Asking.Exact`, `Asking.Kept`: A budget that is what was left, and one that
  was kept to.
* `Budgeted`: The budgets of a claim with a deadline.

## Theorems

* `askings_claimAttempt`: An attempt makes one call to claim at most.
* `Ran.askings_eq`: A loop makes the calls of its attempts.
* `exact_iff`: When a budget is what was left.
* `now_le_of_kept`: How late an attempt can be that keeps to its budget.
* `World.claim_budgets`: The budgets of a claim, with a deadline and without.
-/

namespace EventFlow

/-- A call to claim: when it was made, and what it was allowed to take. No budget
    means that it may take as long as it likes. -/
structure Asking where
  began : Moment
  budget : Option Span
  deriving DecidableEq

namespace Asking

/-- A call was made before the deadline, and allowed all the time that was left when
    it was made. Had it been allowed more, it could be late without going beyond its
    budget. -/
structure Exact (deadline : Moment) (c : Asking) : Prop where
  early : c.began < deadline
  budget_eq : c.budget = some (Span.ofNanos (deadline - c.began))

/-- A call that ended in this moment took no longer than it was allowed to. -/
def Kept (finish : Moment) (c : Asking) : Prop :=
  ∀ limit, c.budget = some limit → finish ≤ c.began + limit.nanos

end Asking

/-- The call to claim that an event is. -/
def Event.asking? : Event → Option Asking
  | .call began _ (.claim budget) _ => some ⟨began, budget⟩
  | _ => none

/-- The calls to claim in a trace, in the order in which they were made. -/
def askings (trace : List Event) : List Asking :=
  (trace.filterMap Event.asking?).reverse

@[simp] theorem askings_cons (event : Event) (trace : List Event) :
    askings (event :: trace) = askings trace ++ event.asking?.toList :=
  reverse_filterMap_cons ..

namespace World

variable {σ : Type} {b : Outside σ} {w : World σ} {deadline : Option Moment}

/-- The call that an attempt to claim makes, if it finds a session. -/
def asking? (b : Outside σ) (deadline : Option Moment) (w : World σ) : Option Asking :=
  match w.lookUp b with
  | (.error _, _) => none
  | (.ok _, found) => some ⟨found.scene.now, budget w.scene.now deadline⟩

/-- A call of a claim that may take as long as it likes has no budget. -/
theorem budget_of_asking? {c : Asking} (h : w.asking? b none = some c) : c.budget = none := by
  rw [asking?] at h
  rcases hlook : w.lookUp b with ⟨_ | session, found⟩
  · simp only [hlook, reduceCtorEq] at h
  · rw [hlook] at h
    exact Option.some.inj h ▸ rfl

/-- A connect is no call to claim. -/
theorem askings_connect (b : Outside σ) (w : World σ) :
    askings (w.connect b).2.trace = askings w.trace := by
  have hmeet : askings (w.meet b).trace = askings w.trace :=
    (askings_cons _ _).trans (List.append_nil _)
  rw [connect_eq]
  cases (b.connect w.outside w.worker.endpoints).1.result <;> exact hmeet

/-- Nor is looking for a session, which may be a connect. -/
theorem askings_lookUp (b : Outside σ) (w : World σ) :
    askings (w.lookUp b).2.trace = askings w.trace := by
  rw [lookUp]
  cases w.worker.slot with
  | some session => rfl
  | none => exact askings_connect b w

/-- An attempt to claim makes one call, unless it finds no session. The budget of
    the call is worked out before the session is looked for. -/
theorem askings_claimAttempt (b : Outside σ) (deadline : Option Moment) (n : UInt32) (w : World σ) :
    askings (claimAttempt b deadline n w).2.trace =
      askings w.trace ++ (w.asking? b deadline).toList := by
  have hlooked := askings_lookUp b w
  rw [claimAttempt, asking?]
  rcases call_eq b (.claim (budget w.scene.now deadline)) w with
    ⟨e, w₁, hlook, hcall⟩ | ⟨session, w₁, hlook, hcall⟩
  · rw [hlook] at hlooked
    rw [hcall, hlook]
    exact hlooked.trans (List.append_nil _).symm
  · rw [hlook] at hlooked
    rw [hcall, trace_settle, hlook]
    exact (askings_cons _ _).trans (congrArg (· ++ _) hlooked)

theorem later_claimAttempt (b : Outside σ) (deadline : Option Moment) (n : UInt32) (w : World σ) :
    w.scene.Later (claimAttempt b deadline n w).2.scene :=
  later_call b _ w

/-- The loop of a claim works its budgets out from its own deadline. -/
theorem attempt_of_claimLoop? {signal : SignalId} {l : Loop σ}
    (h : w.claimLoop? b signal = some l) :
    ∃ scope start, l = ⟨Reference, scope, claimAttempt b scope.deadline, start⟩ := by
  rw [claimLoop?] at h
  cases hr : w.worker.reserve? with
  | none => simp only [hr, reduceCtorEq] at h
  | some taken =>
      simp only [hr] at h
      rcases Option.map_eq_some_iff.mp h with ⟨deadline, -, hl⟩
      exact ⟨_, _, hl.symm⟩

/-- Whichever claim it is, its loop works the budgets out from its own deadline. -/
theorem attempt_of_loop? {action : Action} {l : Loop σ} (claim : action.isClaim = true)
    (h : w.loop? b action = some l) :
    ∃ scope start, l = ⟨Reference, scope, claimAttempt b scope.deadline, start⟩ := by
  cases action with
  | consume => exact attempt_of_claimLoop? h
  | consumeWith signal => exact attempt_of_claimLoop? h
  | get | ack | produce | shutDown | arrange => exact absurd claim Bool.false_ne_true

/-- A claim ends in some way. -/
theorem outcome?_of_isClaim {action : Action} (b : Outside σ) (rounds : Nat) (w : World σ)
    (claim : action.isClaim = true) :
    ∃ outcome, (w.perform b rounds action).1.outcome? = some outcome := by
  cases action with
  | consume | consumeWith => exact ⟨_, rfl⟩
  | get | ack | produce | shutDown | arrange => exact absurd claim Bool.false_ne_true

end World

/-- How long an attempt was looking for its session: no time if there was one, and
    otherwise as long as the connect took. -/
def Attempt.delay {σ : Type} (b : Outside σ) (x : Attempt σ) : Nat :=
  (x.before.lookUp b).2.scene.now - x.before.scene.now

section Attempts

variable {σ : Type} {b : Outside σ} {deadline : Moment} {x : Attempt σ} {c : Asking}

/-- The session is found, or not found, after the delay. -/
theorem now_add_delay (b : Outside σ) (x : Attempt σ) :
    x.before.scene.now + x.delay b = (x.before.lookUp b).2.scene.now :=
  Nat.add_sub_cancel' (World.later_lookUp b x.before).now_le

/-- The call comes after the session was found, and has what was left before. -/
theorem asking_eq (h : x.before.asking? b (some deadline) = some c) :
    c = ⟨x.before.scene.now + x.delay b,
      some (Span.ofNanos (deadline - x.before.scene.now))⟩ := by
  rw [now_add_delay]
  rw [World.asking?] at h
  rcases hlook : x.before.lookUp b with ⟨_ | session, found⟩
  · simp only [hlook, reduceCtorEq] at h
  · rw [hlook] at h
    exact (Option.some.inj h).symm

/-- A number of nanoseconds that a span has is one that spans can have. -/
theorem Span.nanos_ofNanos {n : Nat} {limit : Span} (h : n ≤ limit.nanos) :
    (Span.ofNanos n).nanos = n := by
  rw [Span.ofNanos_of_lt (Nat.lt_of_le_of_lt h limit.nanos_lt)]

theorem eq_zero_of_sub_eq {now wait finish : Nat} (early : now + wait < finish)
    (h : finish - now = finish - (now + wait)) : wait = 0 := by
  omega

/-- A budget is what was left when the call was made just if the session was
    found at once. -/
theorem exact_iff {limit : Span} (early : x.before.scene.now < deadline)
    (short : deadline - x.before.scene.now ≤ limit.nanos)
    (h : x.before.asking? b (some deadline) = some c) : c.Exact deadline ↔ x.delay b = 0 := by
  rw [asking_eq h]
  constructor
  · -- What was left before is what is left now only if no time has passed in between.
    rintro ⟨hearly, hbudget⟩
    dsimp only at hearly hbudget
    have hshorter := Nat.sub_le_sub_left (Nat.le_add_right x.before.scene.now (x.delay b)) deadline
    have hnanos := congrArg Span.nanos (Option.some.inj hbudget)
    rw [Span.nanos_ofNanos short, Span.nanos_ofNanos (Nat.le_trans hshorter short)] at hnanos
    exact eq_zero_of_sub_eq hearly hnanos
  · intro hdelay
    rw [hdelay]
    exact ⟨early, rfl⟩

/-- An attempt that keeps to its budget is late by no more than the time in
    which it was looking for its session. -/
theorem now_le_of_kept {n : UInt32} {limit : Span} (early : x.before.scene.now < deadline)
    (short : deadline - x.before.scene.now ≤ limit.nanos)
    (tried : (World.claimAttempt b (some deadline) n x.before).2 = x.after)
    (kept : ∀ c, x.before.asking? b (some deadline) = some c → c.Kept x.after.scene.now) :
    x.after.scene.now ≤ deadline + x.delay b := by
  have hdelay := now_add_delay b x
  rcases hc : x.before.asking? b (some deadline) with _ | c
  · -- Without a session the attempt ends with the failed connect.
    rw [World.asking?] at hc
    rw [World.claimAttempt] at tried
    rcases World.call_eq b (.claim (World.budget x.before.scene.now (some deadline))) x.before with
      ⟨e, found, hlook, hcall⟩ | ⟨session, found, hlook, hcall⟩
    · rw [hcall] at tried
      rw [hlook] at hdelay
      rw [← tried, ← hdelay]
      exact Nat.add_le_add_right (Nat.le_of_lt early) _
    · simp only [hlook, reduceCtorEq] at hc
  · have heq := asking_eq hc
    have hle := kept c hc (Span.ofNanos (deadline - x.before.scene.now)) (by rw [heq])
    rw [Span.nanos_ofNanos short, heq, Nat.add_right_comm,
      Nat.add_sub_cancel' (Nat.le_of_lt early)] at hle
    exact hle

end Attempts

/-- The calls to claim that these attempts made, and the time at which a claim with
    this deadline ended. Its parts say in turn what the budgets are, when that is
    what they should be, and what follows for the end of the claim in either case. -/
structure Budgeted {σ : Type} (b : Outside σ) (deadline : Moment) (tries : List (Attempt σ))
    (calls : List Asking) (finish : Moment) : Prop where
  /-- Each attempt that found a session made a call, after that, and gave it what
      was left of the time before that. -/
  calls_eq : calls = tries.filterMap fun x => x.before.asking? b (some deadline)
  /-- What was left when the calls were made is what they were given if and only if
      each of their sessions was found at once. -/
  exact_iff : (∀ c ∈ calls, c.Exact deadline) ↔
    ∀ x ∈ tries, (x.before.asking? b (some deadline)).isSome = true → x.delay b = 0
  /-- If the calls keep to their budgets, a claim is late by no more than the time
      in which its last attempt was looking for a session. -/
  late : (∀ x ∈ tries, ∀ c, x.before.asking? b (some deadline) = some c →
      c.Kept x.after.scene.now) →
    finish ≤ deadline ∨ ∃ last, tries.getLast? = some last ∧ finish ≤ deadline + last.delay b

/-- Where nothing is attempted, nothing is called. -/
theorem budgeted_nil {σ : Type} (b : Outside σ) {deadline finish : Moment} (h : finish ≤ deadline) :
    Budgeted b deadline [] [] finish where
  calls_eq := rfl
  exact_iff := ⟨fun _ _ hx => absurd hx List.not_mem_nil, fun _ _ hc => absurd hc List.not_mem_nil⟩
  late := fun _ => .inl h

namespace Retry

variable {σ : Type} {b : Outside σ} {scope : Scope} {deadline : Option Moment} {rounds : Nat}
  {round : Round} {w : World σ} {tries : List (Attempt σ)} {result : Outcome Reference × World σ}

/-- What follows a failed attempt asks for nothing. -/
theorem askings_of_idled {w' : World σ} (h : Idled b w w') :
    askings w'.trace = askings w.trace := by
  rcases h.trace_eq with heq | ⟨interval, heq⟩
  · rw [heq]
  · rw [heq, askings_cons]
    exact List.append_nil _

/-- A loop makes the calls to claim that its attempts make, in order. The calls are
    read off the worlds in which the attempts began, so nothing else can have added
    one. -/
theorem Ran.askings_eq
    (h : Ran b scope (World.claimAttempt b deadline) rounds round w tries result) :
    askings result.2.trace =
      askings w.trace ++ tries.filterMap fun x => x.before.asking? b deadline := by
  -- An attempt adds its call to what came before, and the rest is added after it.
  have htried : ∀ {n : UInt32} {w : World σ} {r : Except SessionError Reference} {w' : World σ}
      (rest : List (Attempt σ)), World.claimAttempt b deadline n w = (r, w') →
      askings w'.trace ++ rest.filterMap (fun x => x.before.asking? b deadline) =
        askings w.trace ++ (⟨n, w, failureOf r, w'⟩ :: rest).filterMap
          fun x => x.before.asking? b deadline := by
    intro n w r w' rest htry
    have hasked := World.askings_claimAttempt b deadline n w
    rw [htry] at hasked
    rw [hasked, List.append_assoc]
    refine congrArg (askings w.trace ++ ·) ?_
    rw [List.filterMap_cons]
    cases w.asking? b deadline <;> rfl
  induction h with
  | unfinished | interrupted => exact (List.append_nil _).symm
  | succeeded a w' calm tried => exact (List.append_nil _).symm.trans (htried [] tried)
  | ended e w' outcome w'' calm tried after =>
      have hidle := askings_of_idled (idled_of_aftermath after).1
      exact hidle.trans ((List.append_nil _).symm.trans (htried [] tried))
  | again e w' next w'' rest result calm tried after ran ih =>
      have hidle := askings_of_idled (idled_of_aftermath after).1
      exact ih.trans ((congrArg (· ++ _) hidle).trans (htried rest tried))

/-- No attempt of a claim begins at the deadline or after it, or has more time
    left than the claim had. -/
theorem Ran.left {deadline : Moment} {left : Nat}
    (h : Ran b scope (World.claimAttempt b (some deadline)) rounds round w tries result)
    (hdeadline : scope.deadline = some deadline) (start : w.scene.now < deadline)
    (short : deadline - w.scene.now ≤ left) :
    ∀ x ∈ tries, x.before.scene.now < deadline ∧ deadline - x.before.scene.now ≤ left := by
  intro x hx
  have hlater := ((h.later (World.later_claimAttempt b _)).2 x hx).1.now_le
  exact ⟨(h.timely hdeadline start).early x hx,
    Nat.le_trans (Nat.sub_le_sub_left hlater _) short⟩

/-- The budgets of a loop with a deadline. All three parts are about single
    attempts, but for the last one, where the loop can only be late by its last
    attempt. -/
theorem Ran.budgeted {deadline : Moment} {limit : Span}
    (h : Ran b scope (World.claimAttempt b (some deadline)) rounds round w tries result)
    (hdeadline : scope.deadline = some deadline) (start : w.scene.now < deadline)
    (short : deadline - w.scene.now ≤ limit.nanos) :
    Budgeted b deadline tries (tries.filterMap fun x => x.before.asking? b (some deadline))
      result.2.scene.now := by
  have hleft := h.left hdeadline start short
  refine ⟨rfl, ⟨fun hexact x hx hsome => ?_, fun hdelay c hc => ?_⟩, fun hkept => ?_⟩
  · rcases Option.isSome_iff_exists.mp hsome with ⟨c, hc⟩
    exact (exact_iff (hleft x hx).1 (hleft x hx).2 hc).mp
      (hexact c (List.mem_filterMap.mpr ⟨x, hx, hc⟩))
  · rcases List.mem_filterMap.mp hc with ⟨x, hx, hasked⟩
    exact (exact_iff (hleft x hx).1 (hleft x hx).2 hasked).mpr
      (hdelay x hx (Option.isSome_iff_exists.mpr ⟨c, hasked⟩))
  · -- Only the last attempt may end after the deadline.
    refine (h.timely hdeadline start).bounded.imp_right fun ⟨last, hlast, hle⟩ => ?_
    have hmem := List.mem_of_getLast? hlast
    have hlast' := now_le_of_kept (hleft last hmem).1 (hleft last hmem).2 (h.made last hmem).2.2
      (hkept last hmem)
    exact ⟨last, hlast, Nat.le_trans hle hlast'⟩

end Retry

namespace World

variable {σ : Type}

/-- A claim gives its calls no budget if its time is not limited, and otherwise
    what was left when the attempts began that made them. -/
theorem claim_budgets (b : Outside σ) (rounds : Nat) (action : Action) (w : World σ)
    (claim : action.isClaim = true) : ∃ calls,
    askings (w.perform b rounds action).2.trace = askings w.trace ++ calls ∧
    (w.worker.config.consumeTimeout = none → ∀ c ∈ calls, c.budget = none) ∧
    ∀ limit, w.worker.config.consumeTimeout = some limit → 0 < limit.nanos →
      Budgeted b (w.scene.now + limit.nanos) (w.attempts b rounds action) calls
        (w.perform b rounds action).2.scene.now := by
  rcases outcome?_of_isClaim b rounds w claim with ⟨outcome, hout⟩
  -- Without a loop the claim has made no call, and has ended when it began.
  cases performed_perform hout with
  | looped l found shown =>
      have hbegun := begun_of_loop? found
      rcases attempt_of_loop? claim found with ⟨scope, start, rfl⟩
      have hran := Retry.ran_run b rounds scope (claimAttempt b scope.deadline) start
      have hdeadline : w.deadline? = some scope.deadline := by
        have heq := hbegun.deadline_eq
        rwa [Action.deadline?, if_pos claim] at heq
      refine ⟨(Retry.attempts b rounds scope (claimAttempt b scope.deadline) start).filterMap
        fun x => x.before.asking? b scope.deadline, ?_, fun unlimited c hc => ?_,
        fun limit limited positive => ?_⟩
      · have hstart : askings (start.record (.start scope.operation)).trace = askings w.trace :=
          ((askings_cons _ _).trans (List.append_nil _)).trans (congrArg askings hbegun.trace_eq)
        rw [shown.trace_eq, ← hstart]
        exact hran.askings_eq
      · rcases List.mem_filterMap.mp hc with ⟨x, -, hasked⟩
        have hnone : scope.deadline = none := by
          rw [deadline?, unlimited] at hdeadline
          exact (Option.some.inj hdeadline).symm
        rw [hnone] at hasked
        exact budget_of_asking? hasked
      · have hsome := deadline_of_deadline? limited hdeadline
        have hnow : start.scene.now = w.scene.now := hbegun.now_eq
        have hleft : w.scene.now + limit.nanos - start.scene.now = limit.nanos := by
          rw [hnow, Nat.add_sub_cancel_left]
        rw [hsome] at hran
        rw [attempts_eq found, shown.now_eq, Loop.attempts, Loop.run]
        dsimp only
        rw [hsome]
        exact hran.budgeted hsome
          (Nat.lt_of_le_of_lt (Nat.le_of_eq hnow) (Nat.lt_add_of_pos_right positive))
          (Nat.le_of_eq hleft)
  | full _ found taken outcome_eq trace_eq now_eq =>
      refine ⟨[], by rw [trace_eq, List.append_nil], fun _ c hc => absurd hc List.not_mem_nil,
        fun limit _ _ => ?_⟩
      rw [attempts_eq_nil found, now_eq]
      exact budgeted_nil b (Nat.le_add_right _ _)
  | timeless _ found late outcome_eq trace_eq now_eq =>
      refine ⟨[], by rw [trace_eq, List.append_nil], fun _ c hc => absurd hc List.not_mem_nil,
        fun limit _ _ => ?_⟩
      rw [attempts_eq_nil found, now_eq]
      exact budgeted_nil b (Nat.le_add_right _ _)

end World

/-- A backend that loses the session with its first answer, takes its time to give
    out another, and then takes a hundred nanoseconds to find no work. That is as
    long as a claim has that may use a hundred. -/
def Outside.forgetful : Outside Nat where
  connect := fun n e => (⟨.ok (), if n = 0 then [] else [⟨150, []⟩]⟩, e, n + 1)
  answer := fun _ call n e =>
    (match call with
      | .claim _ => if n = 1 then ⟨.error (.disconnected "gone"), []⟩
          else ⟨.error .noWork, [⟨100, []⟩]⟩
      | .fetch _ | .acknowledge _ _ | .reserve | .submit _ _ => ⟨.error .notFound, []⟩, e, n + 1)
  wait := fun _ _ n => ([], n)

namespace World

/-- A claim that has to connect first. Its call keeps to its budget, and is late
    by no more than the time that the connect took. -/
theorem claim_budgets_forgetful : ∃ w₀ w : World Nat, prepare .hasty ⟨0, .empty⟩ 0 = .ok w₀ ∧
    w = ((w₀.launch .forgetful).2.perform .forgetful 1 .consume).2 ∧ w.worker.slot = none ∧
    ∃ calls, askings (w.perform .forgetful 2 .consume).2.trace = askings w.trace ++ calls ∧
      Budgeted .forgetful 100 (w.attempts .forgetful 2 .consume) calls 250 ∧
      (w.attempts .forgetful 2 .consume).map (Attempt.delay .forgetful) = [150] := by
  refine ⟨_, _, rfl, rfl, rfl, ?_⟩
  rcases @claim_budgets Nat .forgetful 2 .consume ⟨⟨_, _, _, _, _, _, _⟩, ⟨0, _⟩, _, _⟩ rfl with
    ⟨calls, hcalls, -, h⟩
  exact ⟨calls, hcalls, h (.ofNanos 100) rfl (by decide), rfl⟩

/-- The call of that claim is made when the deadline has passed, and is allowed
    all of the time that it was to leave over. So the claim ends late, though the
    session kept to what it was told. -/
theorem not_exact_forgetful : ∃ w₀ w : World Nat, prepare .hasty ⟨0, .empty⟩ 0 = .ok w₀ ∧
    (w₀.launch .forgetful).1 = .ok () ∧
    w = ((w₀.launch .forgetful).2.perform .forgetful 1 .consume).2 ∧
    w.scene.now = 0 ∧ w.worker.config.consumeTimeout = some (.ofNanos 100) ∧
    askings (w.perform .forgetful 2 .consume).2.trace =
      askings w.trace ++ [⟨150, some (.ofNanos 100)⟩] ∧
    ¬ Asking.Exact 100 ⟨150, some (.ofNanos 100)⟩ ∧
    Asking.Kept 250 ⟨150, some (.ofNanos 100)⟩ ∧
    (w.perform .forgetful 2 .consume).2.scene.now = 250 := by
  refine ⟨_, _, rfl, rfl, rfl, rfl, rfl, rfl, fun h => ?_, fun limit hlimit => ?_, rfl⟩
  · exact absurd h.early (by decide)
  · obtain rfl := Option.some.inj hlimit
    decide

end World

end EventFlow
