import EventFlow.Proofs.Worker.Run

/-!
# No Claim Is Lost or Invented

What a session hands out, the caller gets: the references that claims were
answered with are, in order, the references that the calls returned.

A claim has many ways to end. It may find no place left, be cancelled before
or after an attempt, run out of time, meet an error, be given up by its
backoff, or be cut short while it waits, and a claim that succeeds may do so
after any of this has come about. Two counters and the returned value have to
stay in step on each of these ways. `Worker.Took` says what a single call does
to the counters in terms of how many references it returned, one or none: the
intake grows by that number, and so do the places taken, if places are
limited. The place that a call takes first is thus given back exactly when
nothing was returned.

`Balanced` is what this leaves true between calls, and `balanced_performAll`
carries it through runs that mix all operations. It needs nothing from the
session, so it covers answers that come late, sessions that are lost, connects
that fail, and signals that are cancelled in the middle of a call.

## Main definitions

* `Worker.Took`: What a call that returned so many references did.
* `Balanced`: The counters and the trace agree with what was returned.
* `Config.oneClaim`, `Outside.tardy`: A worker with a single place, and a
  backend that answers after the worker was shut down.

## Theorems

* `took_consumeWith`: A call counts what it returns, and keeps a place for it.
* `claims_consumeWith`: A call returns what it claimed.
* `balanced_perform`: An action keeps the balance.
* `balanced_performAll`: A run keeps the balance.
* `claims_eq_returned`: A run returns what was claimed, and the counters say
  how much that is.
-/

namespace EventFlow

namespace Worker

/-- What a call did to a worker that returned so many references. The bound is kept
    if it held before; it is the reservation that sees to it, and so it is said here
    and not derived from the counters. -/
structure Took (count : Nat) (worker worker' : Worker) : Prop where
  config_eq : worker'.config = worker.config
  intake_eq : worker'.intake = worker.intake + count
  reserved_eq : ∀ max, worker.config.maxIntake = some max →
    worker'.reserved = worker.reserved + count
  reserved_le : ∀ max, worker.config.maxIntake = some max →
    worker.reserved ≤ max.toNat → worker'.reserved ≤ max.toNat

theorem Kept.took {worker worker' : Worker} (h : Kept worker worker') : Took 0 worker worker' where
  config_eq := h.config_eq
  intake_eq := h.intake_eq
  reserved_eq := fun _ _ => h.reserved_eq
  reserved_le := fun _ _ hle => h.reserved_eq.symm ▸ hle

/-- Taking a place for a claim, keeping it and counting the claim. Between the two
    the worker may change in ways that are no concern of the counters. -/
theorem took_commit {worker taken worker' : Worker} (hr : worker.reserve? = some taken)
    (hk : Kept taken worker') : Took 1 worker worker'.commit := by
  have hreserve := hr
  rw [reserve?] at hr
  -- Without a limit no place is taken, and there is nothing to say about places.
  cases hm : worker.config.maxIntake with
  | none =>
      rw [hm] at hr
      obtain rfl := Option.some.inj hr
      refine ⟨hk.config_eq, congrArg (· + 1) hk.intake_eq, fun max hmax => ?_, fun max hmax => ?_⟩
      · simp only [hm, reduceCtorEq] at hmax
      · simp only [hm, reduceCtorEq] at hmax
  | some max =>
      simp only [hm] at hr
      by_cases hlt : worker.reserved < max.toNat
      · -- The place that was taken stays taken, and there was one.
        rw [if_pos hlt] at hr
        obtain rfl := Option.some.inj hr
        exact ⟨hk.config_eq, congrArg (· + 1) hk.intake_eq, fun _ _ => hk.reserved_eq,
          fun _ hmax _ => hk.reserved_eq ▸ reserved_le_of_reserve? hreserve hmax⟩
      · rw [if_neg hlt] at hr
        simp only [reduceCtorEq] at hr

/-- Taking a place for a claim and giving it back. What was added is taken away
    again, so the subtraction never meets a zero. -/
theorem took_release {worker taken worker' : Worker} (hr : worker.reserve? = some taken)
    (hk : Kept taken worker') : Took 0 worker worker'.release := by
  rw [reserve?] at hr
  cases hm : worker.config.maxIntake with
  | none =>
      rw [hm] at hr
      obtain rfl := Option.some.inj hr
      have hrelease : worker'.release = worker' := by rw [release, hk.config_eq, hm]
      rw [hrelease]
      exact hk.took
  | some max =>
      simp only [hm] at hr
      by_cases hlt : worker.reserved < max.toNat
      · rw [if_pos hlt] at hr
        obtain rfl := Option.some.inj hr
        have hconfig : worker'.config = worker.config := hk.config_eq
        have hrelease : worker'.release = { worker' with reserved := worker'.reserved - 1 } := by
          rw [release, hconfig, hm]
        -- One was added when the place was taken.
        have hreserved : worker'.reserved - 1 = worker.reserved := by
          rw [hk.reserved_eq]
          exact Nat.add_sub_cancel worker.reserved 1
        rw [hrelease]
        refine ⟨hconfig, hk.intake_eq, fun _ _ => hreserved, fun max' _ hle => ?_⟩
        change worker'.reserved - 1 ≤ max'.toNat
        omega
      · rw [if_neg hlt] at hr
        simp only [reduceCtorEq] at hr

end Worker

namespace World

variable {σ : Type} {b : Outside σ}

/-! ## A single call -/

theorem kept_claimAttempt (b : Outside σ) (deadline : Option Moment) (n : UInt32) (w : World σ) :
    Worker.Kept w.worker (claimAttempt b deadline n w).2.worker :=
  kept_call b _ w

theorem claims_claimAttempt (b : Outside σ) (deadline : Option Moment) (n : UInt32) (w : World σ) :
    claims (claimAttempt b deadline n w).2.trace = claims w.trace ++
      (Call.claimed? (.claim (budget w.scene.now deadline))
        (claimAttempt b deadline n w).1).toList :=
  claims_call b _ w

theorem kept_claim (b : Outside σ) (rounds : Nat) (signal : SignalId) (w : World σ) :
    Worker.Kept w.worker (w.claim b rounds signal).2.worker := by
  rw [claim]
  cases hd : (w.join signal).2.deadline? with
  | none =>
      simp only [hd]
      exact .refl w.worker
  | some deadline =>
      simp only [hd]
      exact kept_run (kept_claimAttempt b deadline) rounds (w.join signal).2

theorem claims_claim (b : Outside σ) (rounds : Nat) (signal : SignalId) (w : World σ) :
    claims (w.claim b rounds signal).2.trace =
      claims w.trace ++ (w.claim b rounds signal).1.value?.toList := by
  rw [claim]
  -- A claim whose deadline the clock cannot show makes no attempt.
  cases hd : (w.join signal).2.deadline? with
  | none =>
      simp only [hd]
      exact (List.append_nil _).symm
  | some deadline =>
      simp only [hd]
      have hattempt : ∀ (n : UInt32) (w₁ : World σ) (r : Except SessionError Reference)
          (w₂ : World σ), claimAttempt b deadline n w₁ = (r, w₂) →
          claims w₂.trace = claims w₁.trace ++
            (Call.claimed? (.claim (budget w₁.scene.now deadline)) r).toList := by
        intro n w₁ r w₂ htry
        have hcall := claims_claimAttempt b deadline n w₁
        rwa [htry] at hcall
      have hrun := @claims_run σ Reference b
        ((w.join signal).2.claimScope (w.join signal).1 deadline) (claimAttempt b deadline) some
        (fun n w₁ e w₂ htry => (hattempt n w₁ _ w₂ htry).trans (List.append_nil _))
        (fun n w₁ a w₂ htry => hattempt n w₁ _ w₂ htry) rounds (w.join signal).2
      rw [Option.bind_fun_some] at hrun
      exact hrun

@[simp] theorem trace_conclude (outcome : Outcome Reference) (w : World σ) :
    (conclude outcome w).trace = w.trace := by
  rcases outcome with (e | a) | _ | _ <;> rfl

/-- A call returns what it claimed. Taking a place and giving it back leave no
    trace, so all that counts is the loop in between. -/
theorem claims_consumeWith (b : Outside σ) (rounds : Nat) (signal : SignalId) (w : World σ) :
    claims (w.consumeWith b rounds signal).2.trace =
      claims w.trace ++ (w.consumeWith b rounds signal).1.value?.toList := by
  rw [consumeWith]
  cases hr : w.worker.reserve? with
  -- Without a place there is no claim, and an error is returned.
  | none => exact (List.append_nil _).symm
  | some taken =>
      have hclaim := claims_claim b rounds signal { w with worker := taken }
      simp only [trace_conclude]
      exact hclaim

/-- A call counts what it returns, and keeps a place for it. Of the ways for a call
    to end, a success alone keeps the place; the others give it back, be it an
    error, a fault or the end of the rounds. -/
theorem took_consumeWith (b : Outside σ) (rounds : Nat) (signal : SignalId) (w : World σ) :
    Worker.Took (w.consumeWith b rounds signal).1.value?.toList.length w.worker
      (w.consumeWith b rounds signal).2.worker := by
  rw [consumeWith]
  cases hr : w.worker.reserve? with
  | none => exact (Worker.Kept.refl w.worker).took
  | some taken =>
      have hkept := kept_claim b rounds signal { w with worker := taken }
      simp only
      -- How the claim came to its end no longer matters, only what it came to.
      generalize claim b rounds signal { w with worker := taken } = result at hkept
      rcases result with ⟨(e | a) | _ | _, w'⟩
      · exact Worker.took_release hr hkept
      · exact Worker.took_commit hr hkept
      · exact Worker.took_release hr hkept
      · exact Worker.took_release hr hkept

theorem claims_consume (b : Outside σ) (rounds : Nat) (w : World σ) :
    claims (w.consume b rounds).2.trace =
      claims w.trace ++ (w.consume b rounds).1.value?.toList :=
  claims_consumeWith b rounds _ _

theorem took_consume (b : Outside σ) (rounds : Nat) (w : World σ) :
    Worker.Took (w.consume b rounds).1.value?.toList.length w.worker
      (w.consume b rounds).2.worker :=
  took_consumeWith b rounds _ _

/-! ## Runs -/

/-- The counters and the trace agree with the references that were returned. This is
    what holds between any two actions, whatever the actions are. -/
structure Balanced (config : Config) (references : List Reference) (w : World σ) : Prop where
  config_eq : w.worker.config = config
  claims_eq : claims w.trace = references
  intake_eq : w.worker.intake = references.length
  reserved_eq : ∀ max, config.maxIntake = some max → w.worker.reserved = references.length
  reserved_le : ∀ max, config.maxIntake = some max → w.worker.reserved ≤ max.toNat

/-- Whatever returns what it claims and counts it keeps the balance. -/
theorem Balanced.took {config : Config} {references : List Reference} {w w' : World σ}
    (h : Balanced config references w) (reference : Option Reference)
    (hclaims : claims w'.trace = claims w.trace ++ reference.toList)
    (htook : Worker.Took reference.toList.length w.worker w'.worker) :
    Balanced config (references ++ reference.toList) w' where
  config_eq := htook.config_eq.trans h.config_eq
  claims_eq := by rw [hclaims, h.claims_eq]
  intake_eq := by rw [htook.intake_eq, h.intake_eq, List.length_append]
  reserved_eq := fun max hmax => by
    rw [htook.reserved_eq max (h.config_eq.symm ▸ hmax), h.reserved_eq max hmax, List.length_append]
  reserved_le := fun max hmax =>
    htook.reserved_le max (h.config_eq.symm ▸ hmax) (h.reserved_le max hmax)

/-- Whatever claims nothing and leaves the counters alone keeps the balance. -/
theorem Balanced.kept {config : Config} {references : List Reference} {w w' : World σ}
    (h : Balanced config references w) (hclaims : claims w'.trace = claims w.trace)
    (hkept : Worker.Kept w.worker w'.worker) :
    Balanced config (references ++ (none : Option Reference).toList) w' :=
  h.took none (hclaims.trans (List.append_nil _).symm) hkept.took

/-- An action keeps the balance, whatever it is. Only claims return references, and
    the other operations claim nothing. -/
theorem balanced_perform {config : Config} {references : List Reference} {w : World σ}
    (b : Outside σ) (rounds : Nat) (action : Action) (h : Balanced config references w) :
    Balanced config (references ++ (w.perform b rounds action).1.reference?.toList)
      (w.perform b rounds action).2 := by
  cases action with
  | consume => exact h.took _ (claims_consume b rounds w) (took_consume b rounds w)
  | consumeWith signal =>
      exact h.took _ (claims_consumeWith b rounds signal w) (took_consumeWith b rounds signal w)
  | get reference => exact h.kept (claims_get b rounds reference w) (kept_get b rounds reference w)
  | ack reference options =>
      exact h.kept (claims_ack b rounds reference options w) (kept_ack b rounds reference options w)
  | produce message =>
      exact h.kept (claims_produce b rounds message w) (kept_produce b rounds message w)
  | shutDown => exact h.kept rfl (.refl w.worker)
  | arrange change => exact h.kept rfl (.refl w.worker)

/-- A run keeps the balance, by induction on its actions. The references of the
    actions so far are carried along, and those of the next action come behind them. -/
theorem balanced_performAll {config : Config} (b : Outside σ) (actions : List (Nat × Action)) :
    ∀ (references : List Reference) (w : World σ), Balanced config references w →
      Balanced config (references ++ returned (w.performAll b actions).1)
        (w.performAll b actions).2 := by
  induction actions with
  | nil =>
      intro references w h
      rw [performAll]
      change Balanced config (references ++ []) w
      rwa [List.append_nil]
  | cons action actions ih =>
      intro references w h
      rcases action with ⟨rounds, action⟩
      have hstep := ih _ _ (balanced_perform b rounds action h)
      rw [performAll]
      change Balanced config (references ++ returned ((w.perform b rounds action).1 :: _)) _
      rw [returned_cons, ← List.append_assoc]
      exact hstep

/-- A worker that has just begun is balanced: the connect that it begins with brings
    nothing. -/
theorem balanced_launch {config : Config} {scene : Scene} {outside : σ} {w₀ : World σ}
    (b : Outside σ) (h : prepare config scene outside = .ok w₀) :
    Balanced config [] (w₀.launch b).2 := by
  have hnew : Balanced config [] w₀ := by
    rw [prepare] at h
    cases he : Endpoints.of config.endpoints with
    | error e =>
        rw [he] at h
        simp only [reduceCtorEq] at h
    | ok endpoints =>
        rw [he] at h
        obtain rfl := Except.ok.inj h
        exact ⟨rfl, rfl, rfl, fun _ _ => rfl, fun max _ => Nat.zero_le max.toNat⟩
  exact hnew.kept (claims_launch b w₀) (kept_launch b w₀)

/-- However a worker is used and whatever its sessions do, the references that
    claims were answered with are those that were returned, in order; the
    intake is their number; and where places are limited, as many are taken
    and no more than there are. -/
theorem claims_eq_returned {config : Config} {scene : Scene} {outside : σ} {w₀ w : World σ}
    (b : Outside σ) (hprepare : prepare config scene outside = .ok w₀)
    (hlaunch : w₀.launch b = (.ok (), w)) (actions : List (Nat × Action)) :
    claims (w.performAll b actions).2.trace = returned (w.performAll b actions).1 ∧
    (w.performAll b actions).2.worker.intake = (returned (w.performAll b actions).1).length ∧
    ∀ max, config.maxIntake = some max →
      (w.performAll b actions).2.worker.reserved = (w.performAll b actions).2.worker.intake ∧
      (w.performAll b actions).2.worker.reserved ≤ max.toNat := by
  have hstart : Balanced config [] w := by
    have := balanced_launch b hprepare
    rwa [hlaunch] at this
  have hend := balanced_performAll b actions [] w hstart
  rw [List.nil_append] at hend
  refine ⟨hend.claims_eq, hend.intake_eq, fun max hmax => ⟨?_, hend.reserved_le max hmax⟩⟩
  rw [hend.reserved_eq max hmax, hend.intake_eq]

end World

/-- A worker that may claim one unit of work. -/
def Config.oneClaim : Config where
  endpoints := [⟨['h'], some ⟨[], [], .name ['b'], none⟩, .segments [], none, none⟩]
  flowId := "f"
  workerId := "w"
  consumeTimeout := none
  backoff := .zero
  maxIntake := some 1
  httpTimeout := Config.defaultHttpTimeout
  userAgent := Config.defaultUserAgent

/-- A backend that answers every claim, but only after the signal of the worker
    was cancelled. -/
def Outside.tardy : Outside Unit where
  connect := fun _ e => (⟨.ok (), []⟩, e, ())
  answer := fun _ call _ e =>
    (match call with
      | .claim _ => ⟨.ok ⟨"a", "e", none⟩, [⟨5, [0]⟩]⟩
      | .fetch _ | .acknowledge _ _ | .reserve | .submit _ _ => ⟨.error .notFound, []⟩, e, ())
  wait := fun _ _ _ => ([], ())

namespace World

theorem claims_eq_returned_tardy : ∃ w₀ w,
    prepare .oneClaim ⟨0, .empty⟩ () = .ok w₀ ∧ w₀.launch .tardy = (.ok (), w) ∧
    claims (w.performAll .tardy [(1, .consume), (1, .consume)]).2.trace = [⟨"a", "e", none⟩] ∧
    (w.performAll .tardy [(1, .consume), (1, .consume)]).2.worker.intake = 1 ∧
    (w.performAll .tardy [(1, .consume), (1, .consume)]).2.worker.reserved = 1 := by
  refine ⟨_, _, rfl, rfl, ?_⟩
  rcases @claims_eq_returned Unit .oneClaim ⟨0, .empty⟩ () _ _ .tardy rfl rfl
    [(1, .consume), (1, .consume)] with ⟨hclaims, hintake, hreserved⟩
  refine ⟨hclaims.trans rfl, hintake.trans rfl, ?_⟩
  exact (hreserved 1 rfl).1.trans (hintake.trans rfl)

end World

end EventFlow
