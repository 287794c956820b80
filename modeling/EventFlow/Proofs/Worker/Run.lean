import EventFlow.Proofs.Worker.Calls

/-!
# Runs of a Worker

What a caller does with a worker, one thing after the other.

A run is a list of actions: operations of the worker, its shutdown, and
whatever the caller does to signals in between. Every action comes with the
number of rounds that its loop may make, and these differ from action to
action, so nothing is said about how long a single operation takes. A run
answers one result for each action, and ends in a world; each of its prefixes
is a run itself, so what is shown of the end of every run holds after every
action.

The loop is only ever told what an attempt does. `kept_run` and `claims_run`
lift the two facts that runs need from attempts to loops, and the lemmas on
the single operations are instances of them: fetching, acknowledging and
producing leave the counters alone and claim nothing.

## Main definitions

* `Outcome.value?`: What a successful operation returned.
* `Action`, `Result`: What a caller does, and what comes of it.
* `World.perform`, `World.performAll`: One action, and a list of them.
* `Result.reference?`, `returned`: The references that a run returned.

## Theorems

* `kept_run`: A loop leaves the counters alone if its attempts do.
* `claims_run`: A loop claims what its successful attempt claims.
* `kept_launch`, `claims_launch`: A worker begins without claims.
-/

namespace EventFlow

/-- What a successful operation returned. All other ends are alike here: they return
    nothing that could be counted. -/
def Outcome.value? {α : Type} : Outcome α → Option α
  | .finished (.ok a) => some a
  | _ => none

theorem Outcome.value?_eq_none {α : Type} {outcome : Outcome α}
    (h : ∀ a, outcome ≠ .finished (.ok a)) : outcome.value? = none := by
  rcases outcome with (e | a) | _ | _
  · rfl
  · exact absurd rfl (h a)
  · rfl
  · rfl

/-- What a caller does with a worker. Signals are the caller's own, so anything may
    be done to them between two operations; what may not is left to those who make
    the signals. -/
inductive Action where
  | consume
  | consumeWith (signal : SignalId)
  | get (reference : Reference)
  | ack (reference : Reference) (options : List AckOption)
  | produce (message : Message)
  | shutDown
  /-- Anything that is done to signals. -/
  | arrange (change : Signals → Signals)

/-- What comes of an action. -/
inductive Result where
  | consumed (outcome : Outcome Reference)
  | fetched (outcome : Outcome Message)
  | acknowledged (outcome : Outcome Unit)
  | produced (outcome : Outcome EventId)
  /-- The action answers nothing. -/
  | done

/-- The reference that was returned to the caller. -/
def Result.reference? : Result → Option Reference
  | .consumed outcome => outcome.value?
  | _ => none

/-- The references that were returned to the caller, in order. -/
def returned (results : List Result) : List Reference :=
  results.filterMap Result.reference?

theorem returned_cons (result : Result) (results : List Result) :
    returned (result :: results) = result.reference?.toList ++ returned results := by
  rw [returned, returned]
  cases h : result.reference? with
  | none => rw [List.filterMap_cons_none h, Option.toList_none, List.nil_append]
  | some reference =>
      rw [List.filterMap_cons_some h, Option.toList_some, List.singleton_append]

namespace World

variable {σ α : Type} {b : Outside σ}

/-- One action, with so many rounds for its loop. The result is kept by its kind,
    since operations of different kinds return different things. -/
def perform (b : Outside σ) (rounds : Nat) (action : Action) (w : World σ) : Result × World σ :=
  match action with
  | .consume => let (outcome, w) := w.consume b rounds; (.consumed outcome, w)
  | .consumeWith signal =>
    let (outcome, w) := w.consumeWith b rounds signal; (.consumed outcome, w)
  | .get reference => let (outcome, w) := w.get b rounds reference; (.fetched outcome, w)
  | .ack reference options =>
    let (outcome, w) := w.ack b rounds reference options; (.acknowledged outcome, w)
  | .produce message => let (outcome, w) := w.produce b rounds message; (.produced outcome, w)
  | .shutDown => (.done, w.shutDown)
  | .arrange change =>
    (.done, { w with scene := { w.scene with signals := change w.scene.signals } })

/-- Actions one after the other, each with a number of rounds of its own. The
    results are in the order of the actions. -/
def performAll (b : Outside σ) : List (Nat × Action) → World σ → List Result × World σ
  | [], w => ([], w)
  | (rounds, action) :: actions, w =>
    let (result, w) := w.perform b rounds action
    let (results, w) := performAll b actions w
    (result :: results, w)

/-! ## Loops -/

variable {scope : Scope} {attempt : UInt32 → World σ → Except SessionError α × World σ}

/-- A loop leaves the counters alone if its attempts do. What it does between
    attempts leaves the whole worker alone. -/
theorem kept_run (h : ∀ n w, Worker.Kept w.worker (attempt n w).2.worker) (rounds : Nat)
    (w : World σ) : Worker.Kept w.worker (Retry.run b rounds scope attempt w).2.worker := by
  have hattempt : ∀ n w₁ r w₂, Worker.Kept w.worker w₁.worker → attempt n w₁ = (r, w₂) →
      Worker.Kept w.worker w₂.worker := by
    intro n w₁ r w₂ hkept htry
    have := h n w₁
    rw [htry] at this
    exact hkept.trans this
  -- The same fact is kept by failures and established by a success, so it does not matter how
  -- the run ends.
  have hrun := @Retry.run_rule σ α b scope attempt (fun w' => Worker.Kept w.worker w'.worker)
    (fun _ w' => Worker.Kept w.worker w'.worker) rounds w
    (fun w₁ w₂ hkept hidle => by rw [hidle.worker_eq]; exact hkept)
    (fun n w₁ e w₂ => hattempt n w₁ _ w₂) (fun n w₁ a w₂ => hattempt n w₁ _ w₂)
    (.refl w.worker)
  rcases hrun with ⟨_, -, hkept⟩ | ⟨-, hkept⟩
  · exact hkept
  · exact hkept

/-- A loop whose failing attempts claim nothing claims what its successful attempt
    does. There is one of these at most, and it ends the loop, so nothing is claimed
    twice and nothing is dropped. -/
theorem claims_run (brings : α → Option Reference)
    (failed : ∀ n w e w', attempt n w = (.error e, w') → claims w'.trace = claims w.trace)
    (succeeded : ∀ n w a w', attempt n w = (.ok a, w') →
      claims w'.trace = claims w.trace ++ (brings a).toList) (rounds : Nat) (w : World σ) :
    claims (Retry.run b rounds scope attempt w).2.trace = claims w.trace ++
      ((Retry.run b rounds scope attempt w).1.value?.bind brings).toList := by
  have hrun := @Retry.run_rule σ α b scope attempt
    (fun w' => claims w'.trace = claims w.trace)
    (fun a w' => claims w'.trace = claims w.trace ++ (brings a).toList) rounds w
    (fun w₁ w₂ hclaims hidle => (claims_of_idled hidle).trans hclaims)
    (fun n w₁ e w₂ hclaims htry => (failed n w₁ e w₂ htry).trans hclaims)
    (fun n w₁ a w₂ hclaims htry => (succeeded n w₁ a w₂ htry).trans (by rw [hclaims]))
    ((claims_cons _ _).trans (List.append_nil _))
  -- A run that succeeded brings what its last attempt brought, and any other brings nothing.
  rcases hrun with ⟨a, hout, hclaims⟩ | ⟨hout, hclaims⟩
  · rw [hclaims, hout]
    rfl
  · rw [hclaims, Outcome.value?_eq_none hout]
    exact (List.append_nil _).symm

/-- A loop whose attempts claim nothing claims nothing. -/
theorem claims_run_of_none
    (h : ∀ n w, claims (attempt n w).2.trace = claims w.trace) (rounds : Nat) (w : World σ) :
    claims (Retry.run b rounds scope attempt w).2.trace = claims w.trace := by
  have hattempt : ∀ n w r w', attempt n w = (r, w') → claims w'.trace = claims w.trace := by
    intro n w r w' htry
    have := h n w
    rwa [htry] at this
  -- Its successful attempt brings nothing either.
  rw [claims_run (fun _ => none) (fun n w e w' => hattempt n w _ w')
    (fun n w a w' htry => (hattempt n w _ w' htry).trans (List.append_nil _).symm)]
  cases (Retry.run b rounds scope attempt w).1.value? <;> exact List.append_nil _

/-! ## Operations that claim nothing -/

theorem kept_get (b : Outside σ) (rounds : Nat) (reference : Reference) (w : World σ) :
    Worker.Kept w.worker (w.get b rounds reference).2.worker :=
  kept_run (fun _ w => kept_call b _ w) rounds w

theorem claims_get (b : Outside σ) (rounds : Nat) (reference : Reference) (w : World σ) :
    claims (w.get b rounds reference).2.trace = claims w.trace :=
  claims_run_of_none (fun _ w => (claims_call b _ w).trans (List.append_nil _)) rounds w

theorem kept_ack (b : Outside σ) (rounds : Nat) (reference : Reference)
    (options : List AckOption) (w : World σ) :
    Worker.Kept w.worker (w.ack b rounds reference options).2.worker :=
  kept_run (fun _ w => kept_call b _ w) rounds w

theorem claims_ack (b : Outside σ) (rounds : Nat) (reference : Reference)
    (options : List AckOption) (w : World σ) :
    claims (w.ack b rounds reference options).2.trace = claims w.trace :=
  claims_run_of_none (fun _ w => (claims_call b _ w).trans (List.append_nil _)) rounds w

/-- An attempt to produce fails at its first call, or makes a second one, with the
    identifier that the first one brought. Whether the second call succeeds makes no
    difference to what was called. -/
theorem produceAttempt_eq (b : Outside σ) (message : Message) (n : UInt32) (w : World σ) :
    (∃ e w₁, w.call b .reserve = (.error e, w₁) ∧
      produceAttempt b message n w = (.error e, w₁)) ∨
    ∃ eventId w₁, w.call b .reserve = (.ok eventId, w₁) ∧
      produceAttempt b message n w = ((w₁.call b (.submit eventId message)).1.map fun _ => eventId,
        (w₁.call b (.submit eventId message)).2) := by
  rw [produceAttempt]
  rcases hr : w.call b .reserve with ⟨e | eventId, w₁⟩
  · exact .inl ⟨e, w₁, rfl, rfl⟩
  · refine .inr ⟨eventId, w₁, rfl, ?_⟩
    rcases hs : w₁.call b (.submit eventId message) with ⟨e | _, w₂⟩ <;> simp only [hs] <;> rfl

theorem kept_produceAttempt (b : Outside σ) (message : Message) (n : UInt32) (w : World σ) :
    Worker.Kept w.worker (produceAttempt b message n w).2.worker := by
  have hreserve := kept_call b .reserve w
  rcases produceAttempt_eq b message n w with ⟨e, w₁, hr, hp⟩ | ⟨eventId, w₁, hr, hp⟩
  · rw [hr] at hreserve
    rw [hp]
    exact hreserve
  · rw [hr] at hreserve
    rw [hp]
    exact hreserve.trans (kept_call b (.submit eventId message) w₁)

theorem claims_produceAttempt (b : Outside σ) (message : Message) (n : UInt32) (w : World σ) :
    claims (produceAttempt b message n w).2.trace = claims w.trace := by
  have hreserve := claims_call b .reserve w
  rcases produceAttempt_eq b message n w with ⟨e, w₁, hr, hp⟩ | ⟨eventId, w₁, hr, hp⟩
  · rw [hr] at hreserve
    rw [hp]
    exact hreserve.trans (List.append_nil _)
  · -- Neither a reservation nor a submission brings a reference.
    rw [hr] at hreserve
    rw [hp, claims_call b (.submit eventId message) w₁]
    exact (List.append_nil _).trans (hreserve.trans (List.append_nil _))

theorem later_produceAttempt (b : Outside σ) (message : Message) (n : UInt32) (w : World σ) :
    w.scene.Later (produceAttempt b message n w).2.scene := by
  have hreserve := later_call b .reserve w
  rcases produceAttempt_eq b message n w with ⟨e, w₁, hr, hp⟩ | ⟨eventId, w₁, hr, hp⟩
  · rw [hr] at hreserve
    rw [hp]
    exact hreserve
  · rw [hr] at hreserve
    rw [hp]
    exact hreserve.trans (later_call b (.submit eventId message) w₁)

theorem kept_produce (b : Outside σ) (rounds : Nat) (message : Message) (w : World σ) :
    Worker.Kept w.worker (w.produce b rounds message).2.worker :=
  kept_run (kept_produceAttempt b message) rounds w

theorem claims_produce (b : Outside σ) (rounds : Nat) (message : Message) (w : World σ) :
    claims (w.produce b rounds message).2.trace = claims w.trace :=
  claims_run_of_none (claims_produceAttempt b message) rounds w

/-! ## Beginning -/

theorem kept_launch (b : Outside σ) (w : World σ) :
    Worker.Kept w.worker (w.launch b).2.worker := by
  have hconnect := kept_connect b w
  rw [launch]
  -- Whether the first connect succeeds or not, it is all that there is.
  rcases hc : w.connect b with ⟨_ | _, w₁⟩ <;> rw [hc] at hconnect <;> exact hconnect

theorem claims_launch (b : Outside σ) (w : World σ) :
    claims (w.launch b).2.trace = claims w.trace := by
  have hconnect := claims_connect b w
  rw [launch]
  rcases hc : w.connect b with ⟨_ | _, w₁⟩ <;> rw [hc] at hconnect <;> exact hconnect

end World

end EventFlow
