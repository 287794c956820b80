import EventFlow.Proofs.Worker.Loop
import EventFlow.Worker.Operations

/-!
# What Calls Leave Alone

A call on the session of a worker may connect, may pick endpoints, may lose
the session, and lets others act meanwhile. The counters of the worker are
none of its business, and neither are its configuration and its shutdown
signal. `Worker.Kept` is that frame; every call stays inside it.

What was claimed can be read off the trace. `Event.claimed?` is the reference
that a claim was answered with, and `claims` collects them in the order in
which they were answered. A call adds to them exactly what it was answered,
and all else that an operation does adds nothing: a connect, a wait, the start
of a loop.

## Main definitions

* `Worker.Kept`: A worker with the counters of another.
* `Call.claimed?`: The reference that the answer to a call brings.
* `Event.claimed?`: The reference that an event brings.
* `claims`: The references that a trace brings, in order.

## Theorems

* `kept_call`: A call leaves the counters alone.
* `claims_call`: A call brings what it is answered.
* `later_call`: A call leads to a later scene.
* `claims_of_idled`: Idling brings nothing.
-/

namespace EventFlow

namespace Worker

/-- A worker that differs from another in its rotation and its session only.
    Counting is left to the operations, so no call can upset it. -/
structure Kept (worker worker' : Worker) : Prop where
  config_eq : worker'.config = worker.config
  shutdown_eq : worker'.shutdown = worker.shutdown
  intake_eq : worker'.intake = worker.intake
  reserved_eq : worker'.reserved = worker.reserved

theorem Kept.refl (worker : Worker) : Kept worker worker :=
  ⟨rfl, rfl, rfl, rfl⟩

theorem Kept.trans {worker worker' worker'' : Worker} (h : Kept worker worker')
    (h' : Kept worker' worker'') : Kept worker worker'' :=
  ⟨h'.config_eq.trans h.config_eq, h'.shutdown_eq.trans h.shutdown_eq,
    h'.intake_eq.trans h.intake_eq, h'.reserved_eq.trans h.reserved_eq⟩

/-- Dropping a session empties the slot or changes nothing. -/
theorem dropSession_eq (worker : Worker) (lost : SessionId) :
    worker.dropSession lost = worker ∨
      worker.dropSession lost = { worker with slot := none } := by
  rw [dropSession]
  by_cases h : worker.slot = some lost
  · exact .inr (if_pos h)
  · exact .inl (if_neg h)

theorem kept_dropSession (worker : Worker) (lost : SessionId) :
    Kept worker (worker.dropSession lost) := by
  rcases worker.dropSession_eq lost with h | h
  · rw [h]
    exact .refl worker
  · rw [h]
    exact ⟨rfl, rfl, rfl, rfl⟩

/-- Taking a place changes nothing but the number of places that are taken. -/
theorem eq_of_reserve? {worker taken : Worker} (h : worker.reserve? = some taken) :
    ∃ n, taken = { worker with reserved := n } := by
  rw [reserve?] at h
  split at h
  · exact ⟨worker.reserved, (Option.some.inj h).symm⟩
  · split at h
    · exact ⟨worker.reserved + 1, (Option.some.inj h).symm⟩
    · exact absurd h.symm (Option.some_ne_none _)

end Worker

/-- The reference that the answer to a call brings. Only a claim brings one, and
    only if it succeeds. -/
def Call.claimed? : (call : Call) → Except SessionError call.Answer → Option Reference
  | .claim _, .ok reference => some reference
  | _, _ => none

/-- The reference that an event brings. -/
def Event.claimed? : Event → Option Reference
  | .call _ _ c result => c.claimed? result
  | _ => none

/-- The references that a trace brings, in the order in which they were claimed. A
    trace has the latest event first, so they are turned round. -/
def claims (trace : List Event) : List Reference :=
  (trace.filterMap Event.claimed?).reverse

/-- What is read off a list that has the latest first, in order, grows at the
    end. -/
theorem reverse_filterMap_cons {α β : Type} (f : α → Option β) (a : α) (list : List α) :
    ((a :: list).filterMap f).reverse = (list.filterMap f).reverse ++ (f a).toList := by
  cases h : f a with
  | none => rw [List.filterMap_cons_none h, Option.toList_none, List.append_nil]
  | some b => rw [List.filterMap_cons_some h, List.reverse_cons, Option.toList_some]

@[simp] theorem claims_cons (event : Event) (trace : List Event) :
    claims (event :: trace) = claims trace ++ event.claimed?.toList :=
  reverse_filterMap_cons ..

@[simp] theorem Call.claimed?_error (call : Call) (e : SessionError) :
    call.claimed? (.error e) = none := by
  cases call <;> rfl

namespace World

variable {σ : Type} {b : Outside σ}

/-! ## Connecting -/

/-- The world when a connect has been answered and its session, if there is one, is
    not kept yet. Failed and successful connects have this much in common. -/
def meet (b : Outside σ) (w : World σ) : World σ :=
  let (reply, endpoints, outside) := b.connect w.outside w.worker.endpoints
  (World.record { w with outside, worker := { w.worker with endpoints } }
    (.connect w.scene.now reply.result)).pass reply.during

theorem connect_eq (b : Outside σ) (w : World σ) :
    w.connect b = match (b.connect w.outside w.worker.endpoints).1.result with
      | .error e => (.error e, w.meet b)
      | .ok () => (.ok (w.worker.connects + 1),
          { w.meet b with worker := (w.meet b).worker.connected }) :=
  rfl

theorem kept_connect (b : Outside σ) (w : World σ) :
    Worker.Kept w.worker (w.connect b).2.worker := by
  rw [connect_eq]
  cases (b.connect w.outside w.worker.endpoints).1.result <;> exact ⟨rfl, rfl, rfl, rfl⟩

theorem claims_connect (b : Outside σ) (w : World σ) :
    claims (w.connect b).2.trace = claims w.trace := by
  have hmeet : claims (w.meet b).trace = claims w.trace :=
    (claims_cons _ _).trans (List.append_nil _)
  rw [connect_eq]
  cases (b.connect w.outside w.worker.endpoints).1.result <;> exact hmeet

theorem kept_lookUp (b : Outside σ) (w : World σ) :
    Worker.Kept w.worker (w.lookUp b).2.worker := by
  rw [lookUp]
  cases w.worker.slot with
  | some session => exact .refl _
  | none => exact kept_connect b w

theorem claims_lookUp (b : Outside σ) (w : World σ) :
    claims (w.lookUp b).2.trace = claims w.trace := by
  rw [lookUp]
  cases w.worker.slot with
  | some session => rfl
  | none => exact claims_connect b w

/-! ## Calls -/

theorem kept_ask (b : Outside σ) (session : SessionId) (call : Call) (w : World σ) :
    Worker.Kept w.worker (w.ask b session call).2.worker :=
  ⟨rfl, rfl, rfl, rfl⟩

theorem claims_ask (b : Outside σ) (session : SessionId) (call : Call) (w : World σ) :
    claims (w.ask b session call).2.trace =
      claims w.trace ++ (call.claimed? (w.ask b session call).1).toList :=
  claims_cons _ _

/-- Settling a call changes the worker's session, if anything. -/
theorem settle_eq {α : Type} (session : SessionId) (result : Except SessionError α)
    (w : World σ) : w.settle session result = w ∨
      w.settle session result = { w with worker := w.worker.dropSession session } := by
  cases result with
  | ok a => exact .inl rfl
  | error e =>
      rw [settle]
      by_cases h : e.isConnectionLost = true
      · exact .inr (if_pos h)
      · exact .inl (if_neg h)

theorem kept_settle {α : Type} (session : SessionId) (result : Except SessionError α)
    (w : World σ) : Worker.Kept w.worker (w.settle session result).worker := by
  rcases w.settle_eq session result with h | h
  · rw [h]
    exact .refl w.worker
  · rw [h]
    exact w.worker.kept_dropSession session

theorem trace_settle {α : Type} (session : SessionId) (result : Except SessionError α)
    (w : World σ) : (w.settle session result).trace = w.trace := by
  rcases w.settle_eq session result with h | h <;> rw [h]

theorem outside_settle {α : Type} (session : SessionId) (result : Except SessionError α)
    (w : World σ) : (w.settle session result).outside = w.outside := by
  rcases w.settle_eq session result with h | h <;> rw [h]

theorem endpoints_settle {α : Type} (session : SessionId) (result : Except SessionError α)
    (w : World σ) : (w.settle session result).worker.endpoints = w.worker.endpoints := by
  rcases w.settle_eq session result with h | h
  · rw [h]
  · rcases w.worker.dropSession_eq session with hdrop | hdrop <;> rw [h, hdrop]

/-- A call either gets no session, or is a call on the session that was looked up,
    which is then given up if it is lost. All that follows about calls is a walk
    through these two lines. -/
theorem call_eq (b : Outside σ) (call : Call) (w : World σ) :
    (∃ e w₁, w.lookUp b = (.error e, w₁) ∧ w.call b call = (.error e, w₁)) ∨
    ∃ session w₁, w.lookUp b = (.ok session, w₁) ∧
      w.call b call = ((w₁.ask b session call).1,
        (w₁.ask b session call).2.settle session (w₁.ask b session call).1) := by
  rw [World.call]
  rcases hl : w.lookUp b with ⟨_ | session, w₁⟩
  · exact .inl ⟨_, w₁, rfl, rfl⟩
  · exact .inr ⟨session, w₁, rfl, rfl⟩

/-- A call leaves the counters alone, whether it finds a session, has to connect for
    one, or loses it. -/
theorem kept_call (b : Outside σ) (call : Call) (w : World σ) :
    Worker.Kept w.worker (w.call b call).2.worker := by
  have hl := kept_lookUp b w
  -- Whether there is a session to call on or not, the session is all that changes.
  rcases call_eq b call w with ⟨e, w₁, hlook, hcall⟩ | ⟨session, w₁, hlook, hcall⟩
  · rw [hlook] at hl
    rw [hcall]
    exact hl
  · rw [hlook] at hl
    rw [hcall]
    exact (hl.trans (kept_ask b session call w₁)).trans (kept_settle session _ _)

/-- A call brings what it is answered. Connecting comes before and giving the
    session up after it, and neither is a claim. -/
theorem claims_call (b : Outside σ) (call : Call) (w : World σ) :
    claims (w.call b call).2.trace =
      claims w.trace ++ (call.claimed? (w.call b call).1).toList := by
  have hl := claims_lookUp b w
  rcases call_eq b call w with ⟨e, w₁, hlook, hcall⟩ | ⟨session, w₁, hlook, hcall⟩
  · -- No call was made, so nothing was answered.
    rw [hlook] at hl
    rw [hcall, Call.claimed?_error, Option.toList_none, List.append_nil]
    exact hl
  · rw [hlook] at hl
    rw [hcall, trace_settle, claims_ask]
    exact congrArg (· ++ _) hl

/-! ## Time -/

theorem later_connect (b : Outside σ) (w : World σ) :
    w.scene.Later (w.connect b).2.scene := by
  have hmeet : w.scene.Later (w.meet b).scene := Scene.later_pass w.scene _
  rw [connect_eq]
  cases (b.connect w.outside w.worker.endpoints).1.result <;> exact hmeet

theorem later_lookUp (b : Outside σ) (w : World σ) :
    w.scene.Later (w.lookUp b).2.scene := by
  rw [lookUp]
  cases w.worker.slot with
  | some session => exact .refl w.scene
  | none => exact later_connect b w

theorem later_ask (b : Outside σ) (session : SessionId) (call : Call) (w : World σ) :
    w.scene.Later (w.ask b session call).2.scene :=
  Scene.later_pass w.scene _

theorem scene_settle {α : Type} (session : SessionId) (result : Except SessionError α)
    (w : World σ) : (w.settle session result).scene = w.scene := by
  rcases w.settle_eq session result with h | h <;> rw [h]

/-- A call lets time pass and others act, and loses nothing that lasts: the clock
    does not go back, and who was cancelled stays so. -/
theorem later_call (b : Outside σ) (call : Call) (w : World σ) :
    w.scene.Later (w.call b call).2.scene := by
  have hl := later_lookUp b w
  rcases call_eq b call w with ⟨e, w₁, hlook, hcall⟩ | ⟨session, w₁, hlook, hcall⟩
  · rw [hlook] at hl
    rw [hcall]
    exact hl
  · rw [hlook] at hl
    rw [hcall, scene_settle]
    exact hl.trans (later_ask b session call w₁)

/-- Idling brings nothing. -/
theorem claims_of_idled {w w' : World σ} (h : Retry.Idled b w w') :
    claims w'.trace = claims w.trace := by
  -- All that idling may note is an interval.
  rcases h.trace_eq with heq | ⟨interval, heq⟩
  · rw [heq]
  · rw [heq, claims_cons]
    exact List.append_nil _

end World

end EventFlow
