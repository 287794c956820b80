import EventFlow.Proofs.Worker.Sessions

/-!
# What Operations Say

The calls of an operation and their answers, in the order in which they were
made.

A trace has the calls among other things: connects, intervals, beginnings.
`conversation` leaves those out. A call adds itself and its answer to it, with
one exception: where the worker has no session and cannot connect, nothing is
called, and what comes back is the error of the connect (`Called`). The exception
is confined to the first call of an attempt. A call that was answered well leaves
its session in the slot, so the call after it finds one.

An operation is as many attempts as it takes, and what it says is what they say,
one after the other. `run_says` turns a description of a single attempt into one
of the whole operation. What an attempt says is left to the caller, as a type of
attempts, what each of them says, and what each of them comes to; all but the
last have failed, and the operation succeeds just if one of them did.

## Main definitions

* `Answered`: A call and its answer.
* `conversation`: The calls in a trace, in order.
* `World.Called`: What a call adds to a conversation.

## Theorems

* `called_call`: A call adds nothing else.
* `conversation_of_resting`: Who asks nobody for anything says nothing.
* `run_says`: An operation says what its attempts say.
-/

namespace EventFlow

/-- A call on a session, and its answer. Which session it was, and when, is left
    out: what an operation says does not depend on either. -/
structure Answered where
  call : Call
  result : Except SessionError call.Answer

/-- The call that an event is. -/
def Event.answered? : Event → Option Answered
  | .call _ _ c result => some ⟨c, result⟩
  | _ => none

/-- The calls in a trace, in the order in which they were made. -/
def conversation (trace : List Event) : List Answered :=
  (trace.filterMap Event.answered?).reverse

theorem conversation_cons (event : Event) (trace : List Event) :
    conversation (event :: trace) = conversation trace ++ event.answered?.toList :=
  reverse_filterMap_cons ..

theorem conversation_cons_of_isAside {event : Event} (h : event.isAside = true)
    (trace : List Event) : conversation (event :: trace) = conversation trace := by
  rw [conversation_cons]
  cases event with
  | start _ | interval _ => exact List.append_nil _
  | connect _ _ | call _ _ _ _ => exact absurd h Bool.false_ne_true

/-- What comes before the end of several pieces is in a piece that is not the
    last one, or before the end of a piece. -/
theorem of_mem_dropLast_flatMap {α β : Type} {list : List α} {piece : α → List β} {y : β}
    (h : y ∈ (list.flatMap piece).dropLast) :
    (∃ x ∈ list.dropLast, y ∈ piece x) ∨ ∃ x ∈ list, y ∈ (piece x).dropLast := by
  rcases List.eq_nil_or_concat' list with rfl | ⟨init, last, rfl⟩
  · exact absurd h List.not_mem_nil
  · -- Only the last piece is cut short, unless it is empty.
    rw [List.dropLast_concat]
    rw [List.flatMap_append, List.flatMap_singleton, List.dropLast_append] at h
    split at h
    · rcases List.mem_flatMap.mp (List.mem_of_mem_dropLast h) with ⟨x, hx, hy⟩
      exact .inl ⟨x, hx, hy⟩
    · rcases List.mem_append.mp h with hy | hy
      · rcases List.mem_flatMap.mp hy with ⟨x, hx, hy⟩
        exact .inl ⟨x, hx, hy⟩
      · exact .inr ⟨last, List.mem_append_right _ (List.mem_singleton_self last), hy⟩

namespace World

variable {σ α β γ : Type} {b : Outside σ} {w w' : World σ}

/-! ## Calls -/

/-- Who asks nobody for anything says nothing, however long it takes. -/
theorem conversation_of_resting (h : Resting b w w') :
    conversation w'.trace = conversation w.trace := by
  rcases h.trace with heq | ⟨event, haside, heq⟩
  · rw [heq]
  · rw [heq, conversation_cons_of_isAside haside]

/-- What a call comes to that is made in the world `w`. The slot matters in both
    cases: an empty one is the only reason for silence, and a good answer leaves it
    filled for the call after this one. -/
inductive Called (call : Call) (w : World σ) :
    Except SessionError call.Answer × World σ → Prop where
  /-- There was no session to make it on. -/
  | unconnected (e : SessionError) (w' : World σ) (empty : w.worker.slot = none)
      (silent : conversation w'.trace = conversation w.trace) : Called call w (.error e, w')
  /-- It was made and answered. -/
  | answered (result : Except SessionError call.Answer) (w' : World σ)
      (said : conversation w'.trace = conversation w.trace ++ [⟨call, result⟩])
      (kept : ∀ a, result = .ok a → w'.worker.slot ≠ none) : Called call w (result, w')

/-- Looking for a session says nothing. A connect is no call, and there is no
    session yet that it could be made on. -/
theorem LookedUp.conversation_eq {result : Except SessionError SessionId × World σ}
    (h : LookedUp w result) : conversation result.2.trace = conversation w.trace := by
  cases h with
  | kept => rfl
  | failed began e w' empty slot connects trace =>
      rw [trace]
      exact (conversation_cons _ _).trans (List.append_nil _)
  | opened began w' empty slot connects trace =>
      rw [trace]
      exact (conversation_cons _ _).trans (List.append_nil _)

/-- A call adds itself and its answer to the conversation, unless there is no
    session to make it on. -/
theorem called_call (b : Outside σ) (call : Call) (w : World σ) :
    Called call w (w.call b call) := by
  rcases call_eq b call w with ⟨e, w₁, hlook, hcall⟩ | ⟨session, w₁, hlook, hcall⟩
  · have hlooked := lookedUp_of_eq hlook
    rw [hcall]
    -- A lookup only fails where the slot was empty.
    refine .unconnected e w₁ ?_ hlooked.conversation_eq
    cases hlooked with
    | failed began e w' empty => exact empty
  · have hlooked := lookedUp_of_eq hlook
    have hslot : (w₁.ask b session call).2.worker.slot = some session := hlooked.slot_eq
    rw [hcall]
    refine .answered _ _ ?_ fun a hok => ?_
    · rw [trace_settle, ← hlooked.conversation_eq]
      exact conversation_cons _ _
    · -- A good answer is no reason to drop the session.
      rw [hok]
      change (w₁.ask b session call).2.worker.slot ≠ none
      rw [hslot]
      exact Option.some_ne_none session

/-- The same for an attempt that is a single call. -/
theorem said_call (b : Outside σ) (call : Call) (w : World σ) :
    (∃ result, conversation (w.call b call).2.trace = conversation w.trace ++ [⟨call, result⟩] ∧
        (w.call b call).1 = result) ∨
      conversation (w.call b call).2.trace = conversation w.trace ∧
        ∃ e, (w.call b call).1 = .error e := by
  have hcall := called_call b call w
  generalize w.call b call = called at hcall
  cases hcall with
  | unconnected e w' empty silent => exact .inr ⟨silent, e, rfl⟩
  | answered result w' said => exact .inl ⟨result, said, rfl⟩

/-! ## Operations -/

/-- What an operation adds to a record, which only its attempts do: what they
    add, one after the other. All of them have failed but the last one, and the
    operation succeeds just if that one did. -/
theorem run_says {scope : Scope} {attempt : UInt32 → World σ → Except SessionError α × World σ}
    {record : World σ → List β} {said : γ → List β} {result : γ → Except SessionError α}
    (rest : ∀ w w', Resting b w w' → record w' = record w)
    (attempts : ∀ n w, (∃ x, record (attempt n w).2 = record w ++ said x ∧
        (attempt n w).1 = result x) ∨
      record (attempt n w).2 = record w ∧ ∃ e, (attempt n w).1 = .error e)
    (rounds : Nat) (w : World σ) :
    ∃ tries : List γ,
      record (Retry.run b rounds scope attempt w).2 = record w ++ tries.flatMap said ∧
      (∀ x ∈ tries.dropLast, ∃ e, result x = .error e) ∧
      ∀ a, (Retry.run b rounds scope attempt w).1 = .finished (.ok a) ↔
        ∃ x ∈ tries, result x = .ok a := by
  have hextend : ∀ {w₁ w₂ : World σ} {tries : List γ} {x : γ},
      record w₁ = record w ++ tries.flatMap said → record w₂ = record w₁ ++ said x →
      record w₂ = record w ++ (tries ++ [x]).flatMap said := by
    intro w₁ w₂ tries x hrecord hadded
    rw [hadded, hrecord, List.flatMap_append, List.flatMap_singleton, List.append_assoc]
  have hnever : ∀ {x : γ} {a : α}, (∃ e, result x = .error e) → result x ≠ .ok a := by
    rintro x a ⟨e, he⟩ hok
    exact absurd (he.symm.trans hok) (by simp only [reduceCtorEq, not_false_eq_true])
  -- Until one attempt succeeds, all of them have failed.
  have hrun := @Retry.run_rule σ α b scope attempt
    (fun w' => ∃ tries : List γ, record w' = record w ++ tries.flatMap said ∧
      ∀ x ∈ tries, ∃ e, result x = .error e)
    (fun a w' => ∃ (tries : List γ) (x : γ),
      record w' = record w ++ (tries ++ [x]).flatMap said ∧
      (∀ x ∈ tries, ∃ e, result x = .error e) ∧ result x = .ok a) rounds w ?idle ?failed ?succeeded
    ⟨[], by rw [rest _ _ (resting_record b w rfl), List.flatMap_nil, List.append_nil],
      fun x hx => absurd hx List.not_mem_nil⟩
  case idle =>
    rintro w₁ w₂ ⟨tries, hrecord, hfailed⟩ hidle
    exact ⟨tries, (rest w₁ w₂ (resting_of_idled hidle)).trans hrecord, hfailed⟩
  case failed =>
    rintro n w₁ e w₂ ⟨tries, hrecord, hfailed⟩ htry
    rcases attempts n w₁ with ⟨x, hadded, hresult⟩ | ⟨hsame, -⟩
    · rw [htry] at hadded hresult
      refine ⟨tries ++ [x], hextend hrecord hadded, fun y hy => ?_⟩
      rcases List.mem_append.mp hy with hy | hy
      · exact hfailed y hy
      · obtain rfl := List.mem_singleton.mp hy
        exact ⟨e, hresult.symm⟩
    · rw [htry] at hsame
      exact ⟨tries, hsame.trans hrecord, hfailed⟩
  case succeeded =>
    rintro n w₁ a w₂ ⟨tries, hrecord, hfailed⟩ htry
    rcases attempts n w₁ with ⟨x, hadded, hresult⟩ | ⟨-, e, he⟩
    · rw [htry] at hadded hresult
      exact ⟨tries, x, hextend hrecord hadded, hfailed, hresult.symm⟩
    · rw [htry] at he
      exact absurd he (by simp only [reduceCtorEq, not_false_eq_true])
  rcases hrun with ⟨a, hout, tries, x, hrecord, hfailed, hok⟩ | ⟨hout, tries, hrecord, hfailed⟩
  · refine ⟨tries ++ [x], hrecord, by rwa [List.dropLast_concat], fun a' => ?_⟩
    rw [hout]
    constructor
    · intro heq
      exact ⟨x, List.mem_append_right _ (List.mem_singleton_self x), by cases heq; exact hok⟩
    · rintro ⟨y, hy, hy'⟩
      rcases List.mem_append.mp hy with hy | hy
      · exact absurd hy' (hnever (hfailed y hy))
      · obtain rfl := List.mem_singleton.mp hy
        rw [Except.ok.inj (hok.symm.trans hy')]
  · refine ⟨tries, hrecord, fun x hx => hfailed x (List.mem_of_mem_dropLast hx), fun a => ?_⟩
    exact ⟨fun heq => absurd heq (hout a), fun ⟨x, hx, hx'⟩ => absurd hx' (hnever (hfailed x hx))⟩

end World

end EventFlow
