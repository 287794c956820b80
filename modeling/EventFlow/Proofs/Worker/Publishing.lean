import EventFlow.Proofs.Worker.Conversation
import EventFlow.Proofs.Worker.Intake

/-!
# What a Publication Says

The calls that one publication makes, whatever answers them.

An attempt to publish breaks off where something fails. Without a session it says
nothing at all; otherwise it asks for an identifier and, if it gets one, submits
the message under it. There is no fourth way, since an identifier that was handed
out leaves the session where the submission looks for it. `PublicationTry` has the
attempts that say something, and an identifier occurs in it once: what was
reserved and what is submitted cannot differ.

Each identifier therefore belongs to the attempt that reserved it. That no other
attempt submits it is not for the worker to say: a session may hand the same one
out again, and then it is submitted again, for the sake of the new reservation
(`World.submitted_again_repeating`). So there are as many submissions as
reservations, in the same order, and an identifier that an attempt reserved and
another one submitted was handed out to both of them
(`PublicationTry.two_le_count`).

## Main definitions

* `PublicationTry`: An attempt that asks for an identifier.
* `reservations`, `submissions`: The identifiers of a conversation.
* `Outside.repeating`: A session that hands out one identifier again and again.

## Theorems

* `said_produceAttempt`: An attempt says nothing else.
* `submissions_flatMap`: Every submission belongs to a reservation.
* `World.produce_conversation`: The calls of a publication.
-/

namespace EventFlow

/-- An attempt to publish that asks for an identifier. One that finds no session to
    ask is left out, as it says nothing. -/
inductive PublicationTry where
  /-- There was none. -/
  | unreserved (e : SessionError)
  /-- There was one, and the message was submitted under it. -/
  | submitted (eventId : EventId) (result : Except SessionError Unit)

namespace PublicationTry

/-- The calls of an attempt to publish a message. -/
def said (message : Message) : PublicationTry → List Answered
  | unreserved e => [⟨.reserve, .error e⟩]
  | submitted eventId result => [⟨.reserve, .ok eventId⟩, ⟨.submit eventId message, result⟩]

/-- What an attempt comes to. -/
def result : PublicationTry → Except SessionError EventId
  | unreserved e => .error e
  | submitted eventId result => result.map fun _ => eventId

/-- The identifier that was reserved. -/
def reserved? : PublicationTry → Option EventId
  | unreserved _ => none
  | submitted eventId _ => some eventId

variable {message m : Message} {eventId : EventId} {x : PublicationTry}

/-- An attempt comes to an identifier just if it submitted the message under it, and
    well. -/
theorem result_eq_ok_iff : x.result = .ok eventId ↔ x = .submitted eventId (.ok ()) := by
  rcases x with e | ⟨id, e | _⟩ <;> simp [result, Except.map]

/-- The identifier that an attempt was answered with is the one that it reserved. -/
theorem mem_said_reserve : ⟨.reserve, .ok eventId⟩ ∈ x.said message ↔
    x.reserved? = some eventId := by
  cases x with
  | unreserved e => simp [said, reserved?]
  | submitted id result => simp [said, reserved?, eq_comm]

/-- A message is submitted under the identifier of its own attempt, so the
    submission alone tells which attempt it was. -/
theorem of_mem_said_submit {result : Except SessionError Unit}
    (h : ⟨.submit eventId m, result⟩ ∈ x.said message) :
    x = .submitted eventId result ∧ m = message := by
  cases x with
  | unreserved e => simp [said] at h
  | submitted id result' =>
      simp only [said, List.mem_cons, Answered.mk.injEq, reduceCtorEq, false_and,
        Call.submit.injEq, List.not_mem_nil, or_false, false_or] at h
      rcases h with ⟨⟨rfl, rfl⟩, heq⟩
      exact ⟨by rw [eq_of_heq heq], rfl⟩

end PublicationTry

namespace Answered

/-- The identifier that a call was answered with. -/
def reserved? : Answered → Option EventId
  | ⟨.reserve, .ok eventId⟩ => some eventId
  | _ => none

/-- What a call submitted, well or not, and under which identifier. -/
def submitted? : Answered → Option (EventId × Message)
  | ⟨.submit eventId message, _⟩ => some (eventId, message)
  | _ => none

end Answered

/-- The identifiers that were handed out, in order. One that was handed out twice is
    there twice. -/
def reservations (said : List Answered) : List EventId := said.filterMap Answered.reserved?

/-- The identifiers and messages that were submitted, in order. -/
def submissions (said : List Answered) : List (EventId × Message) :=
  said.filterMap Answered.submitted?

/-- An identifier that two attempts reserved was handed out twice. -/
theorem PublicationTry.two_le_count {tries : List PublicationTry} {i j : Nat} {x y : PublicationTry}
    {eventId : EventId} (hi : tries[i]? = some x) (hj : tries[j]? = some y) (hne : i ≠ j)
    (hx : x.reserved? = some eventId) (hy : y.reserved? = some eventId) :
    2 ≤ (tries.filterMap PublicationTry.reserved?).count eventId := by
  -- One of the two comes first, and the other one is not among those up to it.
  wlog hlt : i < j generalizing i j x y
  · exact this hj hi hne.symm hy hx (Nat.lt_of_le_of_ne (Nat.not_lt.mp hlt) hne.symm)
  have hbefore : eventId ∈ (tries.take j).filterMap PublicationTry.reserved? :=
    List.mem_filterMap.mpr
      ⟨x, List.mem_of_getElem? ((List.getElem?_take_of_lt hlt).trans hi), hx⟩
  have hafter : eventId ∈ (tries.drop j).filterMap PublicationTry.reserved? :=
    List.mem_filterMap.mpr
      ⟨y, List.mem_of_getElem? (i := 0) (by rw [List.getElem?_drop]; exact hj), hy⟩
  rw [← List.take_append_drop j tries, List.filterMap_append, List.count_append]
  exact Nat.add_le_add (List.count_pos_iff.mpr hbefore) (List.count_pos_iff.mpr hafter)

section Identifiers

variable (message : Message) (tries : List PublicationTry)

/-- The identifiers that several attempts were handed out are those that they
    reserved: no attempt is handed out two. -/
theorem reservations_flatMap : reservations (tries.flatMap (PublicationTry.said message)) =
    tries.filterMap PublicationTry.reserved? := by
  unfold reservations
  induction tries with
  | nil => rfl
  | cons x tries ih =>
      rw [List.flatMap_cons, List.filterMap_append, ih]
      cases x <;> rfl

/-- Every submission has the identifier of the reservation before it. -/
theorem submissions_flatMap : submissions (tries.flatMap (PublicationTry.said message)) =
    (reservations (tries.flatMap (PublicationTry.said message))).map (·, message) := by
  rw [reservations_flatMap]
  unfold submissions
  -- Attempt by attempt, there are both or neither.
  induction tries with
  | nil => rfl
  | cons x tries ih =>
      rw [List.flatMap_cons, List.filterMap_append, ih]
      cases x <;> rfl

end Identifiers

namespace World

variable {σ : Type}

/-- An attempt that gets an identifier submits the message under it. -/
theorem submitted_produceAttempt {b : Outside σ} {w w₁ : World σ} {eventId : EventId}
    (reserved : w.call b .reserve = (.ok eventId, w₁)) (message : Message) (n : UInt32) :
    ∃ result, conversation (produceAttempt b message n w).2.trace =
        conversation w.trace ++ (PublicationTry.submitted eventId result).said message ∧
      (produceAttempt b message n w).1 = (PublicationTry.submitted eventId result).result := by
  have hreserve := called_call b .reserve w
  rw [reserved] at hreserve
  rcases produceAttempt_eq b message n w with ⟨e, w₁', hr, hp⟩ | ⟨eventId', w₁', hr, hp⟩
  · cases reserved.symm.trans hr
  · cases reserved.symm.trans hr
    rw [hp]
    cases hreserve with
    | answered _ _ said kept =>
        -- The identifier came over a session, and the submission finds it.
        have hsubmit := called_call b (.submit eventId message) w₁
        generalize w₁.call b (.submit eventId message) = submitted at hsubmit
        cases hsubmit with
        | unconnected e w₂ empty => exact absurd empty (kept eventId rfl)
        | answered result w₂ said' =>
            refine ⟨result, ?_, rfl⟩
            rw [said', said, List.append_assoc]
            rfl

/-- An attempt to publish has no session, or is one of these. -/
theorem said_produceAttempt (b : Outside σ) (message : Message) (n : UInt32) (w : World σ) :
    (∃ x : PublicationTry, conversation (produceAttempt b message n w).2.trace =
        conversation w.trace ++ x.said message ∧ (produceAttempt b message n w).1 = x.result) ∨
      conversation (produceAttempt b message n w).2.trace = conversation w.trace ∧
        ∃ e, (produceAttempt b message n w).1 = .error e := by
  have hreserve := called_call b .reserve w
  -- The attempt ends with the error of its first call, or goes on to its second.
  rcases produceAttempt_eq b message n w with ⟨e, w₁, hr, hp⟩ | ⟨eventId, w₁, hr, -⟩
  · rw [hr] at hreserve
    rw [hp]
    cases hreserve with
    | unconnected _ _ empty silent => exact .inr ⟨silent, e, rfl⟩
    | answered _ _ said => exact .inl ⟨.unreserved e, said, rfl⟩
  · rcases submitted_produceAttempt hr message n with ⟨result, hsaid, hresult⟩
    exact .inl ⟨.submitted eventId result, hsaid, hresult⟩

/-- The calls of a publication. Each attempt asks for an identifier and, if it
    gets one, submits the message under it, once. A submission that succeeds is the
    last call, and the publication succeeds with its identifier, but not without
    it. There is one submission for each reservation, and what an attempt submits is
    what it reserved itself. So an identifier that was reserved in an attempt is
    submitted in another one only if it was handed out to both, and that is twice at
    least. -/
theorem produce_conversation (b : Outside σ) (rounds : Nat) (message : Message) (w : World σ) :
    ∃ (tries : List PublicationTry) (said : List Answered),
      said = tries.flatMap (PublicationTry.said message) ∧
      conversation (w.produce b rounds message).2.trace = conversation w.trace ++ said ∧
      (∀ eventId m, ⟨.submit eventId m, .ok ()⟩ ∉ said.dropLast) ∧
      (∀ eventId, (w.produce b rounds message).1 = .finished (.ok eventId) ↔
        ⟨.submit eventId message, .ok ()⟩ ∈ said) ∧
      submissions said = (reservations said).map (·, message) ∧
      (∀ x ∈ tries, ∀ eventId m result, ⟨.submit eventId m, result⟩ ∈ x.said message →
        ⟨.reserve, .ok eventId⟩ ∈ x.said message ∧ m = message) ∧
      ∀ (i j : Nat) (x y : PublicationTry), tries[i]? = some x → tries[j]? = some y → i ≠ j →
        ∀ eventId m result, ⟨.reserve, .ok eventId⟩ ∈ x.said message →
          ⟨.submit eventId m, result⟩ ∈ y.said message →
            ⟨.reserve, .ok eventId⟩ ∈ y.said message ∧ 2 ≤ (reservations said).count eventId := by
  rcases run_says (fun w w' hrest => conversation_of_resting hrest) (said_produceAttempt b message)
    rounds w with ⟨tries, hsaid, hfailed, hok⟩
  refine ⟨tries, _, rfl, hsaid, ?_, ?_, submissions_flatMap message tries, ?_, ?_⟩
  · intro eventId m hmem
    rcases of_mem_dropLast_flatMap hmem with ⟨x, hx, hmem⟩ | ⟨x, hx, hmem⟩
    · -- An attempt before the last one failed.
      obtain ⟨rfl, -⟩ := PublicationTry.of_mem_said_submit hmem
      rcases hfailed _ hx with ⟨e, he⟩
      exact absurd he (by simp [PublicationTry.result, Except.map])
    · -- In an attempt, nothing comes before the submission but the reservation.
      cases x <;> simp [PublicationTry.said] at hmem
  · intro eventId
    rw [World.produce, hok]
    constructor
    · rintro ⟨x, hx, hresult⟩
      obtain rfl := PublicationTry.result_eq_ok_iff.mp hresult
      exact List.mem_flatMap.mpr ⟨_, hx, by simp [PublicationTry.said]⟩
    · intro hmem
      rcases List.mem_flatMap.mp hmem with ⟨x, hx, hmem⟩
      exact ⟨x, hx, PublicationTry.result_eq_ok_iff.mpr (PublicationTry.of_mem_said_submit hmem).1⟩
  · intro x hx eventId m result hsubmit
    obtain ⟨rfl, rfl⟩ := PublicationTry.of_mem_said_submit hsubmit
    exact ⟨PublicationTry.mem_said_reserve.mpr rfl, rfl⟩
  · intro i j x y hi hj hne eventId m result hreserve hsubmit
    obtain ⟨rfl, -⟩ := PublicationTry.of_mem_said_submit hsubmit
    rw [PublicationTry.mem_said_reserve] at hreserve
    rw [reservations_flatMap]
    exact ⟨PublicationTry.mem_said_reserve.mpr rfl,
      PublicationTry.two_le_count hi hj hne hreserve rfl⟩

end World

/-- A session that has one identifier for everybody, and loses what is submitted
    first. It makes a worker try again with an identifier that it has used already. -/
def Outside.repeating : Outside Nat where
  connect := fun n e => (⟨.ok (), []⟩, e, n)
  answer := fun _ call n e =>
    match call with
    | .reserve => (⟨.ok "e", []⟩, e, n)
    | .submit _ _ => (⟨if n = 0 then .error .internalServerError else .ok (), []⟩, e, n + 1)
    | .claim _ | .fetch _ | .acknowledge _ _ => (⟨.error .notFound, []⟩, e, n)
  wait := fun _ _ n => ([], n)

namespace World

/-- With such a session, the identifier of the first attempt is submitted in the
    second one, too. -/
theorem submitted_again_repeating : ∃ (w : World Nat) (x y : PublicationTry),
    prepare { Config.oneClaim with backoff := .maxRetries .zero 1 } ⟨0, .empty⟩ 0 = .ok w ∧
    conversation (w.produce .repeating 2 .empty).2.trace = [x, y].flatMap (·.said .empty) ∧
    (w.produce .repeating 2 .empty).1 = .finished (.ok "e") ∧
    ⟨.reserve, .ok "e"⟩ ∈ x.said .empty ∧ ⟨.submit "e" .empty, .ok ()⟩ ∈ y.said .empty := by
  refine ⟨_, .submitted "e" (.error .internalServerError), .submitted "e" (.ok ()), rfl,
    ?_, ?_, ?_, ?_⟩
  · rfl
  · rfl
  · exact PublicationTry.mem_said_reserve.mpr rfl
  · simp [PublicationTry.said]

end World

end EventFlow
