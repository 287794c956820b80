import EventFlow.Proofs.Http.Requests
import EventFlow.Proofs.Message.Bodies

/-!
# Messages over HTTP

What is submitted is what is fetched.

A submission carries the body of its message, and a fetch reads the body of its
answer. Whoever keeps bodies as they are, then, keeps messages as they are: the
fetch gives the message that was submitted, with every byte of its content and
every entry of its metadata.

Content that is not UTF-8 has no place in such a body. A call that would have
to send it fails before it picks an endpoint, and leaves everything outside as
it is.

## Theorems

* `call_of_body`: A submission sends the body of its message.
* `interpret_of_body`: A fetch reads that body as the message.
* `call_of_unwritten`: A call without a body does nothing.
* `carried_faithfully`: Both directions, and what cannot be carried.
-/

namespace EventFlow

namespace Http

variable {τ : Type}

/-- A submission sends the body of its message. The record of what was sent goes on
    from there as for any request. -/
theorem call_of_body (c : Client) (t : Transport τ) (s : State τ) (e : Endpoints)
    (eventId : EventId) {message : Message} {body : Bytes} (h : message.body? = some body) :
    ∃ request : Request, request.method = .put ∧ request.body = some body ∧
      (c.call t (.submit eventId message) s e).2.2 = (send t request s).2 := by
  have hwritten : c.task (.submit eventId message) =
      .ok ⟨.put, ["flow", c.identity.flowId, "events", eventId], some body, none⟩ := by
    unfold Client.task
    simp only [h]
  rw [call_of_task hwritten]
  exact ⟨_, rfl, rfl, rfl⟩

/-- A fetch reads the body of a message as that message. -/
theorem interpret_of_body {message : Message} {body : Bytes} (h : message.body? = some body)
    (eventId : EventId) : interpret (.fetch eventId) (.ok body) = .ok message := by
  rw [interpret, Message.ofBody?_of_body? h]
  rfl

/-- A call whose body cannot be written neither picks an endpoint nor sends
    anything. It fails with the error of the writing. -/
theorem call_of_unwritten {c : Client} {call : Call} {e : SessionError}
    (h : c.task call = .error e) (t : Transport τ) (s : State τ) (endpoints : Endpoints) :
    c.call t call s endpoints = (⟨.error e, []⟩, endpoints, s) := by
  unfold Client.call
  rw [h]

/-- A message with UTF-8 content is submitted in a body that a fetch reads as
    this message, and in which no other message is submitted. Content that is
    not UTF-8 is neither submitted nor sent with an acknowledgment. -/
theorem carried_faithfully (c : Client) (t : Transport τ) (s : State τ) (e : Endpoints) :
    (∀ message : Message, (Bytes.text? message.content).isSome = true →
      ∃ body, message.body? = some body ∧
        (∀ eventId, ∃ request : Request, request.method = .put ∧ request.body = some body ∧
          (c.call t (.submit eventId message) s e).2.2 = (send t request s).2) ∧
        (∀ eventId, interpret (.fetch eventId) (.ok body) = .ok message) ∧
        ∀ message' : Message, message'.body? = some body → message' = message) ∧
    (∀ (eventId : EventId) (message : Message), Bytes.text? message.content = none →
      c.call t (.submit eventId message) s e = (⟨.error .nonUtf8Content, []⟩, e, s)) ∧
    ∀ (ackId : String) (acknowledgment : Acknowledgment),
      Bytes.text? acknowledgment.content = none →
      c.call t (.acknowledge ackId acknowledgment) s e =
        (⟨.error .nonUtf8Content, []⟩, e, s) := by
  refine ⟨fun message htext => ?_, fun eventId message htext => ?_,
    fun ackId acknowledgment htext => ?_⟩
  · -- UTF-8 content is all that a body needs.
    rw [← Message.isSome_body?] at htext
    rcases Option.isSome_iff_exists.mp htext with ⟨body, hbody⟩
    refine ⟨body, hbody, fun eventId => call_of_body c t s e eventId hbody,
      interpret_of_body hbody, fun message' hbody' => Message.body?_injective hbody' hbody⟩
  · refine call_of_unwritten ?_ t s e
    have hbody : message.body? = none := by
      unfold Message.body?
      rw [htext]
      rfl
    unfold Client.task
    simp only [hbody]
  · refine call_of_unwritten ?_ t s e
    have hbody : acknowledgment.body? = none := by
      unfold Acknowledgment.body?
      rw [htext]
      rfl
    unfold Client.task
    simp only [hbody]

end Http

/-- A message with a quote, a backslash, controls and a character beyond ASCII,
    and with two entries of one empty key. -/
def Message.motley : Message :=
  ⟨Bytes.ofText "\"\\\n\x00\u00e9", [⟨"", "a=b"⟩, ⟨"k", "\t"⟩, ⟨"", "a=b"⟩]⟩

namespace Http

/-- A message that needs every kind of escape, and content that has none. -/
theorem carried_faithfully_motley :
    (Bytes.text? Message.motley.content).isSome = true ∧
    (Bytes.text? [0xff] = none) ∧
    (∃ body, Message.motley.body? = some body ∧
      ∀ eventId, interpret (.fetch eventId) (.ok body) = .ok .motley) ∧
    Client.plain.call .unreachable (.submit "e" ⟨[0xff], []⟩) ⟨(), []⟩ .single =
      (⟨.error .nonUtf8Content, []⟩, .single, ⟨(), []⟩) ∧
    Client.plain.call .unreachable (.acknowledge "a" ⟨[0xff], [], false⟩) ⟨(), []⟩ .single =
      (⟨.error .nonUtf8Content, []⟩, .single, ⟨(), []⟩) := by
  have hmotley : (Bytes.text? Message.motley.content).isSome = true := by
    unfold Message.motley
    rw [Bytes.text?_ofText]
    rfl
  have hbroken : Bytes.text? [0xff] = none := rfl
  rcases carried_faithfully Client.plain .unreachable ⟨(), []⟩ .single with
    ⟨hcarried, hsubmit, hacknowledge⟩
  rcases hcarried .motley hmotley with ⟨body, hbody, -, hfetch, -⟩
  exact ⟨hmotley, hbroken, ⟨body, hbody, hfetch⟩, hsubmit "e" ⟨[0xff], []⟩ hbroken,
    hacknowledge "a" ⟨[0xff], [], false⟩ hbroken⟩

end Http

end EventFlow
