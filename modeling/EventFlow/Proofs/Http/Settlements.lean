import EventFlow.Proofs.Http.Bodies
import EventFlow.Proofs.Message.Acknowledgments
import EventFlow.Proofs.Worker.Settling

/-!
# Settlements over HTTP

What is sent to settle a unit of work, and what a backend can tell from it.

The body that acknowledges says all of the acknowledgment, so a backend that reads
it knows what it is to do, and two acknowledgments that are not the same do not
look the same. A settlement sends no other body, however often it has to be sent.

Options are another matter, since an acknowledgment does not have all of them in
it. One by which an event is replaced by an empty message has nothing to send for
it, and neither has one that leaves the event alone. So whether a settlement with
a replacement can be told from one without is a question of what the last
replacement is (`isSettledBy_of_replacement`).

## Main definitions

* `AckOption.replacement`: The last replacement among options.
* `IsSentAs`: The body in which an acknowledgment is sent.
* `Settles`: Nothing but an acknowledgment was sent.
* `IsSettledBy`: The body in which options are sent.

## Theorems

* `isSentAs_of_body?`: An acknowledgment is sent in its body.
* `acknowledged_faithfully`: What can be told from that body.
* `settles_ack`: A settlement sends nothing else.
* `sent_of_unwritten`: A settlement that cannot be written.
* `isSettledBy_of_replacement`: When a replacement shows in the body.
-/

namespace EventFlow

/-- The last replacement among some options, which is empty if there are none. -/
def AckOption.replacement (options : List AckOption) : Message :=
  (options.filterMap message?).getLastD .empty

/-- Options that only filter have none. -/
theorem AckOption.replacement_of_filters {options : List AckOption}
    (h : ∀ option ∈ options, option = .filter) : replacement options = .empty := by
  have hnone : options.filterMap message? = [] := by
    refine List.filterMap_eq_nil_iff.mpr fun option hoption => ?_
    rw [h option hoption]
    rfl
  rw [replacement, hnone]
  rfl

namespace Http

open AckOption (replacement)

/-! ## Acknowledgments -/

/-- An acknowledgment is sent in this body, by whatever client, for whatever unit
    of work and over whatever transport. -/
def IsSentAs (a : Acknowledgment) (body : Bytes) : Prop :=
  ∀ (τ : Type) (c : Client) (t : Transport τ) (ackId : String) (s : State τ) (e : Endpoints),
    ∃ request : Request, request.method = .put ∧ request.body = some body ∧
      request.url = e.current.extend ["workers", c.identity.workerId, "ack", ackId] ∧
      (c.call t (.acknowledge ackId a) s e).2.2 = (send t request s).2

/-- What there is to send for an acknowledgment. Its body is the only part that may
    be missing. -/
theorem task_of_body? {a : Acknowledgment} {body : Bytes} (h : a.body? = some body) (c : Client)
    (ackId : String) : c.task (.acknowledge ackId a) =
      .ok ⟨.put, ["workers", c.identity.workerId, "ack", ackId], some body, none⟩ := by
  unfold Client.task
  simp only [h]

/-- An acknowledgment is sent in its body. -/
theorem isSentAs_of_body? {a : Acknowledgment} {body : Bytes} (h : a.body? = some body) :
    IsSentAs a body := by
  intro τ c t ackId s e
  rw [call_of_task (task_of_body? h c ackId)]
  exact ⟨_, rfl, rfl, rfl, rfl⟩

/-- Two acknowledgments with UTF-8 content are sent in bodies that are the same just
    if the acknowledgments are. Each is read back from its body, as an object in
    which content and metadata that are missing are empty, and they are missing
    just if they are empty. -/
theorem acknowledged_faithfully {a a' : Acknowledgment}
    (written : (Bytes.text? a.content).isSome = true)
    (written' : (Bytes.text? a'.content).isSome = true) :
    ∃ body body', IsSentAs a body ∧ IsSentAs a' body' ∧ (body = body' ↔ a = a') ∧
      ∃ members, (Json.Tree.ofBytes? body).bind Json.Tree.members? = some members ∧
        Acknowledgment.ofMembers? members = some a ∧
        ("content" ∈ members.map Prod.fst ↔ a.content ≠ []) ∧
        ("metadata" ∈ members.map Prod.fst ↔ a.metadata ≠ []) := by
  rw [← Acknowledgment.isSome_body?] at written written'
  rcases Option.isSome_iff_exists.mp written with ⟨body, hbody⟩
  rcases Option.isSome_iff_exists.mp written' with ⟨body', hbody'⟩
  refine ⟨body, body', isSentAs_of_body? hbody, isSentAs_of_body? hbody', ?_,
    Acknowledgment.read_of_body? hbody⟩
  rw [← Acknowledgment.body?_eq_iff hbody', hbody, Option.some.injEq]

/-- The content of one looks like the members of the other. It is told apart all the
    same, since its quotes are escaped. -/
theorem acknowledged_faithfully_disguised :
    ∃ body body',
      IsSentAs ⟨Bytes.ofText "\",\"filter\":true,\"x\":\"", [], false⟩ body ∧
      IsSentAs ⟨[], [⟨"", "a=b"⟩, ⟨"k", "\t"⟩, ⟨"", "a=b"⟩], true⟩ body' ∧ body ≠ body' := by
  have hwritten : ∀ s : String, (Bytes.text? (Bytes.ofText s)).isSome = true := by
    intro s
    rw [Bytes.text?_ofText]
    rfl
  rcases @acknowledged_faithfully ⟨Bytes.ofText "\",\"filter\":true,\"x\":\"", [], false⟩
    ⟨[], [⟨"", "a=b"⟩, ⟨"k", "\t"⟩, ⟨"", "a=b"⟩], true⟩ (hwritten _) rfl with
    ⟨body, body', hsent, hsent', hbodies, -⟩
  refine ⟨body, body', hsent, hsent', fun heq => ?_⟩
  exact absurd (congrArg Acknowledgment.filter (hbodies.mp heq)) Bool.false_ne_true

/-! ## Settlements -/

variable {τ : Type}

/-- What a call adds to what was sent has the body of its task. -/
theorem sent_of_call (c : Client) (t : Transport τ) (call : Call) (w : World (State τ)) :
    ∃ made, (w.call (outside c t) call).2.outside.sent = made ++ w.outside.sent ∧
      ∀ x ∈ made, ∃ task, c.task call = .ok task ∧ x.request.body = task.body := by
  rw [(call_outside c t call w).2.2]
  have hasked := asked_call c t call w.outside w.worker.endpoints
  generalize c.call t call w.outside w.worker.endpoints = asked at hasked
  cases hasked with
  | unwritten | refused => exact ⟨[], rfl, fun x hx => absurd hx List.not_mem_nil⟩
  | sent task request written addressed =>
      refine ⟨[_], rfl, fun x hx => ?_⟩
      obtain rfl := List.mem_singleton.mp hx
      exact ⟨task, written, by rw [addressed]; rfl⟩

/-- From the one world to the other, nothing was sent but this acknowledgment. It
    may not have been sent at all. -/
def Settles (a : Acknowledgment) (w w' : World (State τ)) : Prop :=
  ∃ made, w'.outside.sent = made ++ w.outside.sent ∧
    ∀ x ∈ made, ∃ body, a.body? = some body ∧ x.request.body = some body

/-- A call that acknowledges adds one such request to them, or none. -/
theorem settles_call (c : Client) (t : Transport τ) (ackId : String) {a : Acknowledgment}
    {w w' : World (State τ)} (h : Settles a w w') :
    Settles a w (w'.call (outside c t) (.acknowledge ackId a)).2 := by
  rcases h with ⟨made, hsent, hmade⟩
  rcases sent_of_call c t (.acknowledge ackId a) w' with ⟨newer, hnewer, htask⟩
  refine ⟨newer ++ made, by rw [hnewer, hsent, List.append_assoc], fun x hx => ?_⟩
  rcases List.mem_append.mp hx with hx | hx
  · rcases htask x hx with ⟨task, hwritten, hbody⟩
    -- A request was sent, so the acknowledgment could be written.
    cases h : a.body? with
    | none => simp only [Client.task, h, reduceCtorEq] at hwritten
    | some body =>
        rw [task_of_body? h] at hwritten
        obtain rfl := Except.ok.inj hwritten
        exact ⟨body, rfl, hbody⟩
  · exact hmade x hx

/-- All requests of a settlement have the body of its acknowledgment, however many
    attempts it takes. -/
theorem settles_ack (c : Client) (t : Transport τ) (rounds : Nat) (reference : Reference)
    (options : List AckOption) (w : World (State τ)) :
    Settles (.ofOptions options) w (w.ack (outside c t) rounds reference options).2 := by
  refine World.run_keeps ?_ (fun _ w' => settles_call c t reference.ackId) rounds
    ⟨[], rfl, fun x hx => absurd hx List.not_mem_nil⟩
  rintro w₁ w₂ ⟨made, hsent, hmade⟩ hrest
  exact ⟨made, (sent_of_waited hrest.outside).trans hsent, hmade⟩

/-- A settlement with these options is sent in this body. A call sends that, and a
    run, however often it has to call, sends nothing else. -/
structure IsSettledBy (options : List AckOption) (body : Bytes) : Prop where
  isSentAs : IsSentAs (.ofOptions options) body
  sent : ∀ {τ : Type} (c : Client) (t : Transport τ) (rounds : Nat) (reference : Reference)
    (w : World (State τ)), ∃ made,
    (w.ack (outside c t) rounds reference options).2.outside.sent = made ++ w.outside.sent ∧
      ∀ x ∈ made, x.request.body = some body

/-- Options are sent in the body of the acknowledgment that they ask for. -/
theorem isSettledBy_of_body? {options : List AckOption} {body : Bytes}
    (h : (Acknowledgment.ofOptions options).body? = some body) : IsSettledBy options body where
  isSentAs := isSentAs_of_body? h
  sent := by
    intro τ c t rounds reference w
    rcases settles_ack c t rounds reference options w with ⟨made, hsent, hmade⟩
    refine ⟨made, hsent, fun x hx => ?_⟩
    rcases hmade x hx with ⟨body', hbody', hx'⟩
    exact hx'.trans (hbody'.symm.trans h)

/-- A settlement has a body just if the content of the last replacement is UTF-8. -/
theorem isSome_body?_ofOptions (options : List AckOption) :
    (Acknowledgment.ofOptions options).body?.isSome = (replacement options).text?.isSome := by
  rw [Acknowledgment.isSome_body?, Acknowledgment.ofOptions_eq]
  rfl

/-- Without a body, a settlement sends nothing: every attempt fails before it picks
    an endpoint. -/
theorem sent_of_unwritten {options : List AckOption} (h : (replacement options).text? = none)
    (c : Client) (t : Transport τ) (rounds : Nat) (reference : Reference) (w : World (State τ)) :
    (w.ack (outside c t) rounds reference options).2.outside.sent = w.outside.sent := by
  have hbody : (Acknowledgment.ofOptions options).body? = none := by
    rw [← Option.not_isSome_iff_eq_none, isSome_body?_ofOptions, h]
    exact Bool.false_ne_true
  rcases settles_ack c t rounds reference options w with ⟨made, hsent, hmade⟩
  cases made with
  | nil => exact hsent
  | cons x made =>
      rcases hmade x (.head _) with ⟨body, hsome, -⟩
      exact absurd (hbody.symm.trans hsome) (Option.some_ne_none body).symm

/-- Options with a replacement are sent in another body than options without one
    that filter as they do, if and only if the last replacement is not empty. -/
theorem ne_iff_of_options {options options' : List AckOption} {body body' : Bytes}
    (alone : replacement options' = .empty) (same : .filter ∈ options' ↔ .filter ∈ options)
    (h : (Acknowledgment.ofOptions options).body? = some body)
    (h' : (Acknowledgment.ofOptions options').body? = some body') :
    body ≠ body' ↔ replacement options ≠ .empty := by
  have hbodies : body = body' ↔
      Acknowledgment.ofOptions options = Acknowledgment.ofOptions options' := by
    rw [← Acknowledgment.body?_eq_iff h', h, Option.some.injEq]
  refine not_congr (hbodies.trans ?_)
  have hfilter : decide (.filter ∈ options') = decide (.filter ∈ options) :=
    decide_eq_decide.mpr same
  have hlast : (options'.filterMap AckOption.message?).getLastD .empty = .empty := alone
  rw [Acknowledgment.ofOptions_eq, Acknowledgment.ofOptions_eq options', hlast, hfilter]
  -- Both filter alike, so what is left to compare are content and metadata.
  unfold replacement
  generalize (options.filterMap AckOption.message?).getLastD .empty = last
  rcases last with ⟨content, metadata⟩
  simp [Message.empty]

/-- Options of which one can be written and the other one is without a replacement
    are sent in two bodies, which differ if and only if there is something in the
    replacement. -/
theorem isSettledBy_of_replacement {options options' : List AckOption}
    (written : (replacement options).text?.isSome = true) (alone : replacement options' = .empty)
    (same : .filter ∈ options' ↔ .filter ∈ options) :
    ∃ body body', IsSettledBy options body ∧ IsSettledBy options' body' ∧
      (body ≠ body' ↔ replacement options ≠ .empty) := by
  have written' : (replacement options').text?.isSome = true := by
    rw [alone]
    rfl
  rw [← isSome_body?_ofOptions] at written written'
  rcases Option.isSome_iff_exists.mp written with ⟨body, hbody⟩
  rcases Option.isSome_iff_exists.mp written' with ⟨body', hbody'⟩
  exact ⟨body, body', isSettledBy_of_body? hbody, isSettledBy_of_body? hbody',
    ne_iff_of_options alone same hbody hbody'⟩

end Http

end EventFlow
