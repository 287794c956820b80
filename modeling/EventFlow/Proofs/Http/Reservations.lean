import EventFlow.Message.Codec
import EventFlow.Proofs.Http.Failover
import EventFlow.Proofs.Http.Storage
import EventFlow.Proofs.Text.Stripping
import EventFlow.Proofs.Worker.Publishing

/-!
# Identifiers in Answers

Which identifier the answer to a reservation is taken for.

An answer is the identifier itself or a JSON string of it, and white space may
stand around either. The reader does not look which of the two it has: it takes
white space and quotes from the ends, and that is all. For an identifier with
nothing of this kind at its own ends, the bare form comes out as it went in. Of
the JSON form the quotes are gone and the escapes are not, since nobody resolves
them. So a JSON string is taken for the identifier exactly if nothing in it had
to be escaped (`read_eq_iff`); otherwise it is taken for another identifier, and
the message is submitted under that one.

## Main definitions

* `EventId.IsBare`: An identifier without white space or quotes at its ends.
* `EventId.Form`: The forms of an answer.
* `EventId.IsUnescaped`: An identifier in which nothing has to be escaped.
* `Client.reservation`: The request for an identifier.

## Theorems

* `ofBody?_answer`: What an answer is taken for.
* `read_eq_iff`: When it is taken for the identifier.
* `reserved_iff`: The same for an attempt to publish.
* `not_reserved_escaped`: It is not always.
-/

namespace EventFlow

/-- What is taken from the ends of an answer: white space and double quotes. -/
def EventId.isEdge (c : Char) : Bool := Text.isBlank c || c = '\x22'

namespace Json

/-- What is written for a character begins and ends with nothing of this kind,
    unless it is such a character itself. -/
theorem stripped_escapeChar {c : Char} (h : EventId.isEdge c = false) :
    Text.Stripped EventId.isEdge (escapeChar c) := by
  have hdigit : ∀ n : Nat, EventId.isEdge (hexDigit n) = false := by
    have hall : ∀ m : Fin 16, EventId.isEdge (Nat.digitChar m) = false := by decide
    exact fun n => hall ⟨n % 16, Nat.mod_lt n (by omega)⟩
  unfold escapeChar
  split
  · rename_i hspecial
    simp only [Bool.or_eq_true, decide_eq_true_eq] at hspecial
    -- A quote is written with a backslash before it, but then the text had it at its end.
    rcases hspecial with rfl | rfl
    · exact absurd h (by decide)
    · decide
  iterate 5
    split
    · decide
  split
  · exact ⟨fun d hd => Option.mem_some.mp hd ▸ by decide,
      fun d hd => Option.mem_some.mp hd ▸ hdigit _⟩
  · exact ⟨fun d hd => Option.mem_some.mp hd ▸ h, fun d hd => Option.mem_some.mp hd ▸ h⟩

/-- Something is written for each character. -/
theorem escapeChar_ne_nil (c : Char) : escapeChar c ≠ [] := by
  unfold escapeChar
  repeat' split
  all_goals exact List.cons_ne_nil _ _

/-- A character is written as itself if it is no quote, no backslash and no
    control. -/
theorem escapeChar_eq_iff {c : Char} :
    escapeChar c = [c] ↔ c ≠ '\x22' ∧ c ≠ '\\' ∧ 0x20 ≤ c.toNat := by
  unfold escapeChar
  constructor
  · intro h
    split at h
    · exact absurd (congrArg List.length h) (by simp)
    rename_i hspecial
    -- Each escape is at least two characters long, so it is none of them.
    iterate 5
      split at h
      · exact absurd (congrArg List.length h) (by simp)
    split at h
    · exact absurd (congrArg List.length h) (by simp)
    · simp only [Bool.or_eq_true, decide_eq_true_eq, not_or] at hspecial
      exact ⟨hspecial.1, hspecial.2, by omega⟩
  · rintro ⟨hquote, hslash, hcontrol⟩
    have hne : ∀ d : Char, d.toNat < 0x20 → c ≠ d := by
      rintro d hd rfl
      omega
    rw [if_neg (by simp [hquote, hslash]), if_neg (hne _ (by decide)), if_neg (hne _ (by decide)),
      if_neg (hne _ (by decide)), if_neg (hne _ (by decide)), if_neg (hne _ (by decide)),
      if_neg (by omega)]

/-- A text is written as itself exactly if each of its characters is: escapes only
    make it longer, and what is longer in one place cannot be made up for in
    another. -/
theorem flatMap_escapeChar_eq_iff {s : List Char} :
    s.flatMap escapeChar = s ↔ ∀ c ∈ s, escapeChar c = [c] := by
  have hlong : ∀ s : List Char, s.length ≤ (s.flatMap escapeChar).length := by
    intro s
    induction s with
    | nil => exact Nat.le_refl _
    | cons c s ih =>
        have := List.length_pos_iff.mpr (escapeChar_ne_nil c)
        rw [List.flatMap_cons, List.length_append, List.length_cons]
        omega
  induction s with
  | nil => exact iff_of_true rfl nofun
  | cons c s ih =>
      rw [List.flatMap_cons, List.forall_mem_cons]
      refine Iff.trans ?_ (and_congr_right fun _ => ih)
      constructor
      · intro h
        -- The first character takes one place, or there is too little left.
        have hlength := congrArg List.length h
        rw [List.length_append, List.length_cons] at hlength
        have hpos := List.length_pos_iff.mpr (escapeChar_ne_nil c)
        have hone : (escapeChar c).length = 1 := by
          have := hlong s
          omega
        rcases List.length_eq_one_iff.mp hone with ⟨d, hd⟩
        rw [hd, List.singleton_append, List.cons.injEq] at h
        exact ⟨by rw [hd, h.1], h.2⟩
      · rintro ⟨hc, hs⟩
        rw [hc, hs, List.singleton_append]

end Json

namespace EventId

/-! ## Forms of an answer -/

/-- An identifier that neither begins nor ends with white space or a double quote.
    Of any other one, the bare form would not come out as it went in. -/
structure IsBare (id : EventId) : Prop where
  ne_nil : id.toList ≠ []
  stripped : Text.Stripped isEdge id.toList

instance (id : EventId) : Decidable id.IsBare :=
  decidable_of_iff (id.toList ≠ [] ∧ Text.Stripped isEdge id.toList)
    ⟨fun ⟨ne_nil, stripped⟩ => ⟨ne_nil, stripped⟩, fun h => ⟨h.ne_nil, h.stripped⟩⟩

/-- How a backend answers with an identifier. -/
inductive Form where
  /-- By the identifier. -/
  | bare
  /-- By the JSON string that it is. -/
  | quoted

variable {id : EventId} {before after : List Char}

/-- An identifier in a form. -/
def Form.text (id : EventId) : Form → List Char
  | bare => id.toList
  | quoted => (Json.text id).write

/-- The answer in a form, between other characters. -/
def answer (form : Form) (before after : List Char) (id : EventId) : Bytes :=
  Bytes.ofText (String.ofList (before ++ form.text id ++ after))

/-- The identifier that an answer in a form is taken for. -/
def Form.read (id : EventId) : Form → EventId
  | bare => id
  | quoted => String.ofList (id.toList.flatMap Json.escapeChar)

/-- An identifier in which there are no quotes, no backslashes and no controls. -/
def IsUnescaped (id : EventId) : Prop :=
  ∀ c ∈ id.toList, c ≠ '\x22' ∧ c ≠ '\\' ∧ 0x20 ≤ c.toNat

/-- An answer is taken for the identifier if it has the bare form, or if nothing had
    to be escaped in the other one. -/
theorem Form.read_eq_iff {form : Form} : form.read id = id ↔ form = .bare ∨ id.IsUnescaped := by
  cases form with
  | bare => exact iff_of_true rfl (.inl rfl)
  | quoted =>
      have htext : Form.quoted.read id = id ↔ id.toList.flatMap Json.escapeChar = id.toList := by
        rw [← String.toList_inj, Form.read, String.toList_ofList]
      rw [htext, Json.flatMap_escapeChar_eq_iff]
      simp only [Json.escapeChar_eq_iff, IsUnescaped, reduceCtorEq, false_or]

/-- What is written between the quotes is stripped like the identifier. -/
theorem IsBare.escaped (h : id.IsBare) :
    id.toList.flatMap Json.escapeChar ≠ [] ∧
      Text.Stripped isEdge (id.toList.flatMap Json.escapeChar) := by
  refine ⟨?_, ?_, ?_⟩
  · rcases List.exists_cons_of_ne_nil h.ne_nil with ⟨c, s, hid⟩
    rw [hid, List.flatMap_cons]
    exact List.append_ne_nil_of_left_ne_nil (Json.escapeChar_ne_nil c) _
  · -- What is written for the first character decides how all of it begins.
    rcases List.exists_cons_of_ne_nil h.ne_nil with ⟨c, s, hid⟩
    have hc := h.stripped.head c (by rw [hid]; rfl)
    rw [hid, List.flatMap_cons, List.head?_append_of_ne_nil _ (Json.escapeChar_ne_nil c)]
    exact (Json.stripped_escapeChar hc).head
  · rcases (List.eq_nil_or_concat' id.toList).resolve_left h.ne_nil with ⟨s, c, hid⟩
    have hc := h.stripped.last c (by rw [hid, List.getLast?_concat]; rfl)
    rw [hid, List.flatMap_append, List.flatMap_singleton,
      List.getLast?_append_of_ne_nil _ (Json.escapeChar_ne_nil c)]
    exact (Json.stripped_escapeChar hc).last

/-- An answer is taken for what its form is read as, whatever white space stands
    around it. In the quoted form, that is what stands between the quotes, escapes
    and all. -/
theorem ofBody?_answer (h : id.IsBare) (form : Form)
    (hbefore : ∀ c ∈ before, Text.isBlank c = true) (hafter : ∀ c ∈ after, Text.isBlank c = true) :
    ofBody? (answer form before after id) = some (form.read id) := by
  -- What has neither at its ends is stripped of both.
  have hblank : ∀ {s : List Char}, Text.Stripped isEdge s → Text.Stripped Text.isBlank s :=
    fun hs => ⟨fun c hc => (Bool.or_eq_false_iff.mp (hs.head c hc)).1,
      fun c hc => (Bool.or_eq_false_iff.mp (hs.last c hc)).1⟩
  have hquote : ∀ {s : List Char}, Text.Stripped isEdge s → Text.Stripped (· = '\x22') s :=
    fun hs => ⟨fun c hc => (Bool.or_eq_false_iff.mp (hs.head c hc)).2,
      fun c hc => (Bool.or_eq_false_iff.mp (hs.last c hc)).2⟩
  unfold ofBody? answer
  rw [Bytes.mendedText_ofText, String.toList_ofList]
  cases form with
  | bare =>
      rw [Form.text, Text.strip_append (hblank h.stripped) h.ne_nil hbefore hafter,
        Text.strip_of_stripped (hquote h.stripped)]
      dsimp only
      rw [Text.strip_of_stripped (hblank h.stripped)]
      rcases List.exists_cons_of_ne_nil h.ne_nil with ⟨c, s, hid⟩
      simp only [hid]
      rw [← hid, String.ofList_toList, Form.read]
  | quoted =>
      rcases h.escaped with ⟨hne, hstripped⟩
      -- First the white space goes, then the quotes, and what is within begins with neither.
      have hwritten : Form.quoted.text id =
          ['\x22'] ++ id.toList.flatMap Json.escapeChar ++ ['\x22'] := rfl
      have houter : Text.Stripped Text.isBlank
          (['\x22'] ++ id.toList.flatMap Json.escapeChar ++ ['\x22']) :=
        ⟨fun c hc => Option.mem_some.mp hc ▸ by decide, fun c hc => by
          rw [List.getLast?_concat] at hc
          exact Option.mem_some.mp hc ▸ by decide⟩
      rw [hwritten, Text.strip_append houter (List.append_ne_nil_of_right_ne_nil _
          (List.cons_ne_nil _ _)) hbefore hafter,
        Text.strip_append (hquote hstripped) hne (by simp) (by simp)]
      dsimp only
      rw [Text.strip_of_stripped (hblank hstripped)]
      rcases List.exists_cons_of_ne_nil hne with ⟨c, s, hs⟩
      simp only [Form.read, hs]

end EventId

namespace Http

open EventId (Form answer)

variable {τ : Type}

/-- The request for an identifier, to an endpoint. It has an empty body, which is
    not the same as none. -/
def Client.reservation (c : Client) (endpoint : Url) : Request :=
  c.request (endpoint.extend ["flow", c.identity.flowId, "events"])
    ⟨.post, ["flow", c.identity.flowId, "events"], some [], none⟩

section

variable {c : Client} {t : Transport τ} {w : World (State τ)} {body : Bytes} {id : EventId}

/-- A reservation comes to what its answer is taken for. -/
theorem reserve_of_answered
    (answered : (send t (c.reservation w.worker.endpoints.current) w.outside).1.Answered body)
    (read : EventId.ofBody? body = some id) : (w.call (outside c t) .reserve).1 = .ok id := by
  have written : c.task .reserve =
      .ok ⟨.post, ["flow", c.identity.flowId, "events"], some [], none⟩ := rfl
  rw [result_call written]
  unfold outcomeAt
  have hbody := Exchange.body_of_answered answered (c.reservation w.worker.endpoints.current)
  unfold Client.reservation at hbody
  dsimp only
  rw [hbody, interpret, read]

/-- An attempt whose reservation was answered goes on with what the answer is
    taken for. -/
theorem said_of_reserved
    (answered : (send t (c.reservation w.worker.endpoints.current) w.outside).1.Answered body)
    (read : EventId.ofBody? body = some id) (message : Message) (n : UInt32) :
    ∃ result, conversation (w.produceAttempt (outside c t) message n).2.trace =
      conversation w.trace ++ (PublicationTry.submitted id result).said message := by
  rcases World.submitted_produceAttempt (Prod.ext (reserve_of_answered answered read) rfl) message n
    with ⟨result, hsaid, -⟩
  exact ⟨result, hsaid⟩

end

/-- An answer with an identifier, in either form and with any white space around
    it, is taken for this identifier exactly if it is the identifier itself or
    nothing in it had to be escaped. An attempt to publish whose reservation is
    answered so submits the message under what the answer is taken for. -/
theorem reserved_iff {id : EventId} (hid : id.IsBare) (form : Form) {before after : List Char}
    (hbefore : ∀ c ∈ before, Text.isBlank c = true) (hafter : ∀ c ∈ after, Text.isBlank c = true) :
    (EventId.ofBody? (answer form before after id) = some id ↔ form = .bare ∨ id.IsUnescaped) ∧
    ∀ {τ : Type} (c : Client) (t : Transport τ) (w : World (State τ)) (message : Message)
        (n : UInt32),
      (send t (c.reservation w.worker.endpoints.current) w.outside).1.Answered
        (answer form before after id) →
      ∃ taken result, conversation (w.produceAttempt (outside c t) message n).2.trace =
          conversation w.trace ++ (PublicationTry.submitted taken result).said message ∧
        (taken = id ↔ form = .bare ∨ id.IsUnescaped) := by
  have hread := EventId.ofBody?_answer hid form hbefore hafter
  refine ⟨?_, fun c t w message n answered => ?_⟩
  · rw [hread, Option.some_inj]
    exact EventId.Form.read_eq_iff
  · -- The submission has the identifier that was read, right or not.
    rcases said_of_reserved answered hread message n with ⟨result, hsaid⟩
    exact ⟨form.read id, result, hsaid, EventId.Form.read_eq_iff⟩

/-! ## A backend with a fixed answer -/

/-- A backend that answers every request by a text, whatever it was asked. -/
def Transport.saying (text : String) : Transport Unit where
  exchange := fun _ _ => (⟨.ok ⟨200, Bytes.ofText text⟩, []⟩, ())
  wait := fun _ _ _ => ([], ())

/-- A reservation with such a backend is answered by that text. -/
theorem answered_saying (text : String) (w : World (State Unit)) :
    (send (.saying text) (Client.plain.reservation w.worker.endpoints.current)
      w.outside).1.Answered (Bytes.ofText text) := by
  refine ⟨200, ?_, by decide, by decide⟩
  unfold Client.reservation
  rw [send_plain]
  rfl

/-- An identifier with a quote in it, by itself on a line. Only quotes at the ends
    are taken off, so it is read as it is. -/
theorem reserved_iff_inner_quote : ∃ w : World (State Unit),
    World.prepare (.retrying [.ofHost 'a'] 0) ⟨0, .empty⟩ ⟨(), []⟩ = .ok w ∧
    EventId.ofBody? (answer .bare [' '] ['\n'] "a\"b") = some "a\"b" ∧
    ∃ result, conversation (w.produceAttempt (outside .plain (.saying " a\"b\n"))
        (.ofJson .null) 1).2.trace =
      conversation w.trace ++ (PublicationTry.submitted "a\"b" result).said (.ofJson .null) := by
  have hreserved := @reserved_iff "a\"b" (by decide) .bare [' '] ['\n']
    (List.forall_mem_singleton.mpr rfl) (List.forall_mem_singleton.mpr rfl)
  refine ⟨_, rfl, hreserved.1.mpr (.inl rfl), ?_⟩
  rcases hreserved.2 .plain (.saying " a\"b\n") _ (.ofJson .null) 1 (answered_saying _ _) with
    ⟨taken, result, hsaid, htaken⟩
  exact ⟨result, htaken.mpr (.inl rfl) ▸ hsaid⟩

/-- A JSON string with a backslash in it: the message is submitted under an
    identifier that was not reserved. -/
theorem not_reserved_escaped : ∃ (id : EventId) (w : World (State Unit)),
    id.IsBare ∧ EventId.ofBody? (answer .quoted [] [] id) ≠ some id ∧
    World.prepare (.retrying [.ofHost 'a'] 0) ⟨0, .empty⟩ ⟨(), []⟩ = .ok w ∧
    (w.produce (outside .plain (.saying (String.ofList (Json.text id).write))) 1
      (.ofJson .null)).1 = .finished (.ok "a\\\\b") ∧ id ≠ "a\\\\b" := by
  refine ⟨"a\\b", _, by decide, ?_, rfl, ?_, by decide⟩
  · decide +kernel
  · rfl

end Http

end EventFlow
