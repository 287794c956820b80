import EventFlow.Proofs.Worker.Conversation

/-!
# What a Settlement Says

The calls that settle one unit of work, and what its options make of them.

Options are folded over an acknowledgment, one after the other. The two kinds of
option write to different fields, and writing the filter always writes the same;
so of the order of a list nothing is left but which replacement comes last
(`ofOptions_eq`). Filters can stand anywhere and any number of times.

The acknowledgment is made before the first attempt and does not depend on what
happens then: every call of a settlement is the same call, however often it is
made and on however many sessions.

## Main definitions

* `AckOption.message?`: The replacement that an option asks for.

## Theorems

* `ofOptions_eq`: The acknowledgment that options ask for, without the fold.
* `World.ack_conversation`: The calls of a settlement.
-/

namespace EventFlow

/-- The replacement that an option asks for, if it asks for one. A filter asks for
    none and leaves an earlier replacement as it is. -/
def AckOption.message? : AckOption → Option Message
  | .replace message => some message
  | .filter => none

/-- The acknowledgment that options ask for: content and metadata are those of
    the last replacement, and it filters if one of them says so. -/
theorem Acknowledgment.ofOptions_eq (options : List AckOption) : ofOptions options =
    { content := ((options.filterMap AckOption.message?).getLastD .empty).content
      metadata := ((options.filterMap AckOption.message?).getLastD .empty).metadata
      filter := decide (.filter ∈ options) } := by
  -- From the end, since a later replacement hides an earlier one.
  induction options using List.reverseRecOn with
  | nil => rfl
  | append_singleton options option ih =>
      rw [ofOptions, List.foldl_append, ← ofOptions, ih, List.filterMap_append]
      -- A replacement is the last one then; a filter adds nothing to the replacements.
      cases option with
      | replace message => simp [withOption, AckOption.message?]
      | filter => simp [withOption, AckOption.message?]

namespace World

variable {σ : Type}

/-- The calls of a settlement: all of them say the same, with the acknowledgment
    that the options ask for, and only the last of them can succeed, which the
    settlement then does, too. Nothing depends on where the filters stand among
    the options, nor on how many there are. -/
theorem ack_conversation (b : Outside σ) (rounds : Nat) (reference : Reference)
    (options : List AckOption) (w : World σ) :
    ∃ (acknowledgment : Acknowledgment) (answers : List (Except SessionError Unit)),
      conversation (w.ack b rounds reference options).2.trace = conversation w.trace ++
        answers.map (fun answer => ⟨.acknowledge reference.ackId acknowledgment, answer⟩) ∧
      (acknowledgment.filter = true ↔ .filter ∈ options) ∧
      (⟨acknowledgment.content, acknowledgment.metadata⟩ : Message) =
        (options.filterMap AckOption.message?).getLastD .empty ∧
      .ok () ∉ answers.dropLast ∧
      ((w.ack b rounds reference options).1 = .finished (.ok ()) ↔ .ok () ∈ answers) ∧
      ∀ options' : List AckOption,
        options'.filterMap AckOption.message? = options.filterMap AckOption.message? →
        (.filter ∈ options' ↔ .filter ∈ options) →
          w.ack b rounds reference options' = w.ack b rounds reference options := by
  rcases run_says (fun w w' hrest => conversation_of_resting hrest)
    (fun _ w => said_call b (.acknowledge reference.ackId (.ofOptions options)) w) rounds w with
    ⟨answers, hsaid, hfailed, hok⟩
  refine ⟨.ofOptions options, answers, ?_, ?_, ?_, ?_, ?_, ?_⟩
  · rw [World.ack, hsaid, List.map_eq_flatMap]
  · rw [Acknowledgment.ofOptions_eq]
    exact decide_eq_true_iff
  · rw [Acknowledgment.ofOptions_eq]
  · intro hmem
    rcases hfailed _ hmem with ⟨e, he⟩
    exact absurd he (by simp only [reduceCtorEq, not_false_eq_true])
  · rw [World.ack, hok]
    exact ⟨fun ⟨x, hx, heq⟩ => heq ▸ hx, fun h => ⟨_, h, rfl⟩⟩
  · -- Options count only by the two things that the acknowledgment is made of.
    intro options' hmessages hfilter
    rw [World.ack, World.ack, Acknowledgment.ofOptions_eq options', hmessages,
      Acknowledgment.ofOptions_eq options, decide_eq_decide.mpr hfilter]

end World

end EventFlow
