import EventFlow.Proofs.CommandLine.Roundtrip
import EventFlow.Proofs.Http.Settlements

/-!
# Replacements from the Command Line

What becomes of a replacement that a settlement was given.

An event is replaced by what the arguments say, content and metadata together. On
the way to the backend that passes from arguments to options, from there to an
acknowledgment, and from that to a body in which what is empty is left out. A
replacement that has anything in it comes through: the body is not that of a
settlement that leaves the event alone. One that is empty does not. Content that is
given as an empty text is an option, but neither the acknowledgment nor its body
has a place for it, so the backend is asked to leave the event as it is.

## Main definitions

* `sent`: What a command sends.

## Theorems

* `replacement_ackOptions`, `filter_mem_ackOptions`: What the arguments ask for.
* `body_of_sent`: What the command sends.
* `replacement_shows_iff`: When a replacement can be told from none.
* `not_shown_empty`: A replacement that cannot.
-/

namespace EventFlow

open AckOption (replacement)
open Http (Client IsSettledBy Transport State)

namespace CommandLine

/-! ## Arguments -/

/-- The last replacement that the arguments ask for has their content and metadata,
    and is empty if there are none. -/
theorem replacement_ackOptions (content : Option String) (metadata : List Metadata)
    (filter : Bool) : replacement (ackOptions content metadata filter) =
      ⟨Bytes.ofText (content.getD ""), metadata⟩ := by
  have hplain : (if filter then [AckOption.filter] else []).filterMap AckOption.message? = [] := by
    -- The filter is no message, so it is none of the replacements.
    cases filter <;> rfl
  unfold replacement ackOptions
  rw [List.filterMap_append, hplain, List.append_nil]
  cases content with
  | some text => rfl
  | none => cases metadata <;> rfl

/-- The filter is among the options if it was asked for, with a replacement or
    without. -/
theorem filter_mem_ackOptions (content : Option String) (metadata : List Metadata)
    (filter : Bool) : .filter ∈ ackOptions content metadata filter ↔ filter = true := by
  cases content <;> cases metadata <;> cases filter <;> simp [ackOptions]

/-- There is something to replace the event with if there is content that is not
    empty, or any metadata. -/
theorem replacement_ne_empty_iff (content : Option String) (metadata : List Metadata)
    (filter : Bool) : replacement (ackOptions content metadata filter) ≠ .empty ↔
      content.getD "" ≠ "" ∨ metadata ≠ [] := by
  rw [replacement_ackOptions, ne_eq, Message.empty, Message.mk.injEq, Bytes.ofText_eq_nil,
    Classical.not_and_iff_not_or_not]

/-! ## Commands -/

/-- What a command sends with a configuration, latest first. -/
def sent {τ κ : Type} (t : Transport τ) (c : Console κ) (rounds : Nat) (command : Command)
    (config : Config) (path : String) (console : κ) (transport : τ) : List Http.Sent :=
  (execute (Http.outside (.ofConfig config) t) c rounds command config path console
    ⟨transport, []⟩).outside.sent

/-- Whatever follows an operation that does nothing outside, the operation was all. -/
theorem outside_andThen {σ κ α : Type} (console : κ) (ended : Outcome α × World σ)
    {next : α → World σ → Work σ κ} (h : ∀ a w, (next a w).outside = w.outside) :
    (Work.andThen console ended next).outside = ended.2.outside := by
  rcases ended with ⟨(e | a) | _ | _, w⟩
  · rfl
  · exact h a w
  · rfl
  · rfl

/-- Printing a line is nothing outside, whether the console takes it or not. -/
theorem outside_doneWith {σ κ : Type} (c : Console κ) (text : String) (console : κ)
    (w : World σ) : (Work.doneWith c text console w).outside = w.outside := by
  unfold Work.doneWith Work.printing
  split <;> rfl

/-- A command that settles sends the body that its options are sent in, and nothing
    else. -/
theorem body_of_sent {τ κ : Type} {content : Option String} {metadata : List Metadata}
    {filter : Bool} {body : Bytes} (h : IsSettledBy (ackOptions content metadata filter) body)
    (t : Transport τ) (c : Console κ) (rounds : Nat) (ackId eventId : String) (config : Config)
    (path : String) (console : κ) (transport : τ) :
    ∀ x ∈ sent t c rounds (.ack ackId eventId content metadata filter) config path console
      transport, x.request.body = some body := by
  intro x hx
  unfold sent at hx
  cases he : Endpoints.of config.endpoints with
  | error e =>
      -- Without an endpoint there is no worker, and nothing is sent.
      have hrefused : World.prepare config beginning (⟨transport, []⟩ : State τ) =
          .error (.config (.endpoint e)) := by
        unfold World.prepare
        rw [he]
      unfold execute at hx
      simp only [hrefused, Work.refused] at hx
      exact absurd hx List.not_mem_nil
  | ok e =>
      have hcommand : Command.ack ackId eventId content metadata filter ≠ .config := by
        simp only [ne_eq, reduceCtorEq, not_false_eq_true]
      rcases execute_eq t c rounds he hcommand path console transport with
        ⟨w, hexecute, -, houtside, -⟩
      rcases h.sent (.ofConfig config) t rounds (.of ackId eventId) w with ⟨made, hsent, hmade⟩
      rw [hexecute] at hx
      unfold executeWith at hx
      -- What comes after the settlement prints a line, and that is nothing outside.
      rw [outside_andThen _ _ fun _ _ => outside_doneWith .., hsent, houtside,
        List.append_nil] at hx
      exact hmade x hx

/-- A replacement can be told from none, in what is sent for a settlement, if and
    only if there is something in it. It is the last one among the options, which
    has to be UTF-8 for anything to be sent, and from the arguments it has their
    content and metadata. -/
theorem replacement_shows_iff (options : List AckOption) (content : Option String)
    (metadata : List Metadata) (filter : Bool) :
    (∀ options' : List AckOption,
      (∀ option ∈ options', option = .filter) → (.filter ∈ options' ↔ .filter ∈ options) →
      if (replacement options).text?.isSome then
        ∃ body body', IsSettledBy options body ∧ IsSettledBy options' body' ∧
          (body ≠ body' ↔ replacement options ≠ .empty)
      else ∀ {τ : Type} (c : Client) (t : Transport τ) (rounds : Nat) (reference : Reference)
        (w : World (State τ)),
        (w.ack (Http.outside c t) rounds reference options).2.outside.sent = w.outside.sent) ∧
    ∃ body body',
      IsSettledBy (ackOptions content metadata filter) body ∧
      IsSettledBy (ackOptions none [] filter) body' ∧
      (body ≠ body' ↔ content.getD "" ≠ "" ∨ metadata ≠ []) ∧
      ∀ {τ κ : Type} (t : Transport τ) (c : Console κ) (rounds : Nat) (ackId eventId : String)
        (config : Config) (path : String) (console : κ) (transport : τ),
        (∀ x ∈ sent t c rounds (.ack ackId eventId content metadata filter) config path console
          transport, x.request.body = some body) ∧
        ∀ x ∈ sent t c rounds (.ack ackId eventId none [] filter) config path console transport,
          x.request.body = some body' := by
  constructor
  · intro options' hplain hfilter
    split
    · rename_i hwritten
      exact Http.isSettledBy_of_replacement hwritten
        (AckOption.replacement_of_filters hplain) hfilter
    · rename_i hunwritten
      exact Http.sent_of_unwritten (Option.not_isSome_iff_eq_none.mp hunwritten)
  · -- Arguments are texts, so what they ask for can always be written.
    have hwritten : (replacement (ackOptions content metadata filter)).text?.isSome = true := by
      rw [replacement_ackOptions]
      exact congrArg Option.isSome (Bytes.text?_ofText _)
    have halone : replacement (ackOptions none [] filter) = .empty :=
      replacement_ackOptions none [] filter
    -- Leaving out content and metadata leaves the filter as it was.
    have hfilter : .filter ∈ ackOptions none [] filter ↔
        .filter ∈ ackOptions content metadata filter := by
      rw [filter_mem_ackOptions, filter_mem_ackOptions]
    rcases Http.isSettledBy_of_replacement hwritten halone hfilter with
      ⟨body, body', hbody, hbody', hdiffer⟩
    exact ⟨body, body', hbody, hbody', hdiffer.trans (replacement_ne_empty_iff ..),
      fun t c rounds ackId eventId config path console transport =>
        ⟨body_of_sent hbody t c rounds ackId eventId config path console transport,
          body_of_sent hbody' t c rounds ackId eventId config path console transport⟩⟩

/-- Four settlements that a backend answers at once. -/
theorem sent_without :
    (∃ x y, sent (.without (.ofHost 'x')) .paper 1 (.ack "a" "e" none [⟨"k", "v"⟩] true)
        (.retrying [.ofHost 'a'] 0) "" [] 0 = [x] ∧
      sent (.without (.ofHost 'x')) .paper 1 (.ack "a" "e" none [] true)
        (.retrying [.ofHost 'a'] 0) "" [] 0 = [y]) ∧
    ∃ (w : World (State Nat)) (x y : Http.Sent),
      World.prepare (.retrying [.ofHost 'a'] 0) beginning ⟨0, []⟩ = .ok w ∧
      w.outside.sent = [] ∧
      (w.ack (Http.outside .plain (.without (.ofHost 'x'))) 1 (.of "a" "e")
        [.replace .empty, .filter, .replace (.ofText "x")]).2.outside.sent = [x] ∧
      (w.ack (Http.outside .plain (.without (.ofHost 'x'))) 1 (.of "a" "e")
        [.filter]).2.outside.sent = [y] :=
  ⟨⟨_, _, rfl, rfl⟩, ⟨_, _, _, rfl, rfl, rfl, rfl⟩⟩

/-- Metadata alone is enough, and among options it is enough that the last of two
    replacements has content. -/
theorem replacement_shows_iff_last :
    (∃ x y, sent (.without (.ofHost 'x')) .paper 1 (.ack "a" "e" none [⟨"k", "v"⟩] true)
        (.retrying [.ofHost 'a'] 0) "" [] 0 = [x] ∧
      sent (.without (.ofHost 'x')) .paper 1 (.ack "a" "e" none [] true)
        (.retrying [.ofHost 'a'] 0) "" [] 0 = [y] ∧
      x.request.body ≠ y.request.body) ∧
    ∃ (w : World (State Nat)) (x y : Http.Sent),
      World.prepare (.retrying [.ofHost 'a'] 0) beginning ⟨0, []⟩ = .ok w ∧
      (w.ack (Http.outside .plain (.without (.ofHost 'x'))) 1 (.of "a" "e")
        [.replace .empty, .filter, .replace (.ofText "x")]).2.outside.sent = [x] ∧
      (w.ack (Http.outside .plain (.without (.ofHost 'x'))) 1 (.of "a" "e")
        [.filter]).2.outside.sent = [y] ∧
      x.request.body ≠ y.request.body := by
  rcases sent_without with ⟨⟨x, y, hx, hy⟩, w, x', y', hprepare, hnone, hx', hy'⟩
  refine ⟨⟨x, y, hx, hy, ?_⟩, w, x', y', hprepare, hx', hy', ?_⟩
  · rcases (replacement_shows_iff [] none [⟨"k", "v"⟩] true).2 with
      ⟨body, body', -, -, hdiffer, hsent⟩
    rcases hsent (.without (.ofHost 'x')) .paper 1 "a" "e" (.retrying [.ofHost 'a'] 0) "" [] 0 with
      ⟨hbody, hbody'⟩
    rw [hbody x (hx ▸ List.mem_singleton_self x), hbody' y (hy ▸ List.mem_singleton_self y),
      ne_eq, Option.some.injEq]
    exact hdiffer.mpr (.inr (List.cons_ne_nil _ _))
  · have hshows := (replacement_shows_iff [.replace .empty, .filter, .replace (.ofText "x")]
      none [] true).1 [.filter] (fun option hoption => List.mem_singleton.mp hoption) (by decide)
    -- The last replacement is the second one, and it can be written.
    rw [if_pos (by decide +kernel)] at hshows
    rcases hshows with ⟨body, body', hbody, hbody', hdiffer⟩
    rcases hbody.sent .plain (.without (.ofHost 'x')) 1 (.of "a" "e") w with ⟨made, hsent, hmade⟩
    rcases hbody'.sent .plain (.without (.ofHost 'x')) 1 (.of "a" "e") w with
      ⟨made', hsent', hmade'⟩
    -- The one request that each of them sends is the one with that body.
    rw [hx', hnone, List.append_nil] at hsent
    rw [hy', hnone, List.append_nil] at hsent'
    rw [hmade x' (hsent ▸ List.mem_singleton_self x'),
      hmade' y' (hsent' ▸ List.mem_singleton_self y'), ne_eq, Option.some.injEq]
    exact hdiffer.mpr (by decide)

/-- Content that is given as an empty text cannot be told from content that is not
    given. -/
theorem not_shown_empty :
    ∃ x y, sent (.without (.ofHost 'x')) .paper 1 (.ack "a" "e" (some "") [] false)
        (.retrying [.ofHost 'a'] 0) "" [] 0 = [x] ∧
      sent (.without (.ofHost 'x')) .paper 1 (.ack "a" "e" none [] false)
        (.retrying [.ofHost 'a'] 0) "" [] 0 = [y] ∧
      x.request.body = y.request.body :=
  ⟨_, _, rfl, rfl, rfl⟩

end CommandLine

end EventFlow
