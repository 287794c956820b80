import EventFlow.Proofs.CommandLine.Flags
import EventFlow.Proofs.CommandLine.Roundtrip
import EventFlow.Proofs.Http.Series
import EventFlow.Proofs.Http.Settlements
import EventFlow.Session.Http.Recorded

/-!
# Processing one Unit of Work

What a command sends that claims a unit of work, prints it and settles it.

Three operations follow each other, each of which begins only if the one before it
succeeded and what it brought was printed, and each of which may send any number of
requests. What is shown here is that all of them are about one unit of work. The
series of each operation says what its last answer was, and from there the next one
has what it asks for: the fetch has the event identifier of the reference that the
claim brought, and the settlement its acknowledgment identifier. So nothing is
settled that was not claimed and printed before, whatever the backend answers,
whatever the console refuses, and whenever the command is interrupted.

Printing stands between the operations. It sends nothing, but it can fail, and then
the command is over: a console that refuses the reference keeps it from being
fetched, and one that refuses any piece of the message, were it the last line end,
keeps it from being settled. A backend sees the message again in that case, which is
why it is printed before it is settled and not after.

The command ends well just if its settlement was answered well. A claim that brought
something, and even a message that was printed, are not enough.

## Main definitions

* `Yields`, `Shows`: What the last of some requests was answered with.
* `Prints`: A console takes all of some pieces.
* `ClaimsOnce`, `FetchesClaimed`, `Processed`: The requests of a command, and how it
  ends.
* `fetchWith`, `settleWith`: What follows a claim, and what follows a fetch.

## Theorems

* `andThen_cases`: From one operation to the next.
* `printing_cases`: From what was printed to what comes after it.
* `processed_executeConsume`: The work of a command with its worker.
* `settles_only_fetched`: The command with its arguments.
-/

namespace EventFlow

open Http (Client Transport State Series)

/-- What failed does not end well. -/
theorem Failure.exitCode_ne_zero (failure : Failure) : failure.exitCode ≠ 0 := by
  unfold Failure.exitCode
  split <;> decide

namespace CommandLine

variable {τ κ : Type}

/-! ## Work in steps -/

/-- Work goes on with what one of its requests was answered with, which is the last
    one, or fails. -/
theorem andThen_cases {α : Type} {asks : Http.Sent → Prop}
    {reads : Http.Sent → Except SessionError α} {retries : RetryClass} {w : World (State τ)}
    {made : List Http.Sent} {ended : Outcome α × World (State τ)}
    (h : Series asks reads retries w made ended) (console : κ)
    (next : α → World (State τ) → Work (State τ) κ) :
    (∃ a x, made.getLast? = some x ∧ reads x = .ok a ∧
      Work.andThen console ended next = next a ended.2) ∨
    (∀ x ∈ made, ∃ e, reads x = .error e) ∧
      ∃ failure, Work.andThen console ended next = Work.failed console ended.2 failure := by
  have hfailed : (∀ a, ended.1 ≠ .finished (.ok a)) → ∀ x ∈ made, ∃ e, reads x = .error e := by
    intro hne x hx
    -- An answer that is read well ends its operation well.
    cases hreads : reads x with
    | error e => exact ⟨e, rfl⟩
    | ok a => exact absurd (h.ok_of_mem hx hreads) (hne a)
  rcases ended with ⟨(e | a) | _ | _, w'⟩
  · exact .inr ⟨hfailed fun a => by simp, .worker e, rfl⟩
  · rcases (h.ok_iff a).mp rfl with ⟨x, hlast, hreads⟩
    exact .inl ⟨a, x, hlast, hreads, rfl⟩
  · exact .inr ⟨hfailed fun a => by simp, .beyondClock, rfl⟩
  · exact .inr ⟨hfailed fun a => by simp, .unfinished, rfl⟩

/-- A console takes all of these pieces. -/
def Prints (c : Console κ) (pieces : List Console.Piece) (before after : κ) : Prop :=
  c.putAll pieces before = (.ok (), after)

/-- Work goes on after something was printed, or fails because it was not. In the
    first case the console has taken all pieces, and in either case printing has
    done nothing outside. -/
theorem printing_cases (c : Console κ) (pieces : List Console.Piece) (failure : String → Failure)
    (console : κ) (w : World (State τ)) (next : κ → Work (State τ) κ) :
    (∃ after, Prints c pieces console after ∧
      Work.printing c pieces failure console w next = next after) ∨
    ∃ after reason, c.putAll pieces console = (.error reason, after) ∧
      Work.printing c pieces failure console w next = Work.failed after w (failure reason) := by
  unfold Work.printing Prints
  rcases c.putAll pieces console with ⟨reason | _, after⟩
  · exact .inr ⟨after, reason, rfl, rfl⟩
  · exact .inl ⟨after, rfl, rfl⟩

/-- What is printed behind something else is printed after it. -/
theorem Prints.append {c : Console κ} {front behind : List Console.Piece}
    {before between after : κ} (hfront : Prints c front before between)
    (hbehind : Prints c behind between after) : Prints c (front ++ behind) before after :=
  Console.putAll_append_eq_ok_iff.mpr ⟨between, hfront, hbehind⟩

/-- The exit code for some work. It is zero for work that did not fail. -/
def exitOf (work : Work (State τ) κ) : Nat := (work.failure.map Failure.exitCode).getD 0

theorem exitOf_failed (console : κ) (w : World (State τ)) (failure : Failure) :
    exitOf (Work.failed console w failure) ≠ 0 :=
  Failure.exitCode_ne_zero failure

/-! ## The requests of a command -/

/-- The last of some claims was answered with a reference. -/
def Yields (claims : List Http.Sent) (reference : Reference) : Prop :=
  ∃ x, claims.getLast? = some x ∧ x.claimed = .ok reference

/-- The reference is that of the last answer, so there is one only. -/
theorem Yields.unique {claims : List Http.Sent} {reference reference' : Reference}
    (h : Yields claims reference) (h' : Yields claims reference') : reference = reference' := by
  rcases h with ⟨x, hlast, hok⟩
  rcases h' with ⟨x', hlast', hok'⟩
  obtain rfl := Option.some.inj (hlast.symm.trans hlast')
  exact Except.ok.inj (hok.symm.trans hok')

/-- The last of some fetches was answered with the message behind a reference. -/
def Shows (fetches : List Http.Sent) (reference : Reference) (message : Message) : Prop :=
  ∃ x, fetches.getLast? = some x ∧ x.answer (.fetch reference.eventId) = .ok message

/-- The acknowledgment of a command that settles what it has printed. It replaces
    nothing. -/
def settlement (filter : Bool) : Acknowledgment := ⟨[], [], filter⟩

/-- These requests ask for work, and no more than the last of them can have got any:
    all others found nothing, which is why there was another one. -/
structure ClaimsOnce (config : Config) (claims : List Http.Sent) : Prop where
  claim : ∀ x ∈ claims, x.IsClaim (.ofConfig config) config.endpoints
  once : ∀ x ∈ claims.dropLast, x.foundNothing = true

/-- These requests fetch what was claimed, and the reference to it was printed before
    the first of them. -/
def FetchesClaimed (config : Config) (c : Console κ) (before : κ)
    (claims fetches : List Http.Sent) : Prop :=
  ∀ x ∈ fetches, ∃ reference between, Yields claims reference ∧
    Prints c [.text (line reference.text)] before between ∧
    x.IsFor (.ofConfig config) config.endpoints (.fetch reference.eventId)

/-- A command that settles what it claims has sent these requests in turn, brought
    its console from one state to another, and ended in this way. -/
structure Processed (config : Config) (filter : Bool) (c : Console κ) (before after : κ)
    (exit : Nat) (claims fetches settlements : List Http.Sent) : Prop
    extends ClaimsOnce config claims where
  fetch : FetchesClaimed config c before claims fetches
  /-- It settles what it has claimed and fetched, once the whole message is printed,
      and it prints nothing after that. -/
  settle : ∀ x ∈ settlements, ∃ reference message, Yields claims reference ∧
    Shows fetches reference message ∧
    Prints c (.text (line reference.text) :: pieces message) before after ∧
    x.IsFor (.ofConfig config) config.endpoints
      (.acknowledge reference.ackId (settlement filter)) ∧
    x.request.body = some (Json.object [("filter", .bool filter)]).toBytes
  /-- It does not settle again what is settled. -/
  failed : ∀ x ∈ settlements.dropLast, ∃ reference e, Yields claims reference ∧
    x.answer (.acknowledge reference.ackId (settlement filter)) = .error e
  exit_iff : exit = 0 ↔ ∃ x ∈ settlements, ∃ reference, Yields claims reference ∧
    x.answer (.acknowledge reference.ackId (settlement filter)) = .ok ()

theorem ofOptions_filter (filter : Bool) :
    Acknowledgment.ofOptions (if filter then [.filter] else []) = settlement filter := by
  cases filter <;> rfl

/-- There is nothing but the filter in its body. -/
theorem body?_settlement (filter : Bool) :
    (settlement filter).body? = some (Json.object [("filter", .bool filter)]).toBytes := rfl

theorem body_of_isFor {c : Client} {list : List Url} {ackId : String} {filter : Bool}
    {x : Http.Sent} (h : x.IsFor c list (.acknowledge ackId (settlement filter))) :
    x.request.body = some (Json.object [("filter", .bool filter)]).toBytes := by
  rcases h with ⟨endpoint, -, task, written, addressed⟩
  rw [Http.task_of_body? (body?_settlement filter)] at written
  obtain rfl := Except.ok.inj written
  rw [addressed]
  rfl

/-! ## Three operations -/

/-- Settles what was claimed, after it was printed. -/
def settleWith {σ : Type} (b : Outside σ) (rounds : Nat) (filter : Bool) (reference : Reference)
    (console : κ) (w : World σ) : Work σ κ :=
  Work.andThen console (w.ack b rounds reference (if filter then [.filter] else []))
    fun _ w => (Work.done console w).noting .settled

/-- Fetches and prints what was claimed, and settles it. -/
def fetchWith {σ : Type} (b : Outside σ) (c : Console κ) (rounds : Nat) (filter : Bool)
    (reference : Reference) (console : κ) (w : World σ) : Work σ κ :=
  Work.andThen console (w.get b rounds reference) fun message w =>
    Work.printing c (pieces message) .unprinted console w fun console =>
      settleWith b rounds filter reference console w

variable {config : Config} {filter : Bool} {c : Console κ} {before between console : κ}
  {claims fetches : List Http.Sent} {reference : Reference} {message : Message}
  {w : World (State τ)}

/-- Without a settlement, a command does not end well. Whatever it has claimed and
    fetched by then is all that it has sent. -/
theorem processed_of_failed (claimed : ClaimsOnce config claims)
    (fetch : FetchesClaimed config c before claims fetches) (after : κ) {exit : Nat}
    (hexit : exit ≠ 0) :
    Processed config filter c before after exit claims fetches [] where
  toClaimsOnce := claimed
  fetch := fetch
  settle := fun x hx => absurd hx List.not_mem_nil
  failed := fun x hx => absurd hx List.not_mem_nil
  exit_iff := by simp [hexit]

/-- What was claimed and printed is settled. It is the last operation, and the
    command ends as it does. -/
theorem processed_settleWith (t : Transport τ) (rounds : Nat) (filter : Bool)
    (claimed : ClaimsOnce config claims) (yields : Yields claims reference)
    (fetch : FetchesClaimed config c before claims fetches)
    (shows : Shows fetches reference message)
    (prints : Prints c (.text (line reference.text) :: pieces message) before console)
    (w : World (State τ)) (hlist : w.worker.endpoints.list = config.endpoints) :
    let work := settleWith (Http.outside (.ofConfig config) t) rounds filter reference console w
    ∃ settlements, work.outside.sent = settlements.reverse ++ w.outside.sent ∧
      Processed config filter c before work.console (exitOf work) claims fetches settlements := by
  intro work
  rcases Http.exists_series_ack (.ofConfig config) t rounds reference
    (if filter then [.filter] else []) w with ⟨settlements, hseries⟩
  rw [hlist, ofOptions_filter] at hseries
  -- Settling prints nothing, so what was printed before it is what is printed in the end.
  have hsettle : work.console = console → ∀ x ∈ settlements, ∃ reference message,
      Yields claims reference ∧ Shows fetches reference message ∧
      Prints c (.text (line reference.text) :: pieces message) before work.console ∧
      x.IsFor (.ofConfig config) config.endpoints
        (.acknowledge reference.ackId (settlement filter)) ∧
      x.request.body = some (Json.object [("filter", .bool filter)]).toBytes :=
    fun hconsole x hx => ⟨reference, message, yields, shows, hconsole ▸ prints,
      hseries.asked x hx, body_of_isFor (hseries.asked x hx)⟩
  -- It was asked again only where it had failed.
  have hfailed : ∀ x ∈ settlements.dropLast, ∃ reference e, Yields claims reference ∧
      x.answer (.acknowledge reference.ackId (settlement filter)) = .error e := by
    intro x hx
    rcases hseries.retried x hx with ⟨e, herror, -⟩
    exact ⟨reference, e, yields, herror⟩
  have hcases : work.outside.sent = settlements.reverse ++ w.outside.sent ∧
      work.console = console ∧ (exitOf work = 0 ↔ ∃ x ∈ settlements, ∃ reference,
        Yields claims reference ∧
        x.answer (.acknowledge reference.ackId (settlement filter)) = .ok ()) := by
    rcases andThen_cases hseries console fun _ w => (Work.done console w).noting .settled with
      ⟨_, x, hlast, hok, hwork⟩ | ⟨hnone, failure, hwork⟩
    · exact ⟨(congrArg (·.outside.sent) hwork).trans hseries.sent_eq, congrArg Work.console hwork,
        iff_of_true (congrArg exitOf hwork)
          ⟨x, List.mem_of_getLast? hlast, reference, yields, hok⟩⟩
    · refine ⟨(congrArg (·.outside.sent) hwork).trans hseries.sent_eq, congrArg Work.console hwork,
        iff_of_false (fun hend => ?_) ?_⟩
      · exact exitOf_failed _ _ failure ((congrArg exitOf hwork).symm.trans hend)
      · rintro ⟨x, hx, reference', yields', hok⟩
        -- No answer was read well, but this one would have been.
        rcases hnone x hx with ⟨e, herror⟩
        rw [yields'.unique yields, herror] at hok
        exact absurd hok (by simp)
  rcases hcases with ⟨hsent, hconsole, hsucceeds⟩
  exact ⟨settlements, hsent, claimed, fetch, hsettle hconsole, hfailed, hsucceeds⟩

/-- What was claimed is fetched and printed, and then settled. -/
theorem processed_fetchWith (t : Transport τ) (rounds : Nat) (filter : Bool)
    (claimed : ClaimsOnce config claims) (yields : Yields claims reference)
    (prints : Prints c [.text (line reference.text)] before between) (w : World (State τ))
    (hlist : w.worker.endpoints.list = config.endpoints) :
    let work := fetchWith (Http.outside (.ofConfig config) t) c rounds filter reference between w
    ∃ fetches settlements,
      work.outside.sent = settlements.reverse ++ fetches.reverse ++ w.outside.sent ∧
      Processed config filter c before work.console (exitOf work) claims fetches settlements := by
  intro work
  rcases Http.exists_series_get (.ofConfig config) t rounds reference w with ⟨fetches, hseries⟩
  rw [hlist] at hseries
  have hfetch : FetchesClaimed config c before claims fetches :=
    fun x hx => ⟨reference, between, yields, prints, hseries.asked x hx⟩
  rcases andThen_cases hseries between fun message w =>
      Work.printing c (pieces message) .unprinted between w fun console =>
        settleWith (Http.outside (.ofConfig config) t) rounds filter reference console w with
    ⟨message, x, hlast, hok, hwork⟩ | ⟨-, failure, hwork⟩
  · rcases printing_cases c (pieces message) .unprinted between _ fun console =>
        settleWith (Http.outside (.ofConfig config) t) rounds filter reference console _ with
      ⟨console, hprints, hprinted⟩ | ⟨after, reason, -, hprinted⟩
    · have hwork : work = _ := hwork.trans hprinted
      rcases processed_settleWith t rounds filter claimed yields hfetch ⟨x, hlast, hok⟩
        (prints.append hprints) _ (hseries.list_eq.trans hlist) with
        ⟨settlements, hsent, hprocessed⟩
      rw [hwork]
      refine ⟨fetches, settlements, ?_, hprocessed⟩
      rw [hsent, hseries.sent_eq, List.append_assoc]
    · -- The message came, but the console refused it: nothing is settled.
      have hwork : work = _ := hwork.trans hprinted
      rw [hwork]
      exact ⟨fetches, [], hseries.sent_eq,
        processed_of_failed claimed hfetch _ (exitOf_failed _ _ (.unprinted reason))⟩
  · -- No message came, so there is nothing to print.
    have hwork : work = _ := hwork
    rw [hwork]
    exact ⟨fetches, [], hseries.sent_eq,
      processed_of_failed claimed hfetch _ (exitOf_failed _ _ failure)⟩

/-- The work of a command with its worker. -/
theorem processed_executeConsume (t : Transport τ) (c : Console κ) (rounds : Nat) (filter : Bool)
    (before : κ) (w : World (State τ)) (hlist : w.worker.endpoints.list = config.endpoints)
    (hnone : w.outside.sent = []) :
    let work := executeConsume (Http.outside (.ofConfig config) t) c rounds true filter before w
    ∃ claims fetches settlements,
      work.outside.sent.reverse = claims ++ fetches ++ settlements ∧
      Processed config filter c before work.console (exitOf work) claims fetches settlements := by
  intro work
  rcases Http.exists_series_consume (.ofConfig config) t rounds w with ⟨claims, hseries⟩
  rw [hlist] at hseries
  -- A claim is retried after an answer without work, and after no other.
  have hclaimed : ClaimsOnce config claims := by
    refine ⟨hseries.asked, fun x hx => ?_⟩
    rcases hseries.retried x hx with ⟨e, herror, hretried⟩
    exact Http.Sent.foundNothing_of_retried herror hretried
  have hfirst := hseries.sent_eq
  rw [hnone, List.append_nil] at hfirst
  -- Wherever the work fails before there are fetches, the claims are all that was sent.
  have hended : ∀ after failure,
      (Work.failed after (w.consume (Http.outside (.ofConfig config) t) rounds).2
        failure).outside.sent.reverse = claims ++ [] ++ [] ∧
      Processed config filter c before after
        (exitOf (Work.failed after (w.consume (Http.outside (.ofConfig config) t) rounds).2
          failure)) claims [] [] := by
    intro after failure
    refine ⟨?_, processed_of_failed hclaimed (fun x hx => absurd hx List.not_mem_nil) _
      (exitOf_failed _ _ failure)⟩
    change (World.consume _ rounds w).2.outside.sent.reverse = _
    rw [hfirst]
    simp
  rcases andThen_cases hseries before fun reference w =>
      Work.printing c [.text (line reference.text)] .unwritable before w fun console =>
        fetchWith (Http.outside (.ofConfig config) t) c rounds filter reference console w with
    ⟨reference, x, hlast, hok, hwork⟩ | ⟨-, failure, hwork⟩
  · rcases printing_cases c [.text (line reference.text)] .unwritable before _ fun console =>
        fetchWith (Http.outside (.ofConfig config) t) c rounds filter reference console _ with
      ⟨between, hprints, hprinted⟩ | ⟨after, reason, -, hprinted⟩
    · have hwork : work = _ := hwork.trans hprinted
      rcases processed_fetchWith t rounds filter hclaimed ⟨x, hlast, hok⟩ hprints _
        (hseries.list_eq.trans hlist) with ⟨fetches, settlements, hsent, hprocessed⟩
      rw [hwork]
      refine ⟨claims, fetches, settlements, ?_, hprocessed⟩
      rw [hsent, hfirst]
      simp
    · have hwork : work = _ := hwork.trans hprinted
      rw [hwork]
      -- The console refused the reference: nothing is fetched.
      exact ⟨claims, [], [], hended after (.unwritable reason)⟩
  · -- Nothing was claimed.
    have hwork : work = _ := hwork
    rw [hwork]
    exact ⟨claims, [], [], hended before failure⟩

/-! ## The whole command -/

/-- Without a configuration nothing is sent, as there is no worker to send it. -/
theorem run_of_not_finds {around : Surroundings} {named : Option String} {command : Command}
    {arguments : List String} (hfinds : ∀ config, ¬ Finds around ⟨named, command⟩ config)
    (haccepted : Arguments.ofList arguments = .ok ⟨named, command⟩) (t : Transport τ)
    (c : Console κ) (rounds : Nat) (console : κ) (transport : τ) :
    (run t c rounds around arguments console transport).outside.sent = [] ∧
      (run t c rounds around arguments console transport).exit ≠ 0 := by
  unfold run
  simp only [haccepted]
  unfold runArguments
  -- The arguments are in order, so it is the file that cannot be read, or its check that fails.
  cases hload : (loadFile around named).1 with
  | error e =>
      simp only [hload]
      exact ⟨rfl, Failure.exitCode_ne_zero (.config none e)⟩
  | ok loaded =>
      rcases loaded with ⟨file, path⟩
      simp only [hload, runLoaded]
      cases hconfig : configure around file path command with
      | error failure =>
          exact ⟨rfl, Failure.exitCode_ne_zero failure⟩
      | ok config => exact absurd ⟨file, path, hload, hconfig⟩ (hfinds config)

/-- A claim that is to be acknowledged settles only what it has fetched and printed.
    With a configuration, its requests are claims, of which the last alone can have
    got anything, then fetches of the event that was got, then settlements of that
    unit of work, whose body has the filter and nothing else. The console took the
    reference before the first fetch, and all of the message before the first
    settlement; if it refused any piece, nothing is settled. The filter is what the
    arguments say. The command ends well just if a settlement was answered well, and
    that is its last request. -/
theorem settles_only_fetched {arguments : List String} {named : Option String}
    {ack filter : Bool} {timeout : Option Span} (t : Transport τ) (c : Console κ) (rounds : Nat)
    (around : Surroundings) (console : κ) (transport : τ)
    (accepted : Arguments.ofList arguments = .ok ⟨named, .consume ack filter timeout⟩)
    (acknowledged : "--ack" ∈ arguments) :
    let ending := run t c rounds around arguments console transport
    (filter = true ↔ "--filter" ∈ arguments) ∧
    (∀ config, Finds around ⟨named, .consume ack filter timeout⟩ config →
      ∃ claims fetches settlements,
        ending.outside.sent.reverse = claims ++ fetches ++ settlements ∧
        Processed config filter c console ending.console ending.exit claims fetches
          settlements) ∧
    ((∀ config, ¬ Finds around ⟨named, .consume ack filter timeout⟩ config) →
      ending.outside.sent = [] ∧ ending.exit ≠ 0) := by
  intro ending
  rcases consume_flags accepted with ⟨hack, hfilter⟩
  obtain rfl := hack.mpr acknowledged
  refine ⟨hfilter, fun config hfinds => ?_, fun hnone => run_of_not_finds hnone accepted t c rounds
    console transport⟩
  rcases run_of_finds hfinds (by simp) accepted t c rounds console transport with
    ⟨w, hlist, houtside, -, hexit, hconsole, hafter⟩
  rcases processed_executeConsume t c rounds filter console w hlist
    (congrArg State.sent houtside) with ⟨claims, fetches, settlements, hsent, hprocessed⟩
  refine ⟨claims, fetches, settlements, ?_, ?_⟩
  · rw [hafter]
    exact hsent
  · rw [hexit, hconsole]
    exact hprocessed

/-- Answers to a claim, twice, to a fetch, and to a settlement, twice. -/
def exchanges : List Http.Exchange :=
  [⟨.ok ⟨204, []⟩, []⟩,
    ⟨.ok ⟨200, Bytes.ofText "\x7b\"ack_id\": \"a\", \"event_id\": \"e\"\x7d"⟩, []⟩,
    ⟨.ok ⟨200, Bytes.ofText "\x7b\"content\": \"x\"\x7d"⟩, []⟩,
    ⟨.ok ⟨500, []⟩, []⟩,
    ⟨.ok ⟨200, []⟩, []⟩]

/-- With these answers the command ends well, on a console that takes everything. -/
theorem settles_only_fetched_recorded : ∃ config claims fetches settlements,
    Arguments.ofList ["consume", "--ack", "--filter"] = .ok ⟨none, .consume true true none⟩ ∧
    Finds .least ⟨none, .consume true true none⟩ config ∧
    let ending := run (.recorded shutdownSignal) .paper 3 .least
      ["consume", "--ack", "--filter"] [] (.of exchanges)
    ending.outside.sent.reverse = claims ++ fetches ++ settlements ∧
    Processed config true .paper [] ending.console ending.exit claims fetches settlements ∧
    ending.exit = 0 ∧ ending.outside.sent.length = 5 ∧ settlements ≠ [] ∧
    ending.console = Bytes.ofText "ack=a event=e\nx\n" := by
  have haccepted : Arguments.ofList ["consume", "--ack", "--filter"] =
      .ok ⟨none, .consume true true none⟩ := by decide +kernel
  have hending :
      let ending := run (.recorded shutdownSignal) .paper 3 .least
        ["consume", "--ack", "--filter"] [] (.of exchanges)
      ending.exit = 0 ∧ ending.outside.sent.length = 5 ∧
        ending.console = Bytes.ofText "ack=a event=e\nx\n" := by
    decide +kernel
  rcases hending with ⟨hexit, hlength, hprinted⟩
  have hword : EventId.IsWord "e-1" := by decide
  have hreaches : Reaches _ .least (.consume true true none) :=
    reaches_least hword.ofBody?_ofText rfl
  rcases hreaches with ⟨file, path, config, hload, hconfig, -⟩
  have hfinds : Finds .least ⟨none, .consume true true none⟩ config := ⟨file, path, hload, hconfig⟩
  rcases (settles_only_fetched (.recorded shutdownSignal) .paper 3 .least [] (.of exchanges)
    haccepted (by decide)).2.1 config hfinds with ⟨claims, fetches, settlements, hsent, hprocessed⟩
  refine ⟨config, claims, fetches, settlements, haccepted, hfinds, hsent, hprocessed, hexit,
    hlength, ?_, hprinted⟩
  rintro rfl
  rcases hprocessed.exit_iff.mp hexit with ⟨x, hx, -⟩
  exact absurd hx List.not_mem_nil

/-- A console that has no room for the content of the message. -/
def choosy : Console Unit where
  put piece _ := (if piece = .text (Bytes.ofText "x") then .error "full" else .ok (), ())

/-- It has the same answers leave the event unsettled. -/
example :
    let ending := run (.recorded shutdownSignal) choosy 3 .least ["consume", "--ack", "--filter"] ()
      (.of exchanges)
    ending.exit = 1 ∧ ending.failure = some (.unprinted "full") ∧
      ending.outside.sent.length = 3 := by
  decide +kernel

end CommandLine

end EventFlow
