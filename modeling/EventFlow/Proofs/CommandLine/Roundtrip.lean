import EventFlow.CommandLine.Run
import EventFlow.Proofs.CommandLine.Arguments
import EventFlow.Proofs.Config.Layers
import EventFlow.Proofs.Endpoint.Checked
import EventFlow.Proofs.Http.Failover
import EventFlow.Proofs.Http.Storage

/-!
# From the Command Line and Back

What is printed of an event that was published from the command line.

A publication splits each metadata text at its first equals sign and sends keys
and values in a body, and printing puts them together again. Nothing is lost on
the way: the text of an entry is its key, an equals sign and its value, whatever
else is in it, and a body is read as the message that it was written for. So
what is printed is told by the arguments alone (`shown`), and neither the splits
nor the body occur in it.

Both commands succeed at their first attempt, since nothing comes between the
beginning of a command and that attempt, and a success is reported in any case.
The second command names the event by its identifier, and an argument that
begins with a hyphen is taken for an option. Such an identifier has to stand
behind a divider.

## Main definitions

* `shown`: What is printed of an event.
* `printed`: What is printed of a message, all pieces together.
* `Reaches`: A command whose requests get to the backend.
* `Finds`: The configuration of a command.
* `IsFetch`: Arguments that fetch an event.
* `Surroundings.least`: Variables that tell a worker what it needs.

## Theorems

* `printed_eq`: Printing undoes the splits.
* `run_of_finds`: A command is the work of its worker.
* `published_of_storage`, `fetched_of_storage`: What the two commands print.
* `shown_of_get`: What was published is printed, or nothing is sent.
* `not_shown_hyphen`: An identifier that is taken for an option.
-/

namespace EventFlow

namespace CommandLine

variable {τ κ : Type} {t : Http.Transport τ} {id content : String} {metas : List String}
  {around : Surroundings} {command : Command} {rounds : Nat}

/-! ## Printing -/

/-- What is printed of an event with a content and some metadata texts: the texts,
    one per line, an empty line behind them if there are any, and the content,
    with the end of a line if it does not end with one. -/
def shown (content : String) (metas : List String) : Bytes :=
  metas.flatMap line ++ (if metas.isEmpty then [] else line "") ++ Bytes.ofText content ++
    (if content.toList.getLast? = some '\n' then [] else line "")

/-- What is printed of a message, all pieces together. -/
def printed (m : Message) : Bytes := (pieces m).flatMap Console.Piece.bytes

/-- The pieces are the entries, each on a line, an empty line behind them if there
    are any, and the content, with a line end if it lacks one. -/
theorem printed_eq_append (m : Message) : printed m =
    (m.metadata.flatMap fun entry => line (entry.key ++ "=" ++ entry.value)) ++
      (if m.metadata.isEmpty then [] else line "") ++ m.content ++
      (if m.content.getLast? = some 0x0a then [] else line "") := by
  unfold printed pieces
  simp only [List.flatMap_append, List.flatMap_map, List.flatMap_cons, List.flatMap_nil]
  split <;> split <;> simp [Console.Piece.bytes]

/-- The lines that entries are printed on are the texts that they were read from. -/
theorem lines_eq (hall : ∀ m ∈ metas, IsEntry m) :
    ((metas.filterMap metadata?).flatMap fun entry => line (entry.key ++ "=" ++ entry.value)) =
      metas.flatMap line := by
  induction metas with
  | nil => rfl
  | cons m metas ih =>
      rcases Option.isSome_iff_exists.mp (hall m (.head _)).2 with ⟨entry, hentry⟩
      rw [List.filterMap_cons_some hentry, List.flatMap_cons, List.flatMap_cons,
        text_of_metadata? hentry, ih fun m' hm' => hall m' (.tail _ hm')]

/-- Entries are all kept, so there are none only if there were no texts. -/
theorem isEmpty_filterMap (hall : ∀ m ∈ metas, IsEntry m) :
    (metas.filterMap metadata?).isEmpty = metas.isEmpty := by
  cases metas with
  | nil => rfl
  | cons m metas =>
      rcases Option.isSome_iff_exists.mp (hall m (.head _)).2 with ⟨entry, hentry⟩
      rw [List.filterMap_cons_some hentry]
      rfl

/-- Printing puts together what was split. -/
theorem printed_eq (hall : ∀ m ∈ metas, IsEntry m) (content : String) :
    printed { Message.ofText content with metadata := metas.filterMap metadata? } =
      shown content metas := by
  -- Printing looks at the last byte, and the arguments have a last character.
  have hlast : (Bytes.ofText content).getLast? = some 0x0a ↔
      content.toList.getLast? = some '\n' := by
    rw [Bytes.ofText_eq]
    exact Bytes.getLast?_ofChars (d := '\n') (by decide)
  rw [printed_eq_append]
  unfold shown
  simp only [lines_eq hall, isEmpty_filterMap hall, Message.ofText, hlast]

/-! ## Commands that reach the backend -/

/-- The configuration that a command finds is in order, its requests can be sent,
    and all of its endpoints lead to the backend. -/
def Reaches (backend : Http.Storage t id) (around : Surroundings) (command : Command) : Prop :=
  ∃ file path config, (loadFile around none).1 = .ok (file, path) ∧
    configure around file path command = .ok config ∧ (Http.Client.ofConfig config).Sends ∧
    ∀ base ∈ config.endpoints, backend.own (base.extend ["flow", config.flowId, "events"]).segments

/-- A command that needs a worker has one that was just launched. -/
theorem execute_eq {config : Config} {e : Endpoints} (t : Http.Transport τ) (c : Console κ)
    (rounds : Nat) (he : Endpoints.of config.endpoints = .ok e) (hcommand : command ≠ .config)
    (path : String) (console : κ) (transport : τ) :
    ∃ w : World (Http.State τ),
      execute (Http.outside (.ofConfig config) t) c rounds command config path console
          ⟨transport, []⟩ =
        executeWith (Http.outside (.ofConfig config) t) c rounds command console w ∧
      w.worker.endpoints = e ∧ w.outside = ⟨transport, []⟩ ∧
      w.scene.check w.worker.shutdown none = none := by
  -- Connecting always succeeds, and leaves clock and signals as they are.
  have hexecute : ∀ w : World (Http.State τ),
      World.prepare config beginning ⟨transport, []⟩ = .ok w →
        execute (Http.outside (.ofConfig config) t) c rounds command config path console
            ⟨transport, []⟩ =
          executeWith (Http.outside (.ofConfig config) t) c rounds command console
            (w.launch (Http.outside (.ofConfig config) t)).2 := by
    intro w hw
    unfold execute
    cases command with
    | config => exact absurd rfl hcommand
    | consume ack filter timeout => simp only [hw]; rfl
    | get eventId ackId => simp only [hw]; rfl
    | ack ackId eventId content metadata filter => simp only [hw]; rfl
    | produce content metadata => simp only [hw]; rfl
  -- The rotation was accepted, and setting up a worker needs nothing else.
  have hprepare : World.prepare config beginning (⟨transport, []⟩ : Http.State τ) =
      .ok ⟨⟨config, e, shutdownSignal, none, 0, 0, 0⟩, ⟨0, beginning.signals.fresh.2⟩,
        ⟨transport, []⟩, []⟩ := by
    unfold World.prepare
    rw [he]
    rfl
  exact ⟨_, hexecute _ hprepare, rfl, rfl, rfl⟩

/-- The configuration that a command finds. -/
def Finds (around : Surroundings) (arguments : Arguments) (config : Config) : Prop :=
  ∃ file path, (loadFile around arguments.config).1 = .ok (file, path) ∧
    configure around file path arguments.command = .ok config

/-- What a command prints and how it ends is up to the work of its worker. There is
    one, as a configuration that was found has passed the check of its endpoints. -/
theorem run_of_finds {named : Option String} {config : Config} {arguments : List String}
    (hfinds : Finds around ⟨named, command⟩ config) (hcommand : command ≠ .config)
    (haccepted : Arguments.ofList arguments = .ok ⟨named, command⟩) (t : Http.Transport τ)
    (c : Console κ) (rounds : Nat) (console : κ) (transport : τ) :
    ∃ w : World (Http.State τ),
      w.worker.endpoints.list = config.endpoints ∧ w.outside = ⟨transport, []⟩ ∧
      w.scene.check w.worker.shutdown none = none ∧
      let work := executeWith (Http.outside (.ofConfig config) t) c rounds command console w
      let ending := run t c rounds around arguments console transport
      ending.exit = (work.failure.map Failure.exitCode).getD 0 ∧ ending.console = work.console ∧
        ending.outside = work.outside := by
  rcases hfinds with ⟨file, path, hload, hconfig⟩
  rcases configure_eq_ok_iff.mp hconfig with ⟨s, _, hbuild⟩
  rcases Settings.of_of_build hbuild with ⟨e, he⟩
  rcases execute_eq t c rounds he hcommand path console transport with
    ⟨w, hexecute, hendpoints, houtside, hcalm⟩
  refine ⟨w, by rw [hendpoints, (Endpoints.eq_of_of he).1], houtside, hcalm, ?_⟩
  unfold run
  simp only [haccepted]
  unfold runArguments
  simp only [hload, runLoaded, hconfig, hexecute]
  exact ⟨trivial, trivial, trivial⟩

/-- The same for a command whose requests reach the backend. -/
theorem run_of_reaches {backend : Http.Storage t id} {arguments : List String}
    (hreaches : Reaches backend around command) (hcommand : command ≠ .config)
    (haccepted : Arguments.ofList arguments = .ok ⟨none, command⟩) (c : Console κ) (rounds : Nat)
    (console : κ) (transport : τ) :
    ∃ (client : Http.Client) (w : World (Http.State τ)),
      backend.IsReachedFrom client w.worker.endpoints.list ∧ w.outside.transport = transport ∧
      w.scene.check w.worker.shutdown none = none ∧
      let work := executeWith (Http.outside client t) c rounds command console w
      let ending := run t c rounds around arguments console transport
      ending.exit = (work.failure.map Failure.exitCode).getD 0 ∧ ending.console = work.console ∧
        ending.outside = work.outside := by
  rcases hreaches with ⟨file, path, config, hload, hconfig, hsends, hown⟩
  rcases configure_eq_ok_iff.mp hconfig with ⟨s, _, hbuild⟩
  rcases run_of_finds ⟨file, path, hload, hconfig⟩ hcommand haccepted t c rounds console
    transport with
    ⟨w, hlist, houtside, hcalm, hrun⟩
  refine ⟨.ofConfig config, w, ⟨hsends, ?_, ?_⟩, congrArg Http.State.transport houtside,
    hcalm, hrun⟩
  · rw [hlist]
    exact fun base hbase => (Settings.base_of_build hbuild base hbase).usable
  · rw [hlist]
    exact hown

/-! ## There and back -/

variable {backend : Http.Storage t id} {message : Message} {body : Bytes} {transport : τ}

/-- A publication that reaches the backend prints the identifier, and leaves the
    body of its message there. -/
theorem published_of_storage {metadata : List Metadata} {arguments : List String}
    (hreaches : Reaches backend around (.produce content metadata))
    (hid : UrlPath.Addressable id.toList)
    (haccepted : Arguments.ofList arguments = .ok ⟨none, .produce content metadata⟩)
    (hbody : { Message.ofText content with metadata : Message }.body? = some body)
    (ready : backend.ready transport) (hrounds : 0 < rounds) :
    let ending := run t .paper rounds around arguments [] transport
    ending.exit = 0 ∧ ending.console = line id ∧
      backend.holds body ending.outside.transport := by
  rcases run_of_reaches hreaches (by simp) haccepted .paper rounds [] transport with
    ⟨c, w, reached, htransport, hcalm, hexit, hconsole, houtside⟩
  rcases Http.produce_of_storage reached hid hbody (htransport ▸ ready) hcalm hrounds with
    ⟨w', hproduced, hholds⟩
  -- The identifier that comes back is printed, and the command is over.
  have hwork : executeWith (Http.outside c t) .paper rounds (.produce content metadata) [] w =
      Work.done (line id) w' := by
    unfold executeWith
    simp only [hproduced, Work.andThen]
    rfl
  rw [hwork] at hexit hconsole houtside
  refine ⟨hexit, hconsole, ?_⟩
  rw [houtside]
  exact hholds

/-- Fetching prints the message whose body is there. -/
theorem fetched_of_storage {arguments : List String}
    (hreaches : Reaches backend around (.get id none)) (hid : UrlPath.Addressable id.toList)
    (haccepted : Arguments.ofList arguments = .ok ⟨none, .get id none⟩)
    (hbody : message.body? = some body) (holds : backend.holds body transport)
    (hrounds : 0 < rounds) :
    let ending := run t .paper rounds around arguments [] transport
    ending.exit = 0 ∧ ending.console = printed message := by
  rcases run_of_reaches hreaches (by simp) haccepted .paper rounds [] transport with
    ⟨c, w, reached, htransport, hcalm, hexit, hconsole, -⟩
  rcases Http.get_of_storage (.of "" id) rfl reached hid hbody
    (htransport ▸ holds) hcalm hrounds with ⟨w', hfetched⟩
  -- A console that takes everything has the message, piece by piece.
  have hwork : executeWith (Http.outside c t) .paper rounds (.get id none) [] w =
      Work.done (printed message) w' := by
    unfold executeWith
    simp only [Option.getD_none, hfetched, Work.andThen, Work.printing, Console.putAll_paper,
      List.nil_append]
    rfl
  rw [hwork] at hexit hconsole
  exact ⟨hexit, hconsole⟩

/-- Arguments that fetch an event. Its identifier stands behind a divider, or it
    is a hyphen, or it does not begin with one. -/
def IsFetch (arguments : List String) (id : String) : Prop :=
  arguments = ["get", "--", id] ∨
    arguments = ["get", id] ∧ (id = "-" ∨ id.toList.head? ≠ some '-')

theorem ofList_of_isFetch {arguments : List String} (h : IsFetch arguments id) :
    Arguments.ofList arguments = .ok ⟨none, .get id none⟩ := by
  rcases h with rfl | ⟨rfl, hid⟩
  · exact ofList_get_divided id
  · exact ofList_get (form_eq_plain hid)

/-- What is published under an identifier is printed when the event is fetched,
    the metadata texts in the order given; that is all there is on a console that
    takes everything. If one of them has no equals sign, or begins with one, nothing
    is sent, and the command fails unless its content asks for help. -/
theorem shown_of_get :
    (∀ (τ : Type) (t : Http.Transport τ) (id : EventId) (backend : Http.Storage t id)
        (content : String) (metas : List String) (arguments : Arguments) (fetch : List String)
        (around around' : Surroundings) (rounds rounds' : Nat) (transport : τ),
      UrlPath.Addressable id.toList →
      Arguments.ofList (produceArguments content metas) = .ok arguments → IsFetch fetch id →
      Reaches backend around arguments.command → Reaches backend around' (.get id none) →
      backend.ready transport → 0 < rounds → 0 < rounds' →
      let published := run t .paper rounds around (produceArguments content metas) [] transport
      let fetched := run t .paper rounds' around' fetch [] published.outside.transport
      published.exit = 0 ∧ published.console = line id ∧
        fetched.exit = 0 ∧ fetched.console = shown content metas) ∧
    ∀ (τ κ : Type) (t : Http.Transport τ) (c : Console κ) (content : String)
        (metas : List String) (around : Surroundings) (rounds : Nat) (console : κ) (transport : τ),
      (∃ m ∈ metas, '=' ∉ m.toList ∨ m.toList.head? = some '=') →
      let ending := run t c rounds around (produceArguments content metas) console transport
      ending.outside = ⟨transport, []⟩ ∧
        (ending.exit = 2 ∨ Arguments.ofList ["produce", content] = .error .help) := by
  refine ⟨?_, ?_⟩
  · intro τ t id backend content metas arguments fetch around around' rounds rounds' transport hid
      haccepted hfetch hpublish hget ready hrounds hrounds'
    rcases of_ofList_produce haccepted with ⟨-, hall, rfl⟩
    -- The content is a text, so there is a body for it.
    have hsome : { Message.ofText content with
        metadata := metas.filterMap metadata? : Message }.body?.isSome = true := by
      rw [Message.isSome_body?]
      exact congrArg Option.isSome (Bytes.text?_ofText content)
    rcases Option.isSome_iff_exists.mp hsome with ⟨body, hbody⟩
    rcases published_of_storage hpublish hid haccepted hbody ready hrounds with
      ⟨hexit, hconsole, hholds⟩
    rcases fetched_of_storage hget hid (ofList_of_isFetch hfetch) hbody hholds hrounds' with
      ⟨hexit', hconsole'⟩
    exact ⟨hexit, hconsole, hexit', hconsole'.trans (printed_eq hall content)⟩
  · intro τ κ t c content metas around rounds console transport ⟨m, hm, hnone⟩
    have hnot : ¬ ∀ m ∈ metas, IsEntry m := by
      intro hall
      have hentry := (hall m hm).2
      rw [metadata?_eq_none hnone] at hentry
      exact Bool.false_ne_true hentry
    -- The arguments are refused before a worker is set up, so the transport is as it was.
    rcases exitCode_of_not_entries hnot content with ⟨e, herror, hcode⟩
    unfold run
    simp only [herror]
    exact ⟨trivial, hcode⟩

end CommandLine

/-- Surroundings in which the variables tell a worker the least. -/
def Surroundings.least : Surroundings where
  lookup := fun name =>
    [("RAVEN_URL", "http://a:1/"), ("FLOW_ID", "f"), ("WORKER_ID", "w")].lookup name
  read := fun _ => .error .notFound
  home := .ok ⟨"/h", none, none⟩

namespace CommandLine

/-- With the least surroundings every command that gives no time limit reaches a
    backend that keeps one event. -/
theorem reaches_least {id : EventId} (hid : EventId.ofBody? (Bytes.ofText id) = some id)
    (hcommand : applyArguments .least command = .least) :
    Reaches (Http.Storage.keeping ["flow", "f", "events"] hid) .least command := by
  rcases Http.build_least with ⟨config, hbuild, hendpoints, hclient⟩
  -- There is no file, and the arguments give nothing: what is said is said by the variables.
  have hsettings : settings .least .empty "/h/raven/config.toml" command = .ok .least := by
    have hfile : Settings.empty.applyFile .empty = .ok .empty := by decide +kernel
    have hvariables : Settings.empty.applyVariables Surroundings.least.lookup = .ok .least := by
      decide +kernel
    unfold settings
    simp only [hfile, hvariables, hcommand]
  have hflow : config.flowId = "f" := congrArg (·.identity.flowId) hclient
  refine ⟨.empty, "/h/raven/config.toml", config, ?_, ?_, ?_, ?_⟩
  · decide +kernel
  · unfold configure
    simp only [hsettings, hbuild]
  · rw [hclient]
    exact fun url task _ => Http.refusal_plain url task
  · intro base hbase
    rw [hendpoints, List.mem_singleton] at hbase
    have haddress : Http.IsAddress ["flow", "f", "events"]
        (Url.rooted.extend ["flow", "f", "events"]).segments := by
      unfold Http.IsAddress
      decide +kernel
    rw [hbase, hflow]
    exact haddress

/-- An identifier that begins with a hyphen is printed when an event is
    published, and as an argument it is not understood. And a content that asks
    for help does so whatever the metadata is. -/
theorem not_shown_hyphen : ∃ backend : Http.Storage (.keeping ["flow", "f", "events"] "-1") "-1",
    EventId.IsWord "-1" ∧ backend.ready none ∧
    Arguments.ofList (produceArguments "x" []) = .ok ⟨none, .produce "x" []⟩ ∧
    Reaches backend .least (.produce "x" []) ∧ Reaches backend .least (.get "-1" none) ∧
    (let published := run (.keeping ["flow", "f", "events"] "-1") .paper 1 .least
      (produceArguments "x" []) [] none
    let fetched := run (.keeping ["flow", "f", "events"] "-1") .paper 1 .least ["get", "-1"] []
      published.outside.transport
    published.exit = 0 ∧ published.console = line "-1" ∧ fetched.exit = 2 ∧
      fetched.console ≠ shown "x" []) ∧
    (run (.keeping ["flow", "f", "events"] "-1") .paper 1 .least (produceArguments "-h" ["x"]) []
      none).exit = 0 := by
  have hword : EventId.IsWord "-1" := by decide
  have hpublish : Reaches (Http.Storage.keeping ["flow", "f", "events"] hword.ofBody?_ofText)
      .least (.produce "x" []) := reaches_least hword.ofBody?_ofText rfl
  have haccepted : Arguments.ofList (produceArguments "x" []) =
      .ok ⟨none, .produce "x" []⟩ := by decide +kernel
  have hready : (Http.Storage.keeping ["flow", "f", "events"] hword.ofBody?_ofText).ready none :=
    trivial
  have hbody : { Message.ofText "x" with metadata := [] : Message }.body? =
      some (Bytes.ofText "\x7b\"content\":\"x\",\"metadata\":[]\x7d") := by decide +kernel
  have hrounds : 0 < 1 := Nat.one_pos
  rcases published_of_storage hpublish (Http.addressable_of_isWord hword) haccepted hbody hready
    hrounds with ⟨hexit, hconsole, -⟩
  -- The identifier would do, but it looks like an option that there is none of.
  have hrefused : Arguments.ofList ["get", "-1"] = .error .usage := by decide +kernel
  refine ⟨.keeping _ hword.ofBody?_ofText, hword, hready, haccepted, hpublish,
    reaches_least hword.ofBody?_ofText rfl, ⟨hexit, hconsole, ?_, ?_⟩, by decide +kernel⟩
  · unfold run
    simp only [hrefused]
    rfl
  · unfold run
    simp only [hrefused]
    decide +kernel

/-- Entries with further equals signs and of one key are printed in their order,
    and with a text that is no entry nothing is sent. -/
theorem shown_of_get_repeated :
    ∃ backend : Http.Storage (.keeping ["flow", "f", "events"] "e-1") "e-1",
    UrlPath.Addressable "e-1".toList ∧
    Arguments.ofList (produceArguments "x" ["k=a=b", "n=", "k=a=b"]) =
      .ok ⟨none, .produce "x" [⟨"k", "a=b"⟩, ⟨"n", ""⟩, ⟨"k", "a=b"⟩]⟩ ∧
    IsFetch ["get", "e-1"] "e-1" ∧
    Reaches backend .least (.produce "x" [⟨"k", "a=b"⟩, ⟨"n", ""⟩, ⟨"k", "a=b"⟩]) ∧
    Reaches backend .least (.get "e-1" none) ∧ backend.ready none ∧
    (let published := run (.keeping ["flow", "f", "events"] "e-1") .paper 1 .least
      (produceArguments "x" ["k=a=b", "n=", "k=a=b"]) [] none
    let fetched := run (.keeping ["flow", "f", "events"] "e-1") .paper 1 .least ["get", "e-1"] []
      published.outside.transport
    published.console = line "e-1" ∧
      fetched.console = Bytes.ofText "k=a=b\nn=\nk=a=b\n\nx\n") ∧
    (run (.keeping ["flow", "f", "events"] "e-1") .paper 1 .least
      (produceArguments "x" ["k=a", "=b"]) [] none).outside.sent = [] := by
  have hword : EventId.IsWord "e-1" := by decide
  have hid := Http.addressable_of_isWord hword
  have haccepted : Arguments.ofList (produceArguments "x" ["k=a=b", "n=", "k=a=b"]) =
      .ok ⟨none, .produce "x" [⟨"k", "a=b"⟩, ⟨"n", ""⟩, ⟨"k", "a=b"⟩]⟩ := by decide +kernel
  have hfetch : IsFetch ["get", "e-1"] "e-1" := .inr ⟨rfl, .inr (by decide)⟩
  have hpublish : Reaches (Http.Storage.keeping ["flow", "f", "events"] hword.ofBody?_ofText)
      .least (.produce "x" [⟨"k", "a=b"⟩, ⟨"n", ""⟩, ⟨"k", "a=b"⟩]) :=
    reaches_least hword.ofBody?_ofText rfl
  have hget : Reaches (Http.Storage.keeping ["flow", "f", "events"] hword.ofBody?_ofText)
      .least (.get "e-1" none) := reaches_least hword.ofBody?_ofText rfl
  rcases shown_of_get with ⟨hshown, hnothing⟩
  rcases hshown _ _ _ (.keeping _ hword.ofBody?_ofText) "x" ["k=a=b", "n=", "k=a=b"] _
    ["get", "e-1"] .least .least 1 1 none hid haccepted hfetch hpublish hget trivial Nat.one_pos
    Nat.one_pos with ⟨-, hprinted, -, hfetched⟩
  have hsent := (hnothing _ _ (.keeping ["flow", "f", "events"] "e-1") .paper "x" ["k=a", "=b"]
    .least 1 [] none ⟨"=b", by decide, .inr (by decide)⟩).1
  refine ⟨_, hid, haccepted, hfetch, hpublish, hget, trivial, ⟨hprinted, ?_⟩, ?_⟩
  · exact hfetched.trans (by decide +kernel)
  · rw [hsent]

end CommandLine

end EventFlow
