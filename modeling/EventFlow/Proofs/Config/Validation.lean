import EventFlow.Proofs.Config.Layers
import EventFlow.Proofs.Text.Stripping
import EventFlow.Worker.Operations

/-!
# Validation

What the check of a configuration finds, whichever way its values were collected.

A program sets the values one by one, and a file or the variables set several at
once. The endpoints of a list replace all that were there, and one endpoint is
added to them, so their texts depend on the order of the steps (`Step.texts`); of
an identifier the last one counts. Nothing else of the steps matters to the check,
which looks for faults in the order endpoints, flow, worker, and in the endpoints
from the first on. `FirstFault` says what it may find without mentioning the
check, and the check fails exactly with what it says (`build_eq_error_iff`).

A configuration that passed has nothing left to be refused. A rotation looks at the
endpoints again and accepts them, since both checks ask for the same
(`usable_iff`), so all that can keep a worker from starting is that its first
connect fails.

## Main definitions

* `Settings.Step`: What a program can do with the settings.
* `Settings.collect`: What comes of several steps.
* `Url.Fit`, `Url.Accepts`: What is asked of an endpoint.
* `Settings.FirstFault`: The first thing that is wrong with settings.
* `Config.Sound`: What a configuration that passed is like.

## Theorems

* `collected`: What the check sees of the steps.
* `build_eq_error_iff`: It fails with the first fault.
* `sound_of_build`: What passes is sound.
* `build_of_collect`: All of this for any steps.
-/

namespace EventFlow

/-! ## Endpoints -/

namespace Host

/-- Only a name can be written as nothing: an address has dots or colons in it. So
    whoever looks at the text of a host need not ask of what kind it is. -/
theorem text_eq_nil_iff {host : Host} : host.text = [] ↔ host.isEmpty = true := by
  cases host with
  | name s => exact List.isEmpty_iff.symm
  | ipv4 address =>
      refine iff_of_false (fun hnil => ?_) Bool.false_ne_true
      have hlength := congrArg List.length hnil
      simp only [text, Ipv4.text, List.length_append, List.length_cons, List.length_nil] at hlength
      omega
  | ipv6 pieces => exact iff_of_false (List.cons_ne_nil _ _) Bool.false_ne_true

end Host

namespace Url

/-- A URL with a path of segments and a host, some text of which is written. To such
    a one the segments of a route can be added. -/
structure Fit (u : Url) : Prop where
  path : ∃ list, u.path = .segments list
  host : ∃ authority, u.authority = some authority ∧ authority.host.text ≠ []

/-- Being fit is what the check of an endpoint asks for. -/
theorem usable_iff {u : Url} : u.isUsable = true ↔ u.Fit := by
  unfold isUsable hostText?
  constructor
  · intro h
    split at h
    · rename_i list hpath
      split at h
      · rename_i authority hauthority
        refine ⟨⟨list, hpath⟩, authority, hauthority, fun hnil => ?_⟩
        -- An empty host is none to the check.
        rw [Host.text_eq_nil_iff.mp hnil] at h
        exact Bool.false_ne_true h
      · exact absurd h Bool.false_ne_true
    · exact absurd h Bool.false_ne_true
  · rintro ⟨⟨list, hpath⟩, authority, hauthority, hhost⟩
    rw [hpath, hauthority]
    simp only [mt Host.text_eq_nil_iff.mpr hhost, Bool.false_eq_true, if_false, Option.isSome_some]

/-- A text is accepted as the endpoint that it is the URL of. -/
structure Accepts (text : String) (u : Url) : Prop where
  read : ofText text = .ok u
  fit : u.Fit

/-- What is wrong with a text that is not accepted. In the second case the error
    shows the URL as it was read, and not the text. -/
inductive Fault (text : String) : EndpointError → Prop where
  /-- It is no URL. -/
  | unread (e : UrlError) (unread : ofText text = .error e) : Fault text (.invalid text e.message)
  /-- Nothing can be addressed to its URL. -/
  | unfit (u : Url) (read : ofText text = .ok u) (unfit : ¬ u.Fit) :
      Fault text (.invalid u.text "endpoint needs a scheme and a host")

variable {text : String} {u : Url} {e : EndpointError}

/-- What is read from the text of an endpoint is what it is accepted as. -/
theorem ofEndpointText_eq_ok_iff : ofEndpointText text = .ok u ↔ Accepts text u := by
  unfold ofEndpointText checkUsable
  constructor
  · intro h
    split at h
    · cases h
    · rename_i v hread
      by_cases hfit : v.Fit
      · rw [if_pos (usable_iff.mpr hfit)] at h
        cases h
        exact ⟨hread, hfit⟩
      · rw [if_neg (mt usable_iff.mp hfit)] at h
        cases h
  · rintro ⟨hread, hfit⟩
    simp only [hread, if_pos (usable_iff.mpr hfit)]

/-- And it is refused with what is wrong with it. -/
theorem ofEndpointText_eq_error_iff : ofEndpointText text = .error e ↔ Fault text e := by
  unfold ofEndpointText checkUsable
  constructor
  · intro h
    split at h
    · rename_i e' hread
      cases h
      exact .unread e' hread
    · rename_i v hread
      -- It is a URL, so the fault must be that it is not fit.
      by_cases hfit : v.Fit
      · rw [if_pos (usable_iff.mpr hfit)] at h
        cases h
      · rw [if_neg (mt usable_iff.mp hfit)] at h
        cases h
        exact .unfit v hread hfit
  · rintro (⟨e', hread⟩ | ⟨u, hread, hfit⟩)
    · simp only [hread]
    · simp only [hread, if_neg (mt usable_iff.mp hfit)]

end Url

/-- What is done to one element after the other stops at the first that it fails
    for. So the error is that of one element, and those in front of it were done. -/
theorem mapM_eq_error_iff {α β ε : Type} {f : α → Except ε β} {list : List α} {e : ε} :
    list.mapM f = .error e ↔ ∃ before a after, list = before ++ a :: after ∧
      (∀ b ∈ before, ∃ r, f b = .ok r) ∧ f a = .error e := by
  induction list with
  | nil =>
      refine iff_of_false (fun h => ?_) ?_
      · rw [List.mapM_nil] at h
        cases h
      · rintro ⟨before, a, after, hnil, -⟩
        exact absurd hnil.symm (List.append_ne_nil_of_right_ne_nil _ (List.cons_ne_nil _ _))
  | cons first list ih =>
      rw [List.mapM_cons]
      cases hfirst : f first with
      | error e' =>
          -- It fails for the first one, so nothing comes before that.
          constructor
          · intro h
            cases h
            exact ⟨[], first, list, rfl, nofun, hfirst⟩
          · rintro ⟨before, a, after, hlist, hbefore, ha⟩
            cases before with
            | nil =>
                obtain ⟨rfl, rfl⟩ := List.cons.inj hlist
                rw [Except.error.inj (hfirst.symm.trans ha)]
                rfl
            | cons b before =>
                obtain ⟨rfl, rfl⟩ := List.cons.inj hlist
                rcases hbefore _ (.head _) with ⟨r, hr⟩
                cases hfirst.symm.trans hr
      | ok r =>
          -- The first one is done, so the error comes from the rest.
          have hrest : (do let r' ← Except.ok r; let rs ← list.mapM f; pure (r' :: rs)) = .error e ↔
              list.mapM f = .error e := by
            cases list.mapM f with
            | error e' => exact Iff.rfl
            | ok rs => exact iff_of_false (fun h => nomatch h) (fun h => nomatch h)
          rw [hrest, ih]
          constructor
          · rintro ⟨before, a, after, rfl, hbefore, ha⟩
            exact ⟨first :: before, a, after, rfl,
              List.forall_mem_cons.mpr ⟨⟨r, hfirst⟩, hbefore⟩, ha⟩
          · rintro ⟨before, a, after, hlist, hbefore, ha⟩
            cases before with
            | nil =>
                obtain ⟨rfl, rfl⟩ := List.cons.inj hlist
                cases hfirst.symm.trans ha
            | cons b before =>
                obtain ⟨rfl, rfl⟩ := List.cons.inj hlist
                exact ⟨before, a, after, rfl, (List.forall_mem_cons.mp hbefore).2, ha⟩

/-- It succeeds if it does for each of them. -/
theorem exists_mapM_iff {α β ε : Type} {f : α → Except ε β} {list : List α} :
    (∃ rs, list.mapM f = .ok rs) ↔ ∀ a ∈ list, ∃ r, f a = .ok r := by
  induction list with
  | nil => exact iff_of_true ⟨[], rfl⟩ nofun
  | cons first list ih =>
      rw [List.forall_mem_cons, ← ih, List.mapM_cons]
      -- An error of the first ends it, and one of the rest does, so it is both or none.
      cases f first with
      | error e => exact iff_of_false (fun ⟨_, h⟩ => nomatch h) (fun ⟨⟨_, h⟩, _⟩ => nomatch h)
      | ok r =>
          cases list.mapM f with
          | error e => exact iff_of_false (fun ⟨_, h⟩ => nomatch h) (fun ⟨_, _, h⟩ => nomatch h)
          | ok rs => exact iff_of_true ⟨_, rfl⟩ ⟨⟨_, rfl⟩, _, rfl⟩

namespace Settings

/-! ## Steps -/

/-- What a program can do with the values collected so far. -/
inductive Step where
  /-- Endpoints in place of all others, as a list with commas. -/
  | endpoints (list : String)
  /-- One more endpoint. -/
  | endpoint (text : String)
  | flowId (id : String)
  | workerId (id : String)
  | consumeTimeout (limit : Span)
  | httpTimeout (limit : Span)
  | maxIntake (limit : UInt64)
  | userAgent (agent : String)
  | backoff (policy : Policy)
  /-- What some variables say. -/
  | environment (lookup : String → Option String)
  /-- What a file says. -/
  | file (entries : FileConfig)

/-- The values after a step. Only a file or the variables can fail here, as only
    they are texts that have to be read. -/
def Step.apply (s : Settings) : Step → Except ConfigError Settings
  | .endpoints list => .ok (s.withEndpoints list)
  | .endpoint text => .ok (s.withEndpoint text)
  | .flowId id => .ok (s.withFlowId id)
  | .workerId id => .ok (s.withWorkerId id)
  | .consumeTimeout limit => .ok (s.withConsumeTimeout limit)
  | .httpTimeout limit => .ok (s.withHttpTimeout limit)
  | .maxIntake limit => .ok (s.withMaxIntake limit)
  | .userAgent agent => .ok (s.withUserAgent agent)
  | .backoff policy => .ok (s.withBackoff policy)
  | .environment lookup => s.applyVariables lookup
  | .file entries => s.applyFile entries

/-- The values after several steps, from none on. -/
def collect (steps : List Step) : Except ConfigError Settings := steps.foldlM Step.apply empty

/-- The texts of the endpoints after a step. -/
def Step.texts (texts : List String) : Step → List String
  | .endpoints list => splitList list
  | .endpoint text => texts ++ [text]
  | .environment lookup => ((said? lookup "RAVEN_URL").map splitList).getD texts
  | .file entries =>
    if entries.endpoints = [] then texts else splitList (",".intercalate entries.endpoints)
  | _ => texts

/-- The identifier of the flow that a step gives. -/
def Step.flowId? : Step → Option String
  | .flowId id => some id
  | .environment lookup => said? lookup "FLOW_ID"
  | .file entries => entries.flowId
  | _ => none

/-- The identifier of the worker that a step gives. -/
def Step.workerId? : Step → Option String
  | .workerId id => some id
  | .environment lookup => said? lookup "WORKER_ID"
  | .file entries => entries.workerId
  | _ => none

section

variable {s s' : Settings} {step : Step} {steps : List Step}

/-- Variables are a layer, as an environment is. So what is known of layers holds of
    variables that a program looks up itself. -/
theorem applyVariables_eq_under {lookup : String → Option String}
    (h : s.applyVariables lookup = .ok s') : ∃ environment : Environment,
      environment.lookup = lookup ∧ s' = s.under (.ofEnvironment environment) := by
  let environment : Environment := fun name => (lookup name).map Bytes.ofText
  -- Every text is the text of some bytes, so there is an environment with these variables.
  have hlookup : environment.lookup = lookup := by
    funext name
    simp only [Environment.lookup, environment, Option.bind_map]
    cases lookup name with
    | none => rfl
    | some text => exact Bytes.text?_ofText text
  refine ⟨environment, hlookup, ?_⟩
  rw [← hlookup] at h
  by_cases hlegible : environment.Legible
  · exact Except.ok.inj (h.symm.trans (applyEnvironment_of_legible s hlegible))
  · rcases applyEnvironment_of_not_legible hlegible with ⟨e, he⟩
    cases h.symm.trans (he s)

/-- A file that was applied is a layer. -/
theorem applyFile_eq_under {file : FileConfig} (h : s.applyFile file = .ok s') :
    s' = s.under (.ofFile file) := by
  by_cases hlegible : file.Legible
  · exact Except.ok.inj (h.symm.trans (applyFile_of_legible s hlegible))
  · rcases applyFile_of_not_legible hlegible with ⟨e, he⟩
    cases h.symm.trans (he s)

/-- What a step does to the values that are checked. The steps that set nothing else
    than limits and policies leave all three alone. -/
theorem checked_apply (h : step.apply s = .ok s') : s'.endpoints = step.texts s.endpoints ∧
    s'.flowId = step.flowId?.or s.flowId ∧ s'.workerId = step.workerId?.or s.workerId := by
  cases step with
  | environment lookup =>
      rcases applyVariables_eq_under h with ⟨environment, rfl, rfl⟩
      exact ⟨rfl, rfl, rfl⟩
  | file entries =>
      obtain rfl := applyFile_eq_under h
      refine ⟨?_, rfl, rfl⟩
      -- An empty list leaves the endpoints that were there.
      by_cases hnil : entries.endpoints = []
      · simp only [under, Layer.ofFile, Step.texts, hnil, List.isEmpty_nil, if_true,
          Option.getD_none]
      · simp only [under, Layer.ofFile, Step.texts, List.isEmpty_iff, hnil, if_false,
          Option.getD_some]
  | endpoints | endpoint | flowId | workerId | consumeTimeout | httpTimeout | maxIntake
  | userAgent | backoff =>
      cases h
      exact ⟨rfl, rfl, rfl⟩

/-- What was given last counts, and what was there before if nothing was given. -/
theorem getLast?_filterMap_cons {α β : Type} (f : α → Option β) (a : α) (list : List α)
    (before : Option β) : ((a :: list).filterMap f).getLast?.or before =
      (list.filterMap f).getLast?.or ((f a).or before) := by
  cases hf : f a with
  | none => rw [List.filterMap_cons_none hf, Option.none_or]
  | some b =>
      rw [List.filterMap_cons_some hf, List.getLast?_cons]
      cases (list.filterMap f).getLast? <;> rfl

/-- What the check sees of several steps. Endpoints are carried along, as a step can
    add to them, and of the identifiers the last one counts. -/
theorem checked_foldlM (h : steps.foldlM Step.apply s = .ok s') :
    s'.endpoints = steps.foldl Step.texts s.endpoints ∧
    s'.flowId = (steps.filterMap Step.flowId?).getLast?.or s.flowId ∧
    s'.workerId = (steps.filterMap Step.workerId?).getLast?.or s.workerId := by
  induction steps generalizing s with
  | nil =>
      cases h
      exact ⟨rfl, rfl, rfl⟩
  | cons step steps ih =>
      rw [List.foldlM_cons] at h
      cases hstep : step.apply s with
      | error e =>
          rw [hstep] at h
          cases h
      | ok s₁ =>
          rw [hstep] at h
          rcases checked_apply hstep with ⟨hendpoints, hflowId, hworkerId⟩
          rcases ih h with ⟨hendpoints', hflowId', hworkerId'⟩
          rw [getLast?_filterMap_cons, getLast?_filterMap_cons, List.foldl_cons, ← hendpoints,
            ← hflowId, ← hworkerId]
          exact ⟨hendpoints', hflowId', hworkerId'⟩

/-- The texts of the endpoints that steps collect: those of the last list, and
    behind them those that were added since. -/
def texts (steps : List Step) : List String := steps.foldl Step.texts []

/-- The identifier of the flow that steps give last. -/
def lastFlowId? (steps : List Step) : Option String := (steps.filterMap Step.flowId?).getLast?

/-- The identifier of the worker that steps give last. -/
def lastWorkerId? (steps : List Step) : Option String := (steps.filterMap Step.workerId?).getLast?

/-- What the check sees of the steps. -/
theorem collected (h : collect steps = .ok s) : s.endpoints = texts steps ∧
    s.flowId = lastFlowId? steps ∧ s.workerId = lastWorkerId? steps := by
  rcases checked_foldlM h with ⟨hendpoints, hflowId, hworkerId⟩
  exact ⟨hendpoints, hflowId.trans Option.or_none, hworkerId.trans Option.or_none⟩

end

/-! ## Faults -/

/-- An identifier was given, and not all of it is white space. -/
def Named (id : Option String) : Prop :=
  ∃ text, id = some text ∧ ∃ c ∈ text.toList, Text.isBlank c = false

/-- An identifier passes if it has a character that is no white space. -/
theorem exists_identifier?_iff {id : Option String} :
    (∃ checked, identifier? id = some checked) ↔ Named id := by
  have hblank : ∀ text : String,
      Text.trim text = "" ↔ ∀ c ∈ text.toList, Text.isBlank c = true := by
    intro text
    rw [← Text.strip_eq_nil_iff, Text.trim, ← String.toList_inj, String.toList_ofList]
    rfl
  simp only [identifier?_eq_some_iff, Named]
  constructor
  · rintro ⟨checked, text, rfl, rfl, hne⟩
    exact ⟨text, rfl, by simpa [hblank] using hne⟩
  · rintro ⟨text, rfl, hnamed⟩
    exact ⟨_, text, rfl, rfl, by simpa [hblank] using hnamed⟩

/-- And it is missing otherwise. -/
theorem identifier?_eq_none_iff {id : Option String} : identifier? id = none ↔ ¬ Named id := by
  rw [← exists_identifier?_iff, Option.eq_none_iff_forall_ne_some, not_exists]

/-- The first thing that is wrong with the texts of endpoints and two identifiers.
    Each case says that nothing in front of it is wrong, so that there is one at
    most. -/
inductive FirstFault (texts : List String) (flowId workerId : Option String) :
    ConfigError → Prop where
  /-- There are no endpoints. -/
  | missing (empty : texts = []) : FirstFault texts flowId workerId (.endpoint .missing)
  /-- One of them is not accepted, and all in front of it are. -/
  | endpoint (before : List String) (text : String) (after : List String) (e : EndpointError)
      (found : texts = before ++ text :: after) (accepted : ∀ t ∈ before, ∃ u, Url.Accepts t u)
      (fault : Url.Fault text e) : FirstFault texts flowId workerId (.endpoint e)
  /-- All are accepted, and the flow has no name. -/
  | flowId (given : texts ≠ []) (accepted : ∀ t ∈ texts, ∃ u, Url.Accepts t u)
      (unnamed : ¬ Named flowId) : FirstFault texts flowId workerId .missingFlowId
  /-- The flow has one, and the worker has none. -/
  | workerId (given : texts ≠ []) (accepted : ∀ t ∈ texts, ∃ u, Url.Accepts t u)
      (named : Named flowId) (unnamed : ¬ Named workerId) :
      FirstFault texts flowId workerId .missingWorkerId

section

variable {s : Settings} {e : ConfigError}

/-- Where there are endpoints, the check of them is that of one after the other. -/
theorem endpointUrls_of_ne_nil (h : s.endpoints ≠ []) :
    s.endpointUrls = (s.endpoints.mapM Url.ofEndpointText).mapError .endpoint := by
  unfold endpointUrls
  rw [if_neg (by simpa using h)]
  cases s.endpoints.mapM Url.ofEndpointText <;> rfl

/-- Endpoints that are all accepted are read. -/
theorem exists_endpointUrls (hne : s.endpoints ≠ [])
    (accepted : ∀ t ∈ s.endpoints, ∃ u, Url.Accepts t u) : ∃ urls, s.endpointUrls = .ok urls := by
  simp only [← Url.ofEndpointText_eq_ok_iff] at accepted
  rcases exists_mapM_iff.mpr accepted with ⟨urls, hurls⟩
  exact ⟨urls, by rw [endpointUrls_of_ne_nil hne, hurls]; rfl⟩

/-- The check fails with a first fault. The cases follow the order in which it
    looks. -/
theorem build_of_firstFault (h : FirstFault s.endpoints s.flowId s.workerId e) :
    s.build = .error e := by
  unfold build
  cases h with
  | missing empty => simp only [endpointUrls, empty, List.isEmpty_nil, if_true]
  | endpoint before text after e found accepted fault =>
      simp only [← Url.ofEndpointText_eq_ok_iff] at accepted
      have hne : s.endpoints ≠ [] :=
        found ▸ List.append_ne_nil_of_right_ne_nil _ (List.cons_ne_nil _ _)
      -- The endpoints are read up to that one.
      have hstops := mapM_eq_error_iff.mpr
        ⟨before, text, after, found, accepted, Url.ofEndpointText_eq_error_iff.mpr fault⟩
      simp only [endpointUrls_of_ne_nil hne, hstops, Except.mapError]
  | flowId given accepted unnamed =>
      rcases exists_endpointUrls given accepted with ⟨urls, hurls⟩
      -- All endpoints pass, and the flow is looked at next.
      simp only [hurls, identifier?_eq_none_iff.mpr unnamed]
  | workerId given accepted named unnamed =>
      rcases exists_endpointUrls given accepted with ⟨urls, hurls⟩
      rcases exists_identifier?_iff.mpr named with ⟨checked, hchecked⟩
      simp only [hurls, hchecked, identifier?_eq_none_iff.mpr unnamed]

/-- What passes are endpoints that are accepted, of which there is one at least,
    and two names. -/
theorem exists_build_iff : (∃ config, s.build = .ok config) ↔ s.endpoints ≠ [] ∧
    (∀ t ∈ s.endpoints, ∃ u, Url.Accepts t u) ∧ Named s.flowId ∧ Named s.workerId := by
  constructor
  · rintro ⟨config, h⟩
    rcases build_eq_ok_iff.mp h with ⟨hurls, hflowId, hworkerId, -⟩
    rcases endpointUrls_eq_ok_iff.mp hurls with ⟨hne, hread⟩
    have haccepted := exists_mapM_iff.mp ⟨_, Url.mapM_of_read hread⟩
    simp only [Url.ofEndpointText_eq_ok_iff] at haccepted
    exact ⟨hne, haccepted, exists_identifier?_iff.mp ⟨_, hflowId⟩,
      exists_identifier?_iff.mp ⟨_, hworkerId⟩⟩
  · rintro ⟨hne, accepted, hflowId, hworkerId⟩
    rcases exists_endpointUrls hne accepted with ⟨urls, hurls⟩
    rcases exists_identifier?_iff.mpr hflowId with ⟨flowId, hflowId⟩
    rcases exists_identifier?_iff.mpr hworkerId with ⟨workerId, hworkerId⟩
    simp only [build, hurls, hflowId, hworkerId, Except.ok.injEq, exists_eq']

/-- What does not pass has a first fault. It is looked for in the order in which the
    check looks, and a check in which nothing is found would have passed. -/
theorem exists_firstFault (h : ¬ ∃ config, s.build = .ok config) :
    ∃ e, FirstFault s.endpoints s.flowId s.workerId e := by
  by_cases hne : s.endpoints = []
  · exact ⟨_, .missing hne⟩
  cases hread : s.endpoints.mapM Url.ofEndpointText with
  | error e =>
      rcases mapM_eq_error_iff.mp hread with ⟨before, text, after, found, accepted, fault⟩
      simp only [Url.ofEndpointText_eq_ok_iff] at accepted
      exact ⟨_, .endpoint before text after e found accepted
        (Url.ofEndpointText_eq_error_iff.mp fault)⟩
  | ok urls =>
      have accepted := exists_mapM_iff.mp ⟨urls, hread⟩
      simp only [Url.ofEndpointText_eq_ok_iff] at accepted
      by_cases hflowId : Named s.flowId
      · by_cases hworkerId : Named s.workerId
        · -- Nothing is missing, so it would have passed.
          exact absurd (exists_build_iff.mpr ⟨hne, accepted, hflowId, hworkerId⟩) h
        · exact ⟨_, .workerId hne accepted hflowId hworkerId⟩
      · exact ⟨_, .flowId hne accepted hflowId⟩

/-- The check fails with the first fault. -/
theorem build_eq_error_iff :
    s.build = .error e ↔ FirstFault s.endpoints s.flowId s.workerId e := by
  refine ⟨fun h => ?_, build_of_firstFault⟩
  -- It fails with the fault that there is, and a check has one result.
  rcases exists_firstFault fun ⟨_, hok⟩ => nomatch h.symm.trans hok with ⟨e', hfault⟩
  exact Except.error.inj (h.symm.trans (build_of_firstFault hfault)) ▸ hfault

end

end Settings

/-! ## What passed -/

/-- An identifier with something in it, and no white space around it. -/
structure IsTrimmed (id : String) : Prop where
  ne_empty : id ≠ ""
  trim_eq : Text.trim id = id

/-- A configuration from texts of endpoints and two identifiers, as workers rely
    on it. -/
structure Config.Sound (texts : List String) (flowId workerId : Option String) (config : Config) :
    Prop where
  /-- There is one endpoint for each text, in the same order. -/
  endpoints : List.Forall₂ Url.Accepts texts config.endpoints
  flowId : flowId.map Text.trim = some config.flowId ∧ IsTrimmed config.flowId
  workerId : workerId.map Text.trim = some config.workerId ∧ IsTrimmed config.workerId
  consumeTimeout : ∀ limit, config.consumeTimeout = some limit → limit.nanos ≠ 0
  maxIntake : ∀ limit, config.maxIntake = some limit → limit ≠ 0
  httpTimeout : config.httpTimeout.nanos ≠ 0
  /-- A rotation accepts the endpoints and begins with the first one. -/
  rotation : ∃ rotation, Endpoints.of config.endpoints = .ok rotation ∧
    rotation.list = config.endpoints ∧ rotation.position = 0

namespace Settings

variable {s : Settings} {config : Config}

/-- An identifier that passed has no white space around it, since trimming twice is
    trimming once. -/
theorem isTrimmed_of_identifier? {id : Option String} {checked : String}
    (h : identifier? id = some checked) : id.map Text.trim = some checked ∧ IsTrimmed checked := by
  rcases identifier?_eq_some_iff.mp h with ⟨text, rfl, rfl, hne⟩
  exact ⟨rfl, hne, Text.trim_trim text⟩

/-- A limit that was kept is not zero. -/
theorem nanos_ne_zero_of_filter {limit : Option Span} {kept : Span}
    (h : limit.filter (fun limit => !limit.isZero) = some kept) : kept.nanos ≠ 0 := by
  have hkept := (Option.filter_eq_some_iff.mp h).2
  simpa [Span.isZero] using hkept

/-- What passes is sound: each value was looked at, or is a default that is. -/
theorem sound_of_build (h : s.build = .ok config) :
    config.Sound s.endpoints s.flowId s.workerId := by
  rcases build_eq_ok_iff.mp h with ⟨hurls, hflowId, hworkerId, hconsume, -, hintake, hhttp, -⟩
  rcases of_of_build h with ⟨rotation, hrotation⟩
  exact {
    endpoints := by
      have hread := (endpointUrls_eq_ok_iff.mp hurls).2
      simpa only [Url.ofEndpointText_eq_ok_iff] using hread
    flowId := isTrimmed_of_identifier? hflowId
    workerId := isTrimmed_of_identifier? hworkerId
    consumeTimeout := fun limit hlimit => nanos_ne_zero_of_filter (hconsume.trans hlimit)
    maxIntake := fun limit hlimit => by
      have hkept := (Option.filter_eq_some_iff.mp (hintake.trans hlimit)).2
      simpa using hkept
    httpTimeout := by
      -- A limit of zero was dropped, and the default is another one.
      rw [← hhttp]
      cases hgiven : s.httpTimeout.filter fun limit => !limit.isZero with
      | none => decide
      | some limit => exact nanos_ne_zero_of_filter hgiven
    rotation := ⟨rotation, hrotation, Endpoints.eq_of_of hrotation⟩ }

end Settings

namespace World

variable {σ : Type}

/-- A worker whose endpoints are accepted is set up, and then only its first connect
    can fail. Setting it up asks the backend nothing. -/
theorem starts_of_rotation {config : Config} {rotation : Endpoints}
    (h : Endpoints.of config.endpoints = .ok rotation) (scene : Scene) (outside : σ) :
    ∃ w, prepare config scene outside = .ok w ∧ w.worker.config = config ∧
      w.worker.endpoints = rotation ∧
      ∀ b e, (w.launch b).1 = .error e ↔
        ∃ cause, (w.connect b).1 = .error cause ∧ e = .connect cause := by
  unfold prepare
  rw [h]
  refine ⟨_, rfl, rfl, rfl, fun b e => ?_⟩
  unfold launch
  split
  · rename_i cause w' hconnect
    simp [hconnect, eq_comm]
  · rename_i session w' hconnect
    simp [hconnect]

end World

namespace Settings

/-- The check of what any steps collected passes exactly if there are endpoints,
    all of them are accepted, and flow and worker have names; otherwise it fails
    with the first of these that is missing. What passes is sound, and a worker
    with it starts unless its first connect fails. -/
theorem build_of_collect {steps : List Step} {s : Settings} (h : collect steps = .ok s) :
    ((∃ config, s.build = .ok config) ↔ texts steps ≠ [] ∧
      (∀ t ∈ texts steps, ∃ u, Url.Accepts t u) ∧ Named (lastFlowId? steps) ∧
        Named (lastWorkerId? steps)) ∧
    (∀ e, s.build = .error e ↔
      FirstFault (texts steps) (lastFlowId? steps) (lastWorkerId? steps) e) ∧
    ∀ config, s.build = .ok config →
      config.Sound (texts steps) (lastFlowId? steps) (lastWorkerId? steps) ∧
      ∀ {σ : Type} (scene : Scene) (outside : σ),
        ∃ w, World.prepare config scene outside = .ok w ∧
          ∀ b e, (w.launch b).1 = .error e → ∃ cause, e = .connect cause := by
  rcases collected h with ⟨hendpoints, hflowId, hworkerId⟩
  rw [← hendpoints, ← hflowId, ← hworkerId]
  refine ⟨exists_build_iff, fun e => build_eq_error_iff, fun config hbuild => ?_⟩
  have hsound := sound_of_build hbuild
  refine ⟨hsound, fun scene outside => ?_⟩
  rcases hsound.rotation with ⟨rotation, hrotation, -⟩
  rcases World.starts_of_rotation hrotation scene outside with ⟨w, hw, -, -, hfails⟩
  refine ⟨w, hw, fun b e he => ?_⟩
  rcases (hfails b e).mp he with ⟨cause, -, rfl⟩
  exact ⟨cause, rfl⟩

/-- Steps of all kinds that matter to the check: a list of endpoints that replaces
    a bad one and is added to, and names that are given twice. -/
def mixed : List Step :=
  [.endpoint "localhost", .flowId " ",
    .file { FileConfig.empty with
      endpoints := ["http://10.0.0.1:8080/", " http://[::1]"], flowId := some " f\n" },
    .endpoint "http://10.0.0.2/", .workerId "v",
    .environment fun name => if name = "WORKER_ID" then some "w" else some " "]

/-- They pass, with the endpoints of the file and the one behind them. -/
theorem build_of_collect_mixed : ∃ s config, collect mixed = .ok s ∧ s.build = .ok config ∧
    config.endpoints.length = 3 ∧ config.flowId = "f" ∧ config.workerId = "w" := by
  have hcollect : collect mixed = .ok { empty with
      endpoints := ["http://10.0.0.1:8080/", "http://[::1]", "http://10.0.0.2/"],
      flowId := some " f\n", workerId := some "w" } := by decide +kernel
  rcases build_of_collect hcollect with ⟨hpasses, -, hsound⟩
  have haccepted : ∀ t ∈ texts mixed, ∃ u, Url.Accepts t u := by
    simp only [← Url.ofEndpointText_eq_ok_iff]
    refine exists_mapM_iff.mp ⟨[
      ⟨"http".toList, some ⟨[], [], .ipv4 0xa000001, some 8080⟩, .segments [[]], none, none⟩,
      ⟨"http".toList, some ⟨[], [], .ipv6 [0, 0, 0, 0, 0, 0, 0, 1], none⟩, .segments [[]], none,
        none⟩,
      ⟨"http".toList, some ⟨[], [], .ipv4 0xa000002, none⟩, .segments [[]], none, none⟩], ?_⟩
    decide +kernel
  have hflowId : Named (lastFlowId? mixed) := ⟨" f\n", by decide +kernel, 'f', by decide, by decide⟩
  have hworkerId : Named (lastWorkerId? mixed) :=
    ⟨"w", by decide +kernel, 'w', by decide, by decide⟩
  rcases hpasses.mpr ⟨by decide +kernel, haccepted, hflowId, hworkerId⟩ with ⟨config, hbuild⟩
  have hmixed := (hsound config hbuild).1
  refine ⟨_, config, hcollect, hbuild, ?_, ?_, ?_⟩
  · rw [← hmixed.endpoints.length_eq]
    decide +kernel
  · exact (Option.some.inj hmixed.flowId.1).symm.trans (by decide +kernel)
  · exact (Option.some.inj hmixed.workerId.1).symm.trans (by decide +kernel)

end Settings

end EventFlow
