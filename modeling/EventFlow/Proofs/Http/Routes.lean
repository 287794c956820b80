import EventFlow.Proofs.Endpoint.Checked
import EventFlow.Proofs.Http.Requests

/-!
# Routes

Which resource the URL of a request stands for.

A fetch, a submission and an acknowledgment are about a single item: an event in
the collection of a flow, or what a worker has to acknowledge. Both the name of
the collection and that of the item are arbitrary text, and each should be one
segment of the URL.

It is one exactly if it is addressable. A name of one dot or two is skipped, so
the request is for the collection, or for what another name stands for. A tab or
a line end is dropped, so the request is for the item without it. All other
texts are safe, slashes, percent signs and question marks included, and no two
requests for items with such names have one URL.

## Main definitions

* `Call.item?`, `Client.collection`: What a call is about.
* `Url.rooted`, `Settings.least`: An endpoint, and a worker that has it.

## Theorems

* `named_iff`: When a URL names what the call is about.
* `not_named`: It does not always.
-/

namespace EventFlow

/-- The endpoint at a port of a host. -/
def Url.rooted : Url :=
  ⟨"http".toList, some ⟨[], [], .name ['a'], some 1⟩, .segments [[]], none, none⟩

/-- What has to be told to a worker. -/
def Settings.least : Settings :=
  ((Settings.empty.withEndpoint "http://a:1/").withFlowId "f").withWorkerId "w"

theorem Url.ofText_rooted : ofText "http://a:1/" = .ok rooted := by decide +kernel

theorem Endpoints.of_rooted : of [.rooted] = .ok ⟨[.rooted], List.cons_ne_nil _ _, 0⟩ := rfl

/-- The name of the item that a call is about, if it is about one. -/
def Call.item? : Call → Option String
  | .fetch eventId => some eventId
  | .submit eventId _ => some eventId
  | .acknowledge ackId _ => some ackId
  | .claim _ => none
  | .reserve => none

namespace Http

open UrlPath (Plain Addressable)

variable {c : Client} {call : Call} {id : String} {task : Task}

/-- Whose collection the item of a call is in: a worker's, if it is something
    to acknowledge, and otherwise a flow's. -/
def Client.owner (c : Client) : Call → String
  | .acknowledge _ _ => c.identity.workerId
  | _ => c.identity.flowId

/-- The route to the collection that the item of a call is in. -/
def Client.collection (c : Client) (call : Call) : List String :=
  match call with
  | .acknowledge _ _ => ["workers", c.owner call, "ack"]
  | _ => ["flow", c.owner call, "events"]

/-- The route of a call is that to its collection, with the name of the item behind
    it. Only calls that can be written have a route. -/
theorem segments_of_item (hitem : call.item? = some id) (hwritten : c.task call = .ok task) :
    task.segments = c.collection call ++ [id] := by
  cases call with
  | claim budget => exact absurd hitem (by simp [Call.item?])
  | reserve => exact absurd hitem (by simp [Call.item?])
  | fetch eventId =>
      obtain rfl := Option.some.inj hitem
      obtain rfl := Except.ok.inj hwritten
      rfl
  | acknowledge ackId acknowledgment =>
      obtain rfl := Option.some.inj hitem
      unfold Client.task at hwritten
      cases hbody : acknowledgment.body? with
      | none => simp [hbody] at hwritten
      | some body =>
          simp only [hbody, Except.ok.injEq] at hwritten
          rw [← hwritten]
          rfl
  | submit eventId message =>
      obtain rfl := Option.some.inj hitem
      unfold Client.task at hwritten
      cases hbody : message.body? with
      | none => simp [hbody] at hwritten
      | some body =>
          simp only [hbody, Except.ok.injEq] at hwritten
          rw [← hwritten]
          rfl

/-- The words that routes are made of stand for themselves: nothing in them is
    skipped, dropped or taken for the letter of a drive. -/
theorem plain_word {word : String} (h : word ∈ ["flow", "workers", "events", "ack"]) :
    Plain word.toList where
  addressable := by
    have hall : ∀ word ∈ ["flow", "workers", "events", "ack"], Addressable word.toList := by decide
    exact hall word h
  ne_nil := by
    have hall : ∀ word ∈ ["flow", "workers", "events", "ack"], word.toList ≠ [] := by decide
    exact hall word h
  notDrive := by
    have hall : ∀ word ∈ ["flow", "workers", "events", "ack"], ∀ kind ∈ [SchemeKind.file,
        .special, .other], UrlPath.isDrive (UrlPath.encodeSegment kind word.toList) = false := by
      decide
    intro kind
    refine hall word h kind ?_
    cases kind <;> decide

/-- A collection begins with a plain word, and all else in it is addressable if
    its owner is. -/
theorem collection_eq (c : Client) (call : Call) : ∃ word kind : String,
    c.collection call = [word, c.owner call, kind] ∧ Plain word.toList ∧
      Addressable kind.toList := by
  have hack : Addressable "ack".toList := (plain_word (by decide)).addressable
  have hevents : Addressable "events".toList := (plain_word (by decide)).addressable
  cases call with
  | acknowledge ackId acknowledgment => exact ⟨_, _, rfl, plain_word (by decide), hack⟩
  | claim budget => exact ⟨_, _, rfl, plain_word (by decide), hevents⟩
  | fetch eventId => exact ⟨_, _, rfl, plain_word (by decide), hevents⟩
  | reserve => exact ⟨_, _, rfl, plain_word (by decide), hevents⟩
  | submit eventId message => exact ⟨_, _, rfl, plain_word (by decide), hevents⟩

/-- A call names its item below the endpoint exactly if the name of the item
    and that of its collection are addressable. If they are, its URL is neither
    that of the collection nor that of a call about another such item. -/
theorem named_iff {list : List Url} {e : Endpoints} {base : Url} {text : String}
    (haccepted : Endpoints.of list = .ok e) (hbase : base ∈ list)
    (hread : Url.ofText text = .ok base) (hitem : call.item? = some id)
    (hwritten : c.task call = .ok task) :
    ((base.extend task.segments).Names base (c.collection call ++ [id]) ↔
      Addressable (c.owner call).toList ∧ Addressable id.toList) ∧
    (Addressable (c.owner call).toList → Addressable id.toList →
      (base.extend task.segments).text ≠ (base.extend (c.collection call)).text ∧
      ∀ (call' : Call) (id' : String) (task' : Task), call'.item? = some id' →
        c.task call' = .ok task' → c.collection call' = c.collection call →
        Addressable id'.toList → id' ≠ id →
        (base.extend task'.segments).text ≠ (base.extend task.segments).text) := by
  have husable := Endpoints.usable_of_mem haccepted hbase
  have hsettled := Url.base_of_ofText hread husable
  rcases collection_eq c call with ⟨word, kind, hcollection, hword, hkind⟩
  -- The collection itself, and all of its items that are addressable, are named.
  have hnamed : ∀ route : List String, Addressable (c.owner call).toList →
      (∀ s ∈ route, Addressable s.toList) →
      (base.extend (c.collection call ++ route)).Names base (c.collection call ++ route) := by
    intro route howner hroute
    rw [hcollection]
    refine (Url.names_extend_iff hsettled hword).mpr fun s hs => ?_
    change s ∈ c.owner call :: kind :: route at hs
    rw [List.mem_cons, List.mem_cons] at hs
    rcases hs with rfl | rfl | hs
    · exact howner
    · exact hkind
    · exact hroute s hs
  have hitems : ∀ id : String, Addressable id.toList →
      ∀ s ∈ [id], Addressable s.toList := by
    intro id hid s hs
    rw [List.mem_singleton.mp hs]
    exact hid
  rw [segments_of_item hitem hwritten]
  refine ⟨⟨fun h => ?_, fun ⟨howner, hid⟩ => hnamed [id] howner (hitems id hid)⟩,
    fun howner hid => ⟨fun heq => ?_, ?_⟩⟩
  · -- Each name is addressable if the URL names all of them, and the words in between are so
    -- anyway.
    rw [hcollection] at h
    have hall := (Url.names_extend_iff hsettled hword).mp h
    exact ⟨hall _ (.head _), hall _ (.tail _ (.tail _ (.head _)))⟩
  · have hempty := hnamed [] howner (fun s hs => absurd hs List.not_mem_nil)
    rw [List.append_nil] at hempty
    have hroutes := Url.Names.injective husable (hnamed [id] howner (hitems id hid)) hempty heq
    have hlength := congrArg List.length hroutes
    rw [List.length_append, List.length_singleton] at hlength
    omega
  · -- Two routes in one collection differ just in the names of their items.
    intro call' id' task' hitem' hwritten' hsame hid' hne heq
    rw [segments_of_item hitem' hwritten', hsame] at heq
    have hroutes := Url.Names.injective husable (hnamed [id'] howner (hitems id' hid'))
      (hnamed [id] howner (hitems id hid)) heq
    exact hne (List.cons.inj (List.append_cancel_left hroutes)).1

/-- A worker that was told the least has one endpoint and the plain client, so what
    is shown with those can be had. -/
theorem build_least : ∃ config, Settings.least.build = .ok config ∧
    config.endpoints = [.rooted] ∧ Client.ofConfig config = .plain := by
  have hbuild : Settings.least.build.map (fun config =>
      (config.endpoints, Client.ofConfig config)) = .ok ([.rooted], .plain) := by decide +kernel
  cases hconfig : Settings.least.build with
  | error e => simp [hconfig, Except.map] at hbuild
  | ok config =>
      simp only [hconfig, Except.map, Except.ok.injEq, Prod.mk.injEq] at hbuild
      exact ⟨config, rfl, hbuild.1, hbuild.2⟩

/-- A tab in the name of an event makes the request one for another event, and
    two dots make it one for the collection, and neither names what it should. -/
theorem not_named :
    (∃ config, Settings.least.build = .ok config ∧ config.endpoints = [.rooted] ∧
      Client.ofConfig config = .plain) ∧
    (∃ tab blank, Client.plain.task (.fetch "a\tb") = .ok tab ∧
      Client.plain.task (.fetch "ab") = .ok blank ∧
      ¬ (Url.rooted.extend tab.segments).Names .rooted ["flow", "f", "events", "a\tb"] ∧
      (Url.rooted.extend tab.segments).text = (Url.rooted.extend blank.segments).text) ∧
    ∃ dots none, Client.plain.task (.fetch "..") = .ok dots ∧
      Client.plain.task .reserve = .ok none ∧
      ¬ (Url.rooted.extend dots.segments).Names .rooted ["flow", "f", "events", ".."] ∧
      (Url.rooted.extend dots.segments).text = (Url.rooted.extend none.segments).text := by
  have hbase : Url.rooted.Base := Url.base_of_ofText Url.ofText_rooted rfl
  refine ⟨build_least, ⟨_, _, rfl, rfl, fun h => ?_, by decide +kernel⟩,
    ⟨_, _, rfl, rfl, fun h => ?_, by decide +kernel⟩⟩
  · have haddressable := (Url.names_extend_iff hbase (plain_word (by decide))).mp h "a\tb" (by simp)
    exact absurd (haddressable.2.2 '\t' (by decide)) (by decide)
  · have haddressable := (Url.names_extend_iff hbase (plain_word (by decide))).mp h ".." (by simp)
    exact haddressable.2.1 rfl

/-- An event with a slash, a percent sign, a question mark and dots in its name
    is named all the same. -/
theorem named_iff_slashed :
    (∃ e, Endpoints.of [.rooted] = .ok e) ∧ Url.ofText "http://a:1/" = .ok .rooted ∧
    (∃ task, Client.plain.task (.fetch "../%2f?") = .ok task ∧
      (Url.rooted.extend task.segments).Names .rooted ["flow", "f", "events", "../%2f?"] ∧
      (Url.rooted.extend ["flow", "f", "events", "x"]).text ≠
        (Url.rooted.extend task.segments).text) := by
  have howner : Addressable (Client.plain.owner (.fetch "../%2f?")).toList := by decide
  have hid : Addressable "../%2f?".toList := by decide
  have hother : Addressable "x".toList := by decide
  have hitem : (Call.fetch "../%2f?").item? = some "../%2f?" := rfl
  rcases named_iff (c := Client.plain) Endpoints.of_rooted (List.mem_singleton.mpr rfl)
    Url.ofText_rooted hitem rfl with ⟨hiff, hapart⟩
  have hne := (hapart howner hid).2 (.fetch "x") "x"
    ⟨.get, ["flow", "f", "events", "x"], none, none⟩ rfl rfl rfl hother (by decide)
  exact ⟨⟨_, Endpoints.of_rooted⟩, Url.ofText_rooted, _, rfl, hiff.mpr ⟨howner, hid⟩, hne⟩

end Http

end EventFlow
