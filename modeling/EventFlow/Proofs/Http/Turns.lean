import EventFlow.Proofs.Http.Bodies
import EventFlow.Proofs.Http.Routes
import EventFlow.Proofs.Worker.Sessions

/-!
# Turns of the Endpoints

Which endpoint each request of a run goes to.

A trace tells what a worker asked its session for, and so what it wanted to be
sent: a task for each call, unless its body cannot be written. `InRotation` ties
the rotation and the record of what was sent to these tasks, and to nothing
else. Each task takes one turn, whichever operation it belongs to and whatever
comes of it, and what is sent is what the tasks make of their turns.

Nothing that a worker does on its own takes a turn, and a call takes at most
one, so a step is a call or a rest. `inRotation_call` is the step lemma, and
`inRotation_performAll` carries it through every run.

Where a request goes is up to the endpoint whose turn it is. The route decides
what follows, and since it begins with a word of the client's own, it never
leads out of the endpoint, whatever the names in it are.

## Main definitions

* `Client.wanted`: The tasks of a trace.
* `Client.requests`: What tasks make of their turns.
* `InRotation`: Every task took one turn.
* `Settings.paired`: A worker with two endpoints.

## Theorems

* `inRotation_call`, `inRotation_performAll`: A call and a run.
* `below_of_mem_wanted`: No request leaves its endpoint.
* `turns_taken`: Where each request of a run goes.
-/

namespace EventFlow

namespace Http

variable {τ : Type} {c : Client} {t : Transport τ} {e : Endpoints} {w w' : World (State τ)}

/-! ## Tasks and their turns -/

/-- What an event asks to be sent. A call whose body cannot be written asks for
    nothing, and neither does a connect. -/
def Client.wanted? (c : Client) : Event → Option Task
  | .call _ _ call _ => (c.task call).toOption
  | _ => none

/-- What a trace asks to be sent, in order. -/
def Client.wanted (c : Client) (trace : List Event) : List Task :=
  (trace.filterMap c.wanted?).reverse

/-- The requests for some tasks, each at the endpoint that has its turn then. They
    are made of the tasks and the rotation alone. -/
def Client.requests (c : Client) (e : Endpoints) (tasks : List Task) : List Request :=
  tasks.mapIdx fun k task => c.request ((e.later k).current.extend task.segments) task

/-- Whether a request can be sent. One that cannot has taken its turn all the same. -/
def Request.isSendable (r : Request) : Bool := (refusal r).isNone

theorem Client.wanted_cons (c : Client) (event : Event) (trace : List Event) :
    c.wanted (event :: trace) = c.wanted trace ++ (c.wanted? event).toList :=
  reverse_filterMap_cons ..

theorem Client.wanted_cons_of_isAside {event : Event} (h : event.isAside = true)
    (trace : List Event) : c.wanted (event :: trace) = c.wanted trace := by
  rw [wanted_cons]
  cases event with
  | start _ | interval _ => exact List.append_nil _
  | connect _ _ | call _ _ _ _ => exact absurd h Bool.false_ne_true

/-- One task more takes the turn after those before it. -/
theorem Client.requests_concat (c : Client) (e : Endpoints) (tasks : List Task) (task : Task) :
    c.requests e (tasks ++ [task]) = c.requests e tasks ++
      [c.request ((e.later tasks.length).current.extend task.segments) task] :=
  List.mapIdx_concat

/-- Every task took one turn of the rotation, which began with `e`, and those of
    their requests that could be sent were sent. -/
structure InRotation (c : Client) (e : Endpoints) (w : World (State τ)) : Prop where
  endpoints : w.worker.endpoints = e.later (c.wanted w.trace).length
  sent : w.outside.sent.reverse.map Sent.request =
    (c.requests e (c.wanted w.trace)).filter Request.isSendable

/-! ## Steps -/

/-- A request is added to the record if it can be sent. -/
theorem record_send (t : Transport τ) (r : Request) (s : State τ) :
    (send t r s).2.sent.reverse.map Sent.request =
      s.sent.reverse.map Sent.request ++ [r].filter Request.isSendable := by
  unfold send
  cases hr : refusal r with
  | some failure =>
      have hsendable : r.isSendable = false := by
        unfold Request.isSendable
        rw [hr]
        rfl
      rw [List.filter_cons_of_neg (Bool.not_eq_true _ ▸ hsendable), List.filter_nil,
        List.append_nil]
  | none =>
      have hsendable : r.isSendable = true := by
        unfold Request.isSendable
        rw [hr]
        rfl
      rw [List.filter_cons_of_pos hsendable, List.filter_nil]
      simp only [List.reverse_cons, List.map_append, List.map_cons, List.map_nil]

/-- A call wants its own task, if its body can be written. -/
theorem wanted_call (c : Client) (t : Transport τ) (call : Call) (w : World (State τ)) :
    c.wanted (w.call (outside c t) call).2.trace =
      c.wanted w.trace ++ (c.task call).toOption.toList := by
  have hlook : c.wanted (w.lookUp (outside c t)).2.trace = c.wanted w.trace := by
    unfold World.lookUp
    cases w.worker.slot with
    | some session => rfl
    | none => exact (c.wanted_cons _ _).trans (List.append_nil _)
  -- A lookup over HTTP finds a session, so the call is made.
  rcases World.call_eq (outside c t) call w with ⟨error, w₁, hl, -⟩ | ⟨session, w₁, hl, hcall⟩
  · rcases lookUp_outside c t w with ⟨session, w₂, hl', -⟩
    rw [hl'] at hl
    exact absurd hl (by simp)
  · rw [hl] at hlook
    rw [hcall, World.trace_settle, ← hlook]
    exact c.wanted_cons _ _

/-- A call takes a turn, if its body can be written. Its request goes to the
    endpoint that has this turn, and is on record if it could be sent. -/
theorem inRotation_call (call : Call) (h : InRotation c e w) :
    InRotation c e (w.call (outside c t) call).2 := by
  rcases call_outside c t call w with ⟨-, hendpoints, houtside⟩
  have hwanted := wanted_call c t call w
  -- Without a body neither the rotation nor the record nor what is wanted changes.
  cases hw : c.task call with
  | error error =>
      rw [call_of_unwritten hw] at hendpoints houtside
      rw [hw] at hwanted
      have hsame : c.wanted (w.call (outside c t) call).2.trace = c.wanted w.trace :=
        hwanted.trans (List.append_nil _)
      exact ⟨by rw [hendpoints, hsame]; exact h.endpoints,
        by rw [houtside, hsame]; exact h.sent⟩
  | ok task =>
      rw [call_of_task hw] at hendpoints houtside
      rw [hw] at hwanted
      have hmore : c.wanted (w.call (outside c t) call).2.trace = c.wanted w.trace ++ [task] :=
        hwanted
      constructor
      · rw [hendpoints, hmore, List.length_append, List.length_singleton, h.endpoints]
        exact e.advance_later _
      · rw [houtside, hmore, c.requests_concat, List.filter_append, ← h.sent, ← h.endpoints]
        exact record_send t _ _

/-- What a worker does on its own takes no turn. It may wait, which the outside
    hears of, but nothing is sent by that. -/
theorem InRotation.rest (h : InRotation c e w)
    (hrest : World.Resting (outside c t) w w') : InRotation c e w' := by
  have hwanted : c.wanted w'.trace = c.wanted w.trace := by
    rcases hrest.trace with heq | ⟨event, haside, heq⟩
    · rw [heq]
    · rw [heq, Client.wanted_cons_of_isAside haside]
  exact ⟨by rw [hrest.endpoints, hwanted]; exact h.endpoints,
    by rw [sent_of_waited hrest.outside, hwanted]; exact h.sent⟩

/-- A run takes its turns one after the other, whichever operations they belong to. -/
theorem inRotation_performAll (t : Transport τ) (actions : List (Nat × Action))
    (h : InRotation c e w) : InRotation c e (w.performAll (outside c t) actions).2 :=
  World.performAll_keeps (fun _ _ hw hrest => hw.rest hrest)
    (fun call _ hw => inRotation_call call hw) actions h

/-- A worker that was launched has taken no turn. -/
theorem inRotation_launch {config : Config} {scene : Scene} {transport : τ}
    {w₀ : World (State τ)} (hprepare : World.prepare config scene ⟨transport, []⟩ = .ok w₀)
    (hlaunch : w₀.launch (outside c t) = (.ok (), w)) :
    Endpoints.of config.endpoints = .ok w₀.worker.endpoints ∧
      InRotation c w₀.worker.endpoints w := by
  rw [World.prepare] at hprepare
  cases he : Endpoints.of config.endpoints with
  | error error =>
      rw [he] at hprepare
      exact absurd hprepare (by simp)
  | ok endpoints =>
      rw [he] at hprepare
      obtain rfl := Except.ok.inj hprepare
      -- Connecting over HTTP always succeeds, and the trace has nothing else yet.
      obtain rfl := (Prod.mk.inj hlaunch).2
      exact ⟨rfl, (Endpoints.later_zero _).symm, rfl⟩

/-! ## Where requests go -/

/-- Every route begins with a word of the client's own. -/
theorem plain_of_task {call : Call} {task : Task} (h : c.task call = .ok task) :
    ∃ word route, task.segments = word :: route ∧ UrlPath.Plain word.toList := by
  cases hitem : call.item? with
  | some id =>
      rcases collection_eq c call with ⟨word, kind, hcollection, hword, -⟩
      rw [segments_of_item hitem h, hcollection]
      exact ⟨word, _, rfl, hword⟩
  | none =>
      cases call with
      | claim budget =>
          obtain rfl := Except.ok.inj h
          exact ⟨_, _, rfl, plain_word (by decide)⟩
      | reserve =>
          obtain rfl := Except.ok.inj h
          exact ⟨_, _, rfl, plain_word (by decide)⟩
      | fetch eventId => exact absurd hitem (Option.some_ne_none _)
      | acknowledge ackId acknowledgment => exact absurd hitem (Option.some_ne_none _)
      | submit eventId message => exact absurd hitem (Option.some_ne_none _)

/-- No task leads out of the endpoint that it is sent to. -/
theorem below_of_mem_wanted {base : Url} (hbase : base.Base) {trace : List Event} {task : Task}
    (h : task ∈ c.wanted trace) : (base.extend task.segments).Below base := by
  unfold Client.wanted at h
  rw [List.mem_reverse, List.mem_filterMap] at h
  rcases h with ⟨event, -, hevent⟩
  -- Only calls ask for anything to be sent, and then by a route.
  cases event with
  | call began session call result =>
      cases hw : c.task call with
      | error error => exact absurd hevent (by simp [Client.wanted?, hw, Except.toOption])
      | ok task' =>
          simp only [Client.wanted?, hw, Except.toOption, Option.some.injEq] at hevent
          rcases plain_of_task hw with ⟨word, route, hsegments, hword⟩
          rw [← hevent, hsegments]
          exact Url.below_extend hbase hword route
  | connect _ _ => exact absurd hevent (by simp [Client.wanted?])
  | start _ => exact absurd hevent (by simp [Client.wanted?])
  | interval _ => exact absurd hevent (by simp [Client.wanted?])

/-- Whatever a worker does and whatever comes of it, its requests go round the
    endpoints, none of them leaves its endpoint, the position counts them, and
    those that can be sent are sent. -/
theorem turns_taken {s : Settings} {config : Config} {scene : Scene} {transport : τ}
    {w₀ : World (State τ)} (hbuild : s.build = .ok config)
    (hprepare : World.prepare config scene ⟨transport, []⟩ = .ok w₀)
    (hlaunch : w₀.launch (outside (.ofConfig config) t) = (.ok (), w))
    (actions : List (Nat × Action)) :
    let c := Client.ofConfig config
    let last := (w.performAll (outside c t) actions).2
    let tasks := c.wanted last.trace
    let requests := c.requests w₀.worker.endpoints tasks
    last.worker.endpoints.position = UInt64.ofNat requests.length ∧
    last.outside.sent.reverse.map Sent.request = requests.filter Request.isSendable ∧
    ∀ (k : Nat) (task : Task), tasks[k]? = some task → k < UInt64.size →
      ∃ base, config.endpoints[k % config.endpoints.length]? = some base ∧
        requests[k]? = some (c.request (base.extend task.segments) task) ∧
        (base.extend task.segments).Below base := by
  intro c last tasks requests
  rcases inRotation_launch hprepare hlaunch with ⟨haccepted, hlaunched⟩
  rcases Endpoints.eq_of_of haccepted with ⟨hlist, hposition⟩
  have hend : InRotation c w₀.worker.endpoints last := inRotation_performAll t actions hlaunched
  have hlength : requests.length = tasks.length := List.length_mapIdx
  refine ⟨?_, hend.sent, fun k task htask hk => ?_⟩
  · rw [hend.endpoints, hlength]
    change w₀.worker.endpoints.position + _ = _
    rw [hposition, UInt64.zero_add]
  · -- Before the counter goes round, the turn of the task is its place in the list.
    have hturn : (w₀.worker.endpoints.later k).current = w₀.worker.endpoints.nth k := by
      have hfrom : w₀.worker.endpoints.position.toNat + k = k := by
        rw [hposition]
        exact Nat.zero_add k
      rw [Endpoints.current_later (by rw [hfrom]; exact hk), hfrom]
    refine ⟨w₀.worker.endpoints.nth k, ?_, ?_, ?_⟩
    · rw [← hlist]
      exact List.getElem?_eq_getElem _
    · have hrequest : requests[k]? = tasks[k]?.map fun task =>
          c.request ((w₀.worker.endpoints.later k).current.extend task.segments) task :=
        List.getElem?_mapIdx
      rw [hrequest, htask, Option.map_some, hturn]
    · have hmem : w₀.worker.endpoints.nth k ∈ config.endpoints := hlist ▸ List.get_mem _ _
      exact below_of_mem_wanted (Settings.base_of_build hbuild _ hmem)
        (List.mem_of_getElem? htask)

end Http

/-- The endpoint that has a path. -/
def Url.pathed : Url :=
  ⟨"http".toList, some ⟨[], [], .name ['b'], none⟩, .segments ["api".toList, []], none, none⟩

/-- What has to be told to a worker with two endpoints that tries everything
    once. -/
def Settings.paired : Settings :=
  (Settings.least.withEndpoint "http://b/api/").withBackoff (.maxRetries .zero 0)

theorem Settings.build_paired :
    paired.build = .ok (.retrying [.rooted, .pathed] 0) := by decide +kernel

namespace Http

/-- The second of two requests goes to the second endpoint, and stays there
    although two dots are all that it asks for. -/
theorem turns_taken_paired : ∃ w₀ w : World (State Unit),
    Settings.paired.build = .ok (.retrying [.rooted, .pathed] 0) ∧
    World.prepare (.retrying [.rooted, .pathed] 0) ⟨0, .empty⟩ ⟨(), []⟩ = .ok w₀ ∧
    w₀.launch (outside .plain .unreachable) = (.ok (), w) ∧
    (w.performAll (outside .plain .unreachable)
      [(1, .get ⟨"a", "e", none⟩), (1, .get ⟨"a", "..", none⟩)]).2.worker.endpoints.position = 2 ∧
    (Url.pathed.extend ["flow", "f", "events", ".."]).Below .pathed := by
  have hprepare : World.prepare (.retrying [.rooted, .pathed] 0) ⟨0, .empty⟩
      (⟨(), []⟩ : State Unit) = .ok _ := rfl
  refine ⟨_, _, Settings.build_paired, hprepare, rfl, ?_⟩
  have hturns := turns_taken (t := .unreachable) Settings.build_paired hprepare rfl
    [(1, .get ⟨"a", "e", none⟩), (1, .get ⟨"a", "..", none⟩)]
  rcases hturns with ⟨hposition, -, hgoes⟩
  refine ⟨hposition.trans (by decide +kernel), ?_⟩
  rcases hgoes 1 ⟨.get, ["flow", "f", "events", ".."], none, none⟩ (by decide +kernel)
    (by decide) with ⟨base, hbase, -, hbelow⟩
  obtain rfl := Option.some.inj hbase
  exact hbelow

end Http

end EventFlow
