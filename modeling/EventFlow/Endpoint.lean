import EventFlow.Text.Quoted
import EventFlow.Url.Reader

/-!
# Endpoints

The backends that a worker talks to, in turn.

Every request goes to the next endpoint of the list, whether the one before succeeded or not, so a
retry after a failure meets another backend and a dead one is tried again only a round later. The
rotation counts in 64 bits and starts over from zero when they are used up.

## Main definitions

* `Endpoints`: the list, never empty, and the counter.
* `Endpoints.pick`: the next endpoint.
* `Endpoints.target`: the address of a request on the next endpoint.
* `EndpointError`: why an endpoint cannot be used.
-/

namespace EventFlow

/-- Why a list of endpoints cannot be used. -/
inductive EndpointError where
  /-- There is none. -/
  | missing
  /-- One of them is no URL, or not one that requests can be addressed to. -/
  | invalid (text reason : String)
  deriving DecidableEq, Repr, Inhabited

namespace EndpointError

/-- How an error is shown. -/
def message : EndpointError → String
  | missing => "no backend endpoints configured (set RAVEN_URL)"
  | invalid text reason => "invalid endpoint " ++ Text.quoted text ++ ": " ++ reason

end EndpointError

namespace Url

/-- Refuses a URL that requests cannot be addressed to. -/
def checkUsable (u : Url) : Except EndpointError Unit :=
  if u.isUsable then .ok () else .error (.invalid u.text "endpoint needs a scheme and a host")

/-- The endpoint that a text denotes. -/
def ofEndpointText (text : String) : Except EndpointError Url :=
  match ofText text with
  | .error e => .error (.invalid text e.message)
  | .ok u =>
    match u.checkUsable with
    | .error e => .error e
    | .ok () => .ok u

end Url

/-- A rotation of endpoints. -/
structure Endpoints where
  /-- The endpoints in the order of their turns. -/
  list : List Url
  /-- There is one. -/
  list_ne_nil : list ≠ []
  /-- How often an endpoint was picked, less what no longer fits 64 bits. -/
  position : UInt64
  deriving DecidableEq

namespace Endpoints

/-- The rotation of a list of URLs, all of which must be usable. -/
def of (list : List Url) : Except EndpointError Endpoints :=
  if h : list = [] then .error .missing
  else
    match list.forM Url.checkUsable with
    | .error e => .error e
    | .ok () => .ok ⟨list, h, 0⟩

/-- The rotation with another counter. -/
def startingAt (e : Endpoints) (position : UInt64) : Endpoints := { e with position }

/-- The number of endpoints. -/
def size (e : Endpoints) : Nat := e.list.length

theorem size_pos (e : Endpoints) : 0 < e.size :=
  List.length_pos_iff.mpr e.list_ne_nil

/-- The index of the endpoint whose turn it is. -/
def turn (e : Endpoints) : Nat := e.position.toNat % e.size

theorem turn_lt (e : Endpoints) : e.turn < e.list.length :=
  Nat.mod_lt _ e.size_pos

/-- The endpoint whose turn it is. -/
def current (e : Endpoints) : Url := e.list.get ⟨e.turn, e.turn_lt⟩

/-- The rotation after a pick. -/
def advance (e : Endpoints) : Endpoints := { e with position := e.position + 1 }

/-- Picks the endpoint whose turn it is. -/
def pick (e : Endpoints) : Url × Endpoints := (e.current, e.advance)

/-- Picks an endpoint and addresses some segments on it. -/
def target (e : Endpoints) (segments : List String) : Url × Endpoints :=
  (e.current.extend segments, e.advance)

@[simp] theorem list_advance (e : Endpoints) : e.advance.list = e.list := rfl

@[simp] theorem size_advance (e : Endpoints) : e.advance.size = e.size := rfl

@[simp] theorem position_advance (e : Endpoints) : e.advance.position = e.position + 1 := rfl

end Endpoints

end EventFlow
