import EventFlow.Worker.Operations

/-!
# The log

What the program notes while it runs.

A remark has a level, a part of the program that makes it, and named fields. The texts of fields are
nobody's business here: a filter asks for levels, parts and names only. Parts are named like paths,
so that a filter can name a part together with all parts below it.

Most remarks of a worker follow from what it did, so they are read off the trace of its run.

## Main definitions

* `Log.Level`: how much a remark matters.
* `Log.Remark`: a remark; its level, part, fields and text.
* `Log.Remark.ofEvent`: the remarks on what a worker did.
-/

namespace EventFlow

namespace Log

/-- How much a remark matters, the most serious level first. -/
inductive Level where
  | error
  | warn
  | info
  | debug
  | trace
  deriving DecidableEq, Repr, Inhabited

namespace Level

/-- The number of a level. -/
def rank : Level → Nat
  | error => 1
  | warn => 2
  | info => 3
  | debug => 4
  | trace => 5

/-- What a level is called. -/
def name : Level → String
  | error => "ERROR"
  | warn => "WARN"
  | info => "INFO"
  | debug => "DEBUG"
  | trace => "TRACE"

end Level

/-- Something noted. -/
inductive Remark where
  /-- The log was opened. -/
  | opened
  /-- A configuration file was made. -/
  | fileMade
  /-- A configuration file was read. -/
  | fileRead
  /-- A session over HTTP is ready. -/
  | sessionReady
  | connected
  /-- A claim is about to be made. -/
  | claiming
  /-- A request was answered. -/
  | answered
  /-- A session was given work. -/
  | given
  /-- A worker claimed work. -/
  | claimed
  | fetched
  | acknowledged
  /-- An identifier was reserved. -/
  | reserved
  | produced
  /-- An attempt failed and is going to be repeated. -/
  | repeating
  /-- An attempt failed and is not repeated, because of its error. -/
  | notRepeating
  /-- An attempt failed and is not repeated, because there were enough. -/
  | givingUp
  /-- A command acknowledged what it claimed. -/
  | settled
  /-- A command failed. -/
  | failed
  deriving DecidableEq, Repr, Inhabited

namespace Remark

/-- The level of a remark. -/
def level : Remark → Level
  | opened | fileMade | connected | settled => .info
  | claiming | answered | reserved => .trace
  | notRepeating | givingUp | failed => .error
  | _ => .debug

/-- The part of the program that makes a remark. -/
def part : Remark → String
  | opened => "raven_core::logging"
  | fileMade => "raven_core::config::file"
  | fileRead => "raven::cli"
  | sessionReady | answered | given => "raven_core::session::http"
  | connected => "raven_core::worker"
  | claiming | claimed => "raven_core::worker::consume"
  | fetched => "raven_core::worker::get"
  | acknowledged => "raven_core::worker::ack"
  | reserved | produced => "raven_core::worker::produce"
  | repeating | notRepeating | givingUp => "raven_core::retry::run"
  | settled => "raven::cli::commands::consume"
  | failed => "raven"

/-- The names of the fields of a remark, its text being one of them. -/
def fields (remark : Remark) : List String :=
  "message" :: match remark with
    | opened => ["path"]
    | sessionReady => ["endpoints", "flow_id", "worker_id"]
    | connected => ["flow_id", "worker_id"]
    | claiming => ["attempt", "remaining"]
    | answered => ["method", "url", "code"]
    | given => ["ack_id", "event_id"]
    | claimed => ["ack_id", "event_id", "intake"]
    | fetched => ["event_id", "bytes", "metadata"]
    | acknowledged => ["ack_id", "filter", "plain"]
    | reserved => ["attempt", "event_id"]
    | produced => ["event_id", "bytes"]
    | repeating | notRepeating => ["operation", "attempt", "error"]
    | givingUp => ["operation", "attempts", "elapsed", "error"]
    | settled => ["ack_id", "filter"]
    | fileMade | fileRead | failed => []

/-- The text of a remark. -/
def text : Remark → String
  | opened => "raven worker log opened"
  | fileMade => "created default config"
  | fileRead => "loaded config"
  | sessionReady => "http session ready"
  | connected => "connected"
  | claiming => "claiming work"
  | answered => "backend response"
  | given | claimed => "claimed work"
  | fetched => "fetched event"
  | acknowledged => "acknowledged"
  | reserved => "reserved event id"
  | produced => "produced event"
  | repeating => "will retry"
  | notRepeating => "not retrying"
  | givingUp => "giving up"
  | settled => "acknowledged from cli"
  | failed => "failed"

/-- Whether a backend answered, by what came of a call. -/
def isAnswered {α : Type} : Except SessionError α → Bool
  | .ok _ => true
  | .error e =>
    match e with
    | .noWork | .notFound | .noContent | .internalServerError => true
    | .status _ _ _ | .decode _ | .emptyEventId => true
    | _ => false

/-- The remarks on a call that is made. -/
def ofCall : Call → List Remark
  | .claim _ => [claiming]
  | _ => []

/-- The remarks on a call that gave what was asked for. -/
def ofSuccess : Call → List Remark
  | .claim _ => [given, claimed]
  | .fetch _ => [fetched]
  | .acknowledge _ _ => [acknowledged]
  | .reserve => [reserved]
  | .submit _ _ => [produced]

/-- The remarks on what a worker did. -/
def ofEvent : Event → List Remark
  | .connect _ (.ok _) => [sessionReady, connected]
  | .connect _ (.error _) => []
  | .call _ _ call result =>
    ofCall call ++ (if isAnswered result then [answered] else []) ++
      match result with
      | .ok _ => ofSuccess call
      | .error _ => []
  | .start _ => []
  | .interval (some _) => [repeating]
  | .interval none => [givingUp]

/-- The remarks on how an operation ended, where they do not follow from what the worker did. -/
def ofError : WorkerError → List Remark
  | .session _ _ => [notRepeating]
  | _ => []

end Remark

end Log

end EventFlow
