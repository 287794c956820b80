import EventFlow.Backoff
import EventFlow.Endpoint
import EventFlow.Span.Reader

/-!
# Configuration

What a worker is told before it starts.

Values are collected first, from a program, the environment or a file, and checked when all are
there. Collecting never refuses an endpoint or an identifier, so a later layer can still replace
it; a worker only ever sees a configuration that was checked.

Of several faults the first is reported, in the order endpoints, flow, worker. A time limit or an
intake limit of zero means that there is none, and so hides a limit that an earlier layer gave.

## Main definitions

* `ConfigError`: why there is no configuration.
* `Settings`: the values collected so far.
* `Config`: a configuration that was checked.
* `Settings.build`: the check.
-/

namespace EventFlow

/-- Why a file could not be read or written. -/
inductive FileProblem where
  | notFound
  /-- What was read is not UTF-8. -/
  | notText
  /-- Something on the way to the file is no directory. -/
  | notDirectory
  | isDirectory
  /-- Anything else, as the system describes it. -/
  | other (reason : String)
  deriving DecidableEq, Repr, Inhabited

namespace FileProblem

/-- How a problem is shown. -/
def message : FileProblem → String
  | notFound => "No such file or directory (os error 2)"
  | notText => "stream did not contain valid UTF-8"
  | notDirectory => "Not a directory (os error 20)"
  | isDirectory => "Is a directory (os error 21)"
  | other reason => reason

end FileProblem

/-- Why there is no configuration. -/
inductive ConfigError where
  | endpoint (e : EndpointError)
  | missingFlowId
  | missingWorkerId
  /-- A text is no duration. -/
  | invalidDuration (text : String)
  /-- The value of a variable is no number. -/
  | invalidNumber (name value : String)
  /-- There is no place for a configuration file. -/
  | noHome (reason : String)
  | file (path : String) (problem : FileProblem)
  /-- A configuration file does not say what it should. -/
  | parse (reason : String)
  deriving DecidableEq, Repr, Inhabited

namespace ConfigError

/-- How an error is shown. -/
def message : ConfigError → String
  | endpoint e => e.message
  | missingFlowId => "flow id is empty (set FLOW_ID)"
  | missingWorkerId => "worker id is empty (set WORKER_ID)"
  | invalidDuration text =>
    "invalid duration " ++ Text.quoted text ++ " (expected e.g. 250ms, 5s, 1m30s)"
  | invalidNumber name value => "invalid value for " ++ name ++ ": " ++ Text.quoted value
  | noHome reason => "config directory: " ++ reason
  | file path problem => "config file " ++ path ++ ": " ++ problem.message
  | parse reason => "parse config: " ++ reason

/-- An error followed by the error behind it. -/
def chain : ConfigError → String
  | noHome reason => (noHome reason).message ++ ": " ++ reason
  | file path problem => (file path problem).message ++ ": " ++ problem.message
  | parse reason => (parse reason).message ++ ": " ++ reason
  | e => e.message

end ConfigError

/-- The span that a text denotes. -/
def parseDuration (text : String) : Except ConfigError Span :=
  match Span.ofText? text with
  | some span => .ok span
  | none => .error (.invalidDuration text)

/-- The values collected so far. -/
structure Settings where
  /-- The texts of the endpoints. -/
  endpoints : List String
  flowId : Option String
  workerId : Option String
  /-- The limit on a whole claim, polling included. -/
  consumeTimeout : Option Span
  backoff : Option Policy
  /-- The limit on the number of claims. -/
  maxIntake : Option UInt64
  /-- The limit on a single request. -/
  httpTimeout : Option Span
  userAgent : Option String
  deriving DecidableEq, Inhabited

/-- A configuration that was checked. -/
structure Config where
  /-- The endpoints in the order of their turns. -/
  endpoints : List Url
  flowId : String
  workerId : String
  /-- The limit on a whole claim, polling included. -/
  consumeTimeout : Option Span
  backoff : Policy
  /-- The limit on the number of claims. -/
  maxIntake : Option UInt64
  /-- The limit on a single request. -/
  httpTimeout : Span
  userAgent : String
  deriving DecidableEq, Inhabited

namespace Config

/-- The limit on a single request unless another one is given: five seconds. -/
def defaultHttpTimeout : Span := .ofSecs 5

/-- The user agent unless another one is given. -/
def defaultUserAgent : String := "raven-worker/0.1.0"

end Config

namespace Settings

/-- Nothing collected yet. -/
def empty : Settings := ⟨[], none, none, none, none, none, none, none⟩

/-- The entries of a list with commas, without the white space around them; blank ones do not
    count. -/
def splitList (list : String) : List String :=
  ((Text.splitAt ',' list.toList).map (Text.strip Text.isBlank)).filterMap fun entry =>
    if entry.isEmpty then none else some (String.ofList entry)

/-- Replaces the endpoints by those of a list with commas. -/
def withEndpoints (s : Settings) (list : String) : Settings :=
  { s with endpoints := splitList list }

/-- Adds an endpoint behind the others. -/
def withEndpoint (s : Settings) (text : String) : Settings :=
  { s with endpoints := s.endpoints ++ [text] }

def withFlowId (s : Settings) (id : String) : Settings := { s with flowId := some id }

def withWorkerId (s : Settings) (id : String) : Settings := { s with workerId := some id }

/-- Limits every claim; zero removes the limit. -/
def withConsumeTimeout (s : Settings) (limit : Span) : Settings :=
  { s with consumeTimeout := some limit }

def withBackoff (s : Settings) (policy : Policy) : Settings := { s with backoff := some policy }

/-- Limits the number of claims; zero removes the limit. -/
def withMaxIntake (s : Settings) (limit : UInt64) : Settings := { s with maxIntake := some limit }

/-- Limits every request; zero stands for the default. -/
def withHttpTimeout (s : Settings) (limit : Span) : Settings :=
  { s with httpTimeout := some limit }

def withUserAgent (s : Settings) (agent : String) : Settings := { s with userAgent := some agent }

/-- An identifier without the white space around it, unless nothing is left. -/
def identifier? (id : Option String) : Option String :=
  (id.map Text.trim).filter fun id => !id.isEmpty

/-- The URLs of the endpoints, or the first one at fault. -/
def endpointUrls (s : Settings) : Except ConfigError (List Url) :=
  if s.endpoints.isEmpty then .error (.endpoint .missing)
  else
    match s.endpoints.mapM Url.ofEndpointText with
    | .error e => .error (.endpoint e)
    | .ok urls => .ok urls

/-- Checks the values collected so far. -/
def build (s : Settings) : Except ConfigError Config :=
  match s.endpointUrls with
  | .error e => .error e
  | .ok endpoints =>
    match identifier? s.flowId with
    | none => .error .missingFlowId
    | some flowId =>
      match identifier? s.workerId with
      | none => .error .missingWorkerId
      | some workerId =>
        .ok {
          endpoints, flowId, workerId
          consumeTimeout := s.consumeTimeout.filter fun limit => !limit.isZero
          backoff := s.backoff.getD .standard
          maxIntake := s.maxIntake.filter fun limit => limit != 0
          httpTimeout :=
            (s.httpTimeout.filter fun limit => !limit.isZero).getD Config.defaultHttpTimeout
          userAgent := s.userAgent.getD Config.defaultUserAgent }

end Settings

end EventFlow
