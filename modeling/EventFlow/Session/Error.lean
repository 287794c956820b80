/-!
# Session errors

The ways in which a call to a backend fails.

That no work is available is not a failure of the backend but its answer to a claim while the queue
is empty. A disconnected session is of no more use; every other error leaves the session as it was.

## Main definitions

* `SessionError`: why a call failed.
* `SessionError.message`, `SessionError.chain`: how an error is shown, alone and with what is
  behind it.
* `RetryClass`: which errors an operation keeps trying after.
-/

namespace EventFlow

/-- How a transfer failed, by its code. -/
structure TransferFailure where
  code : Nat
  deriving DecidableEq, Repr, Inhabited

namespace TransferFailure

/-- No connection could be made. -/
def unreachable : TransferFailure := ⟨7⟩

/-- The answer was shorter than announced. -/
def partialAnswer : TransferFailure := ⟨18⟩

/-- The time limit of the request ran out. -/
def timedOut : TransferFailure := ⟨28⟩

/-- A parameter of the request cannot be used. -/
def badParameter : TransferFailure := ⟨43⟩

/-- The connection was closed without an answer. -/
def noAnswer : TransferFailure := ⟨52⟩

/-- A text of the request cannot be passed on. -/
def badText : TransferFailure := ⟨75⟩

/-- What a failure is called. -/
def text (f : TransferFailure) : String :=
  "[" ++ toString f.code ++ "] " ++
    match f.code with
    | 7 => "Could not connect to server"
    | 18 => "Transferred a partial file"
    | 28 => "Timeout was reached"
    | 43 => "A parameter cannot be used"
    | 52 => "Server returned nothing (no headers, no data)"
    | 75 => "Conversion failed"
    | _ => "Transfer failed"

end TransferFailure

/-- Why a call to a backend failed. -/
inductive SessionError where
  /-- The queue is empty. -/
  | noWork
  | notFound
  | noContent
  | internalServerError
  /-- An answer with a status that has no meaning of its own. -/
  | status (method url : String) (code : Nat)
  | transport (failure : TransferFailure)
  /-- The body of a request could not be written. -/
  | encode (reason : String)
  /-- The body of an answer could not be read. -/
  | decode (reason : String)
  | nonUtf8Content
  | emptyEventId
  /-- The session cannot be used any more. -/
  | disconnected (reason : String)
  /-- An error that the backend itself raised. -/
  | backend (reason : String)
  deriving DecidableEq, Repr, Inhabited

namespace SessionError

/-- How an error is shown. -/
def message : SessionError → String
  | noWork => "no work available"
  | notFound => "not found"
  | noContent => "no content"
  | internalServerError => "internal server error"
  | status method url code => method ++ " " ++ url ++ " returned HTTP " ++ toString code
  | transport failure => "transport: " ++ failure.text
  | encode reason => "encode request body: " ++ reason
  | decode reason => "decode response body: " ++ reason
  | nonUtf8Content => "message content is not valid UTF-8"
  | emptyEventId => "backend returned an empty event id"
  | disconnected reason => "session disconnected: " ++ reason
  | backend reason => "backend: " ++ reason

/-- The text of the error behind an error. -/
def cause : SessionError → Option String
  | transport failure => some failure.text
  | encode reason => some reason
  | decode reason => some reason
  | _ => none

/-- An error followed by the error behind it. -/
def chain (e : SessionError) : String :=
  match e.cause with
  | some cause => e.message ++ ": " ++ cause
  | none => e.message

/-- Whether the queue was empty. -/
def isNoWork : SessionError → Bool
  | noWork => true
  | _ => false

/-- Whether the session is of no more use. -/
def isConnectionLost : SessionError → Bool
  | disconnected _ => true
  | _ => false

/-- Whether the call ended because its time limit ran out. -/
def isTimeout : SessionError → Bool
  | transport failure => failure = TransferFailure.timedOut
  | _ => false

end SessionError

/-- Which errors an operation keeps trying after. -/
inductive RetryClass where
  /-- Only the empty queue: any other error is not to be taken for one. -/
  | onlyNoWork
  /-- All of them, until the backoff gives up. -/
  | allErrors
  deriving DecidableEq, Repr, Inhabited

/-- Whether an error is one to try again after. -/
def RetryClass.retries : RetryClass → SessionError → Bool
  | .onlyNoWork, e => e.isNoWork
  | .allErrors, _ => true

end EventFlow
