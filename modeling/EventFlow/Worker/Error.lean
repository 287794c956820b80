import EventFlow.Config
import EventFlow.Session.Error
import EventFlow.Signal
import EventFlow.Span.Text

/-!
# Worker errors

The ways in which an operation of a worker fails.

## Main definitions

* `Operation`: what a worker can be asked.
* `WorkerError`: why an operation failed.
* `WorkerError.message`, `WorkerError.chain`: how an error is shown, alone and with what is behind
  it.
-/

namespace EventFlow

/-- What a worker can be asked. -/
inductive Operation where
  | consume
  | get
  | ack
  | produce
  deriving DecidableEq, Repr, Inhabited

/-- What an operation is called. -/
def Operation.name : Operation → String
  | .consume => "consume"
  | .get => "get"
  | .ack => "ack"
  | .produce => "produce"

/-- Why an operation failed. -/
inductive WorkerError where
  /-- The signal it observed was cancelled. -/
  | cancelled
  /-- Its deadline passed. -/
  | deadlineExceeded
  /-- As much was claimed as may be. -/
  | intakeExhausted (max : Nat)
  /-- The backoff gave up; the last error is kept. -/
  | exhausted (operation : Operation) (attempts : UInt32) (elapsed : Span) (source : SessionError)
  /-- An error that is not tried again after. -/
  | session (operation : Operation) (source : SessionError)
  /-- No session could be had at all. -/
  | connect (source : SessionError)
  | config (source : ConfigError)
  deriving DecidableEq, Inhabited

namespace WorkerError

/-- The error of an interrupt. -/
def ofInterrupt : Signals.Interrupt → WorkerError
  | .cancelled => cancelled
  | .deadlineExceeded => deadlineExceeded

/-- How an error is shown. -/
def message : WorkerError → String
  | cancelled => "operation cancelled"
  | deadlineExceeded => "deadline exceeded"
  | intakeExhausted max => "max intake of " ++ toString max ++ " message(s) reached"
  | exhausted operation attempts elapsed source =>
    operation.name ++ " failed after " ++ toString attempts ++ " attempt(s) in " ++ elapsed.text ++
      ": " ++ source.message
  | session operation source => operation.name ++ ": " ++ source.message
  | connect source => "connect: " ++ source.message
  | config source => source.message

/-- The session error behind an error. -/
def source? : WorkerError → Option SessionError
  | exhausted _ _ _ source => some source
  | session _ source => some source
  | connect source => some source
  | _ => none

/-- An error followed by the errors behind it. -/
def chain (e : WorkerError) : String :=
  match e with
  | config source => source.chain
  | e =>
    match e.source? with
    | some source => e.message ++ ": " ++ source.chain
    | none => e.message

/-- Whether an operation ended because it was cancelled or its deadline passed. -/
def isInterrupted : WorkerError → Bool
  | cancelled => true
  | deadlineExceeded => true
  | _ => false

end WorkerError

end EventFlow
