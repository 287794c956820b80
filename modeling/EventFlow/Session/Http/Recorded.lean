import EventFlow.Session.Http

/-!
# Recorded transports

A run of a program over exchanges that took place before.

A program that meets a network is run again and again: each run is given the exchanges that are
known, and ends at the first request that nothing is known of. That request is then made, what came
of it is added to the record, and the program is run once more from its beginning. As its runs
depend on nothing else, each agrees with the one before as far as that went.

A run is ended by cancelling a signal while the unknown request is made and in every wait after it.

## Main definitions

* `Http.Recording`: what is known, and what is wanted.
* `Http.Transport.recorded`: the transport that plays a record.
-/

namespace EventFlow

namespace Http

/-- What is known of the network, and what a run finds that it needs to know. -/
structure Recording where
  /-- The exchanges that a run has not come to yet. -/
  known : List Exchange
  /-- The first request that nothing is known of. -/
  wanted : Option Request
  /-- The end of the last wait before that. -/
  wake : Moment

namespace Recording

/-- The record at the beginning of a run. -/
def of (known : List Exchange) : Recording := ⟨known, none, 0⟩

end Recording

/-- What an unknown request brings: a signal is cancelled. -/
def Exchange.halting (stop : SignalId) : Exchange :=
  ⟨.error .unreachable, [⟨0, [stop]⟩]⟩

/-- The transport that plays a record, and cancels a signal when that ends. -/
def Transport.recorded (stop : SignalId) : Transport Recording where
  exchange := fun request record =>
    match record.wanted, record.known with
    | none, exchange :: known => (exchange, { record with known })
    | none, [] => (.halting stop, { record with wanted := some request })
    | some _, _ => (.halting stop, record)
  wait := fun _ wake record =>
    match record.wanted with
    | none => ([], { record with wake })
    | some _ => ([⟨0, [stop]⟩], record)

end Http

end EventFlow
