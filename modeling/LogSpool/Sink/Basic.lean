import LogSpool.Metrics
import LogSpool.Fault.Engine

/-!
# Sinks

This module says what a sink is to the spool: something that is called with a delivery, a snapshot
or a ping, and that accepts the call, refuses it, or never answers.  While a call is pending time
may pass, and the sink may act on the very spool that calls it, as a producer.

A sink is a type of states with three operations.  `receive` starts a call and says what happens
while it is pending; `settle` ends the call with an answer.  Particular sinks are defined in the
modules beside this one.
-/

namespace LogSpool

/-- An entry as it is handed to a sink. -/
structure Delivery where
  entry : Entry
  processedAt : Int
  latency : Float

/-- The calls that a sink gets. -/
inductive Call where
  | log (delivery : Delivery)
  | snapshot (metrics : Metrics)
  | ping

/-- The name of a call's operation. -/
def Call.operation : Call → String
  | .log _ => "insert_log"
  | .snapshot _ => "insert_metrics"
  | .ping => "ping"

/-- How a call ends. -/
inductive Answer where
  | accepted
  | refused (why : SinkError)
  /-- The call never ends by itself: whoever waits for it has to give up. -/
  | stalled
  deriving Repr, DecidableEq

/-- What a sink does to the spool that is calling it, and what happens to the clocks in between. -/
inductive Intrusion where
  /-- Hands in an entry and ignores the answer. -/
  | add (fields : Fields)
  /-- Hands in the same fields until they are not accepted. -/
  | fill (fields : Fields)
  /-- Closes the buffer. -/
  | close
  /-- Lets time pass on both clocks. -/
  | wait (micros : Nat)
  /-- Waits until the wall clock has been set to a millisecond. -/
  | setWall (ms : Int)
  deriving Repr, DecidableEq

/-- What happens while a call is pending: time passes on both clocks, the wall clock is set, and
the sink intrudes, in this order.  More time may pass among the intrusions. -/
structure Disturbance where
  elapsed : Nat
  wall : Option Int
  intrusions : List Intrusion
  deriving Repr, DecidableEq

/-- Nothing happens. -/
def Disturbance.none : Disturbance :=
  ⟨0, .none, []⟩

/-- The sinks whose states are the values of `σ`. -/
class Sink (σ : Type) where
  receive : Call → σ → Disturbance × σ
  settle : Call → σ → Answer × σ
  close : σ → σ

end LogSpool
