import LogSpool.Fault.Engine
import LogSpool.Clock
import LogSpool.Json.Document

/-!
# Events

This module holds the events that the spool writes to its journal.  An event is a value with what
it is about; its severity, its component, its wording and its details are views of that value.

Where the events go and how a line of a log file looks is not decided here.
-/

namespace LogSpool

/-- The severities of events. -/
inductive Severity where
  | debug
  | info
  | warn
  | error
  deriving Repr, DecidableEq

/-- The name of a severity. -/
def Severity.name : Severity → String
  | .debug => "DEBUG"
  | .info => "INFO"
  | .warn => "WARN"
  | .error => "ERROR"

/-- What can happen in a spool. -/
inductive Event where
  /-- An entry went back to the head of the queue. -/
  | requeued (id : Nat)
  /-- The queue was closed and the entries in it were dropped. -/
  | closed (discarded : Nat)
  /-- A batch ended without a failed delivery. -/
  | batchComplete (processed elapsed : Nat)
  /-- A delivery failed; the entry is back in the queue. -/
  | deliveryFailed (id processed : Nat) (why : SinkError)
  /-- A delivery failed and the entry is lost. -/
  | deliveryLost (id processed : Nat) (why : SinkError) (refusal : EngineError)
  /-- A delivery was cancelled; the entry is back in the queue. -/
  | deliveryCancelled (id : Nat)
  /-- A delivery was cancelled and the entry is lost. -/
  | cancellationLost (id : Nat) (refusal : EngineError)
  /-- There was no snapshot to persist. -/
  | snapshotSkipped (why : EngineError)
  /-- A sink refused a snapshot. -/
  | snapshotRefused (why : SinkError)
  | initialized (capacity threshold batch : Nat)
  | thresholdReached (depth : Nat)
  | healthCheckFailed (why : SinkError)
  | drainStopped (why : EngineError)
  | shutdownCompleted (drained discarded : Nat)
  /-- A connection to a database was made. -/
  | connected (host database : String)
  /-- A request was answered with a server error. -/
  | requestFailed (code message : String)
  | logAccepted (id : Nat)
  deriving Repr, DecidableEq

namespace Event

/-- How severe an event is. -/
def severity : Event → Severity
  | .requeued _ | .closed _ | .batchComplete _ _ | .snapshotSkipped _ | .thresholdReached _
  | .logAccepted _ => .debug
  | .initialized _ _ _ | .shutdownCompleted _ _ | .connected _ _ => .info
  | .deliveryCancelled _ => .warn
  | .deliveryFailed _ _ _ | .deliveryLost _ _ _ _ | .cancellationLost _ _ | .snapshotRefused _
  | .healthCheckFailed _ | .drainStopped _ | .requestFailed _ _ => .error

/-- The part of the program that an event comes from. -/
def component : Event → String
  | .requeued _ | .closed _ => "buffer_engine"
  | .batchComplete _ _ | .deliveryFailed _ _ _ | .deliveryLost _ _ _ _ | .deliveryCancelled _
  | .cancellationLost _ _ | .snapshotSkipped _ => "queue_processor"
  | .snapshotRefused _ | .connected _ _ => "persistence"
  | .initialized _ _ _ | .thresholdReached _ | .healthCheckFailed _ | .drainStopped _
  | .shutdownCompleted _ _ => "engine_api"
  | .requestFailed _ _ | .logAccepted _ => "rest_server"

/-- The wording of an event. -/
def message : Event → String
  | .requeued _ => "requeued at head"
  | .closed _ => "buffer closed"
  | .batchComplete _ _ => "batch complete"
  | .deliveryFailed _ _ _ => "sink insert failed, log requeued"
  | .deliveryLost _ _ _ _ | .cancellationLost _ _ => "requeue failed, log dropped"
  | .deliveryCancelled _ => "delivery cancelled, log requeued"
  | .snapshotSkipped _ => "skipping metrics snapshot"
  | .snapshotRefused _ => "failed to persist metrics snapshot"
  | .initialized _ _ _ => "runtime initialized"
  | .thresholdReached _ => "auto-process threshold reached"
  | .healthCheckFailed _ => "sink health check failed"
  | .drainStopped _ => "final drain stopped early"
  | .shutdownCompleted _ _ => "runtime shutdown completed"
  | .connected _ _ => "postgres connection initialized"
  | .requestFailed _ _ => "request failed"
  | .logAccepted _ => "log accepted"

/-- What an event is about, by name. -/
def details : Event → List (String × Json)
  | .requeued id => [("log_id", .natural id)]
  | .closed discarded => [("discarded", .natural discarded)]
  | .batchComplete processed elapsed =>
    [("processed", .natural processed), ("elapsed_ms", .float (millisOf elapsed))]
  | .deliveryFailed id processed why =>
    [("log_id", .natural id), ("processed", .natural processed), ("error", .text why.message)]
  | .deliveryLost id processed why refusal =>
    [("log_id", .natural id), ("processed", .natural processed), ("error", .text why.message),
      ("requeue_error", .text refusal.message)]
  | .deliveryCancelled id => [("log_id", .natural id)]
  | .cancellationLost id refusal =>
    [("log_id", .natural id), ("requeue_error", .text refusal.message)]
  | .snapshotSkipped why => [("error", .text why.message)]
  | .snapshotRefused why => [("error", .text why.message)]
  | .initialized capacity threshold batch =>
    [("capacity", .natural capacity), ("auto_process_threshold", .natural threshold),
      ("batch_size", .natural batch)]
  | .thresholdReached depth => [("depth", .natural depth)]
  | .healthCheckFailed why => [("error", .text why.message)]
  | .drainStopped why => [("error", .text why.message)]
  | .shutdownCompleted drained discarded =>
    [("drained", .natural drained), ("discarded", .natural discarded)]
  | .connected host database => [("host", .text host), ("database", .text database)]
  | .requestFailed code message => [("code", .text code), ("error", .text message)]
  | .logAccepted id => [("id", .natural id)]

/-- The document of an event. -/
def document (e : Event) : Json :=
  .record ([("level", .text e.severity.name), ("component", .text e.component)] ++ e.details ++
    [("message", .text e.message)])

end Event

end LogSpool
