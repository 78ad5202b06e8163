import LogSpool.Fault.Trouble
import LogSpool.Storage

/-!
# Errors of the engine and of sinks

This module holds the errors that the spool and its sinks raise, with their kinds, their classes
and their texts.  An error about a delivery keeps the sink's error as its cause.
-/

namespace LogSpool

/-- An error of a sink.  `operation` names the call that failed. -/
inductive SinkError where
  | unavailable (reason : String)
  | rejected (operation reason : String)
  | backend (operation : String) (cause : Cause)
  deriving Repr, DecidableEq

namespace SinkError

/-- The name of the error's kind. -/
def kind : SinkError → String
  | .unavailable _ => "unavailable"
  | .rejected _ _ => "rejected"
  | .backend _ _ => "backend"

/-- The text of the error itself, without its causes. -/
def message : SinkError → String
  | .unavailable reason => "Sink unavailable: " ++ reason
  | .rejected operation reason => "Sink rejected " ++ operation ++ ": " ++ reason
  | .backend operation _ => "Sink backend failed during " ++ operation

/-- The causes below the error. -/
def causes : SinkError → List String
  | .backend _ cause => cause.chain
  | _ => []

/-- The error as a cause of another one. -/
def asCause (e : SinkError) : Cause :=
  ⟨e.message, e.causes⟩

end SinkError

/-- The kinds of engine errors. -/
inductive ErrorKind where
  | validationError
  | capacityExceeded
  | allocationFailure
  | persistenceError
  | requeueLoss
  | notInitialized
  deriving Repr, DecidableEq

namespace ErrorKind

/-- Every kind. -/
def all : List ErrorKind :=
  [.validationError, .capacityExceeded, .allocationFailure, .persistenceError, .requeueLoss,
    .notInitialized]

/-- The name of a kind in documents and counters. -/
def name : ErrorKind → String
  | .validationError => "validation_error"
  | .capacityExceeded => "capacity_exceeded"
  | .allocationFailure => "allocation_failure"
  | .persistenceError => "persistence_error"
  | .requeueLoss => "requeue_loss"
  | .notInitialized => "not_initialized"

/-- The kind of a name. -/
def ofName? (s : String) : Option ErrorKind :=
  all.find? (·.name = s)

/-- The class that a kind belongs to. -/
def status : ErrorKind → Status
  | .validationError => .invalidArgument
  | .capacityExceeded => .resourceExhausted
  | .allocationFailure => .internal
  | .persistenceError => .dependency
  | .requeueLoss => .dataLoss
  | .notInitialized => .unavailable

/-- A name leads back to its kind. -/
theorem ofName?_name (k : ErrorKind) : ofName? k.name = some k := by
  cases k <;> decide

end ErrorKind

/-- An error of the engine. -/
inductive EngineError where
  | validation (reason : String)
  | capacityExceeded (capacity : Nat)
  | allocationFailure (why : Shortage)
  /-- A delivery failed and the entry went back to the head of the queue. -/
  | persistence (id processed : Nat) (why : SinkError)
  /-- A delivery failed and the entry could not go back. -/
  | requeueLoss (id processed : Nat) (reason : String) (why : SinkError)
  | notInitialized
  deriving Repr, DecidableEq

namespace EngineError

/-- The kind of an error. -/
def kind : EngineError → ErrorKind
  | .validation _ => .validationError
  | .capacityExceeded _ => .capacityExceeded
  | .allocationFailure _ => .allocationFailure
  | .persistence _ _ _ => .persistenceError
  | .requeueLoss _ _ _ _ => .requeueLoss
  | .notInitialized => .notInitialized

/-- Whether the error of an entry that was handed in says that it was not accepted.  An error of a
delivery does not: the entry was accepted before. -/
def isRefusal : EngineError → Bool
  | .persistence _ _ _ | .requeueLoss _ _ _ _ => false
  | _ => true

/-- The entries that the failed batch had delivered before it stopped; zero for an error that does
not come from a delivery. -/
def processed : EngineError → Nat
  | .persistence _ processed _ => processed
  | .requeueLoss _ processed _ _ => processed
  | _ => 0

/-- The text of the error itself, without its causes. -/
def message : EngineError → String
  | .validation reason => "Invalid log entry: " ++ reason
  | .capacityExceeded capacity => "Buffer is full (" ++ toString capacity ++ " entries)"
  | .allocationFailure _ => "Failed to allocate queue storage"
  | .persistence id processed _ =>
    "Failed to persist log " ++ toString id ++ " after " ++ toString processed ++
      " in this batch; log requeued"
  | .requeueLoss id processed reason _ =>
    "Failed to persist log " ++ toString id ++ " after " ++ toString processed ++
      " in this batch; requeue rejected (" ++ reason ++ "), log dropped"
  | .notInitialized => "Log engine is not initialized"

/-- What the error was caused by. -/
def cause : EngineError → Option Cause
  | .persistence _ _ why => some why.asCause
  | .requeueLoss _ _ _ why => some why.asCause
  | .allocationFailure why => some ⟨why.message, []⟩
  | _ => none

/-- The error in the general shape of a failure. -/
def trouble (e : EngineError) : Trouble :=
  .single e.kind.status e.message e.cause

/-- The message for a client. -/
def outputMessage (e : EngineError) : String :=
  e.trouble.outputMessage

end EngineError

end LogSpool
