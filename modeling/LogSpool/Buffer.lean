import LogSpool.Metrics
import LogSpool.Fault.Engine

/-!
# The buffer

This module holds the bounded queue of entries together with the counter of their numbers and the
metrics that describe them.  Every operation is a single step: it is refused and says why, or it
takes effect as a whole.  A refusal leaves the buffer as it was, but for one more counted error
when an entry found the queue full, or no storage for it.

The buffer knows nothing of sinks, of the process-wide ledger or of the journal.  Whether there is
storage for one more entry is told to the operations that need some; where nothing is said of it,
there is.
-/

namespace LogSpool

/-- A bounded queue of entries, the oldest first. -/
structure Buffer where
  capacity : Nat
  queue : List Entry
  nextId : Nat
  metrics : Metrics
  isOpen : Bool

/-- A read-only view of the oldest entries, and the number of all of them. -/
structure Preview where
  queueDepth : Nat
  items : List Entry
  returned : Nat
  deriving Repr, DecidableEq

namespace Buffer

/-- An empty, open buffer.  A buffer that could hold nothing is refused. -/
def create (capacity : Nat) (now : Int) : Except EngineError Buffer :=
  if capacity = 0 then .error (.validation "buffer capacity must be greater than zero")
  else .ok ⟨capacity, [], 1, .initial capacity now, true⟩

/-- The number of queued entries. -/
def size (b : Buffer) : Nat :=
  b.queue.length

/-- Puts a queue into place and sets the gauges by it. -/
def withQueue (b : Buffer) (queue : List Entry) : Buffer :=
  { b with queue, metrics := b.metrics.setDepth queue.length }

/-- One more counted error. -/
def countError (b : Buffer) : Buffer :=
  { b with metrics := { b.metrics with totalErrors := b.metrics.totalErrors + 1 } }

/-- Accepts an entry at the tail of the queue. -/
def accept (b : Buffer) (f : Fields) (now : Int) : Buffer :=
  let b' := b.withQueue (b.queue ++ [Entry.ofFields b.nextId f now])
  { b' with
    nextId := b.nextId + 1
    metrics := { b'.metrics with totalIngested := b.metrics.totalIngested + 1 } }

/-- Why an entry is refused: its fields come first, then whether the buffer is open, then whether
there is room, and last whether there is storage. -/
def refusal? (b : Buffer) (f : Fields) (shortage : Option Shortage := none) :
    Option EngineError :=
  match f.fault? with
  | some fault => some (.validation fault.reason)
  | none =>
    if !b.isOpen then some .notInitialized
    else if b.capacity ≤ b.size then some (.capacityExceeded b.capacity)
    else shortage.map .allocationFailure

/-- Appends a new entry and answers with its number. -/
def enqueue (b : Buffer) (f : Fields) (now : Int) (shortage : Option Shortage := none) :
    Except EngineError Nat × Buffer :=
  match b.refusal? f shortage with
  | none => (.ok b.nextId, b.accept f now)
  | some (.capacityExceeded capacity) => (.error (.capacityExceeded capacity), b.countError)
  | some (.allocationFailure why) => (.error (.allocationFailure why), b.countError)
  | some error => (.error error, b)

/-- Removes the oldest entry, if there is one. -/
def dequeue (b : Buffer) : Except EngineError (Option Entry) × Buffer :=
  if !b.isOpen then (.error .notInitialized, b)
  else
    match b.queue with
    | [] => (.ok none, b)
    | entry :: queue => (.ok (some entry), b.withQueue queue)

/-- Puts an entry back at the head of the queue.  Where this is refused the entry stays with the
caller, and no error is counted: what to do about it is the caller's decision. -/
def requeueFront (b : Buffer) (entry : Entry) (shortage : Option Shortage := none) :
    Except EngineError Unit × Buffer :=
  if !b.isOpen then (.error .notInitialized, b)
  else if b.capacity ≤ b.size then (.error (.capacityExceeded b.capacity), b)
  else
    match shortage with
    | some why => (.error (.allocationFailure why), b)
    | none => (.ok (), b.withQueue (entry :: b.queue))

/-- Records a delivery.  A closed buffer records nothing. -/
def markProcessed (b : Buffer) (latency : Float) (now : Int) : Buffer :=
  if b.isOpen then
    { b with metrics :=
      { b.metrics with
        totalProcessed := b.metrics.totalProcessed + 1
        lastProcessingMs := latency
        lastProcessedAt := now } }
  else b

/-- Records a failure.  A closed buffer records nothing. -/
def markError (b : Buffer) : Buffer :=
  if b.isOpen then b.countError else b

/-- A reading of an open buffer. -/
def read {α : Type} (b : Buffer) (view : Buffer → α) : Except EngineError α :=
  if b.isOpen then .ok (view b) else .error .notInitialized

/-- The metrics of the moment. -/
def snapshot (b : Buffer) : Except EngineError Metrics :=
  b.read Buffer.metrics

/-- The number of queued entries. -/
def depth (b : Buffer) : Except EngineError Nat :=
  b.read Buffer.size

/-- The oldest entries, at most `n` of them. -/
def preview (b : Buffer) (n : Nat) : Except EngineError Preview :=
  b.read fun b =>
    let items := b.queue.take n
    ⟨b.size, items, items.length⟩

/-- Drops every entry and closes the buffer; answers with the number of entries dropped.  Closing
a closed buffer does nothing. -/
def close (b : Buffer) : Nat × Buffer :=
  if b.isOpen then (b.size, { b.withQueue [] with isOpen := false }) else (0, b)

end Buffer

/-- The document of an entry. -/
def Entry.document (e : Entry) : Json :=
  .record [
    ("id", .natural e.id),
    ("level", .text e.level),
    ("source", .text e.source),
    ("message", .text e.message),
    ("ingested_at_ms", .integer e.ingestedAt)]

/-- The document of a preview. -/
def Preview.document (p : Preview) : Json :=
  .record [
    ("queue_depth", .natural p.queueDepth),
    ("items", .list (p.items.map Entry.document)),
    ("returned", .natural p.returned)]

end LogSpool
