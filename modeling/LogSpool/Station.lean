import LogSpool.Buffer
import LogSpool.Clock
import LogSpool.Event
import LogSpool.Ledger
import LogSpool.Sink.Basic

/-!
# The station

This module holds a buffer in its surroundings: the sink it delivers to, the clocks, the storage,
the ledger of the process and the journal.  Each operation of the buffer is repeated here with its
effect on the surroundings, and the calls to a sink are made here.

A batch of deliveries is put together from these steps in `LogSpool.Batch`.
-/

namespace LogSpool

/-- A buffer in its surroundings. -/
structure Station (σ : Type) where
  buffer : Buffer
  sink : σ
  clock : Clock
  ledger : Ledger
  /-- What has happened, the latest first. -/
  journal : List Event
  /-- The entries a batch takes when the caller names no number. -/
  defaultBatch : Nat
  /-- Whether a batch or a shutdown is under way. -/
  busy : Bool
  /-- What the requests for storage will be answered. -/
  storage : Storage

/-- How a call to the spool ends: with an answer, with an error, or not at all, in which case the
caller gave up waiting and dropped it. -/
inductive Outcome (α : Type) where
  | answered (a : α)
  | failed (why : EngineError)
  | abandoned
  deriving Repr, DecidableEq

/-- The storage after an entry was to be queued.  Only where nothing else stood against the entry
was storage asked for. -/
def Storage.after {α : Type} (storage : Storage) : Except EngineError α → Storage
  | .ok _ => storage.rest
  | .error (.allocationFailure _) => storage.rest
  | .error _ => storage

/-- Ample storage stays ample. -/
theorem Storage.after_ample {α : Type} {storage : Storage} (answer : Except EngineError α)
    (h : storage = ample) : storage.after answer = ample := by
  subst h
  rcases answer with why | a
  · cases why <;> rfl
  · rfl

/-- An immediate answer as an outcome. -/
def Outcome.ofExcept {α : Type} : Except EngineError α → Outcome α
  | .ok a => .answered a
  | .error why => .failed why

namespace Station

variable {σ : Type}

/-- A station around a buffer.  Where nothing is said of storage, there is enough of it. -/
def around (buffer : Buffer) (sink : σ) (clock : Clock) (batch : Nat)
    (storage : Storage := .ample) : Station σ :=
  ⟨buffer, sink, clock, .zero, [], max batch 1, false, storage⟩

/-- The wall clock in milliseconds. -/
def now (s : Station σ) : Int :=
  s.clock.now

/-- Writes an event to the journal. -/
def record (s : Station σ) (e : Event) : Station σ :=
  { s with journal := e :: s.journal }

/-- What has happened since the journal was read last, the earliest first. -/
def takeJournal (s : Station σ) : List Event × Station σ :=
  (s.journal.reverse, { s with journal := [] })

/-- Counts an error in the ledger. -/
def countError (s : Station σ) (k : ErrorKind) : Station σ :=
  { s with ledger := s.ledger.countError k }

/-- Copies the depth of the queue to the ledger's gauge. -/
def gauge (s : Station σ) : Station σ :=
  { s with ledger := { s.ledger with queueDepth := s.buffer.metrics.queueDepth } }

/-- Hands in an entry.  Everything but a closed buffer is counted in the ledger. -/
def enqueue (s : Station σ) (f : Fields) : Except EngineError Nat × Station σ :=
  let (answer, buffer) := s.buffer.enqueue f s.now s.storage.shortage?
  let s := { s with buffer, storage := s.storage.after answer }
  match answer with
  | .ok id =>
    (.ok id,
      { s with
        ledger := { s.ledger with
          ingested := s.ledger.ingested + 1
          queueDepth := buffer.metrics.queueDepth } })
  | .error .notInitialized => (.error .notInitialized, s)
  | .error why => (.error why, s.countError why.kind)

/-- Takes the oldest entry out. -/
def dequeue (s : Station σ) : Except EngineError (Option Entry) × Station σ :=
  match s.buffer.dequeue with
  | (.ok (some entry), buffer) => (.ok (some entry), { s with buffer }.gauge)
  | (answer, buffer) => (answer, { s with buffer })

/-- Puts an entry back at the head. -/
def requeueFront (s : Station σ) (entry : Entry) : Except EngineError Unit × Station σ :=
  let (answer, buffer) := s.buffer.requeueFront entry s.storage.shortage?
  let s := { s with buffer, storage := s.storage.after answer }
  match answer with
  | .ok () => (.ok (), s.gauge.record (.requeued entry.id))
  | .error why => (.error why, s)

/-- Records a delivery. -/
def markProcessed (s : Station σ) (latency : Float) : Station σ :=
  let buffer := s.buffer.markProcessed latency s.now
  if s.buffer.isOpen then
    { s with buffer, ledger := { s.ledger with processed := s.ledger.processed + 1 } }
  else { s with buffer }

/-- Records a failure. -/
def markError (s : Station σ) : Station σ :=
  { s with buffer := s.buffer.markError }

/-- Closes the buffer. -/
def close (s : Station σ) : Nat × Station σ :=
  let (discarded, buffer) := s.buffer.close
  if s.buffer.isOpen then
    (discarded, ({ s with buffer }.gauge).record (.closed discarded))
  else (discarded, { s with buffer })

/-- Closes the sink. -/
def closeSink [Sink σ] (s : Station σ) : Station σ :=
  { s with sink := Sink.close s.sink }

/-- Hands in the same fields until they are not accepted, at most `fuel` times. -/
def fillLoop (f : Fields) : Nat → Station σ → Station σ
  | 0, s => s
  | fuel + 1, s =>
    match s.enqueue f with
    | (.ok _, s) => fillLoop f fuel s
    | (.error _, s) => s

/-- Hands in the same fields until they are not accepted.  One attempt more than there are free
places is enough. -/
def fill (f : Fields) (s : Station σ) : Station σ :=
  fillLoop f (s.buffer.capacity - s.buffer.size + 1) s

/-- Moves the clocks. -/
def moveClock (s : Station σ) (move : Clock → Clock) : Station σ :=
  { s with clock := move s.clock }

/-- What a sink does to the buffer directly, without an engine in between. -/
def intrude (s : Station σ) : Intrusion → Station σ
  | .add f => (s.enqueue f).2
  | .fill f => s.fill f
  | .close => s.close.2
  | .wait micros => s.moveClock (·.advance micros)
  | .setWall ms => s.moveClock (·.setWall ms)

/-- Lets the time of a disturbance pass. -/
def passTime (s : Station σ) (d : Disturbance) : Station σ :=
  s.moveClock fun clock =>
    match d.wall with
    | none => clock.advance d.elapsed
    | some ms => (clock.advance d.elapsed).setWall ms

/-- Calls the sink and waits for its answer.  `intrude` says how an intrusion takes effect. -/
def callSink [Sink σ] (intrude : Station σ → Intrusion → Station σ) (call : Call)
    (s : Station σ) : Answer × Station σ :=
  let (disturbance, sink) := Sink.receive call s.sink
  let s := disturbance.intrusions.foldl intrude ({ s with sink }.passTime disturbance)
  let (answer, sink) := Sink.settle call s.sink
  (answer, { s with sink })

end Station

end LogSpool
