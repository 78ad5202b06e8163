import LogSpool.Batch
import LogSpool.Engine.Config
import LogSpool.Power

/-!
# The engine

This module puts a station behind a handle for producers and operators: entries with defaults for
empty fields, a batch as soon as the queue reaches a threshold, a preview, a report, a health check
and a final drain.

At most one batch is under way at any time.  A call that needs to run one while another is under
way waits; since calls that wait are given up, it is abandoned.  What such a call did before it had
to wait stays done: an entry handed in from inside a sink call is accepted and left to a later
batch.
-/

namespace LogSpool

/-- An engine: its normalized configuration and its station. -/
structure Engine (σ : Type) where
  config : EngineConfig
  station : Station σ

/-- What a health check found. -/
structure HealthReport where
  healthy : Bool
  queueDepth : Nat
  deriving Repr, DecidableEq

/-- The document of a health check. -/
def HealthReport.document (r : HealthReport) : Json :=
  .record [
    ("status", .text (if r.healthy then "ok" else "degraded")),
    ("db", .text (if r.healthy then "up" else "down")),
    ("queue_depth", .natural r.queueDepth)]

/-- What a shutdown did with the entries in the queue. -/
structure ShutdownReport where
  /-- Delivered by the final drain. -/
  drained : Nat
  /-- Still queued when the drain stopped, then dropped. -/
  discarded : Nat
  deriving Repr, DecidableEq

/-- The document of a shutdown. -/
def ShutdownReport.document (r : ShutdownReport) : Json :=
  .record [("drained", .natural r.drained), ("discarded", .natural r.discarded)]

namespace Station

variable {σ : Type} [Sink σ]

/-- Runs a batch if none is under way, and gives up otherwise. -/
def processAlone (intrude : Station σ → Intrusion → Station σ) (maxItems : Nat)
    (s : Station σ) : Outcome BatchReport × Station σ :=
  if s.busy then (.abandoned, s)
  else
    let (outcome, s) := { s with busy := true }.process intrude maxItems
    (outcome, { s with busy := false })

/-- Hands in an entry through the engine.  When the queue has reached the threshold a batch runs
before the answer, and an error of that batch is the answer although the entry was accepted. -/
def addLog (config : EngineConfig) (intrude : Station σ → Intrusion → Station σ) (f : Fields)
    (s : Station σ) : Outcome Nat × Station σ :=
  match s.enqueue f.withDefaults with
  | (.error why, s) => (.failed why, s)
  | (.ok id, s) =>
    match s.buffer.depth with
    | .error why => (.failed why, s)
    | .ok depth =>
      if config.autoProcessThreshold ≤ depth then
        match (s.record (.thresholdReached depth)).processAlone intrude config.processBatchSize with
        | (.answered _, s) => (.answered id, s)
        | (.failed why, s) => (.failed why, s)
        | (.abandoned, s) => (.abandoned, s)
      else (.answered id, s)

/-- Hands in the same fields through the engine until they are not accepted, at most `fuel`
times.  A call that was given up, or that fails in the delivery of a batch, had its entry
accepted. -/
def fillThrough (config : EngineConfig) (intrude : Station σ → Intrusion → Station σ) (f : Fields) :
    Nat → Station σ → Station σ
  | 0, s => s
  | fuel + 1, s =>
    match s.addLog config intrude f with
    | (.failed why, s) => if why.isRefusal then s else fillThrough config intrude f fuel s
    | (_, s) => fillThrough config intrude f fuel s

/-- How many entries beyond its capacity a queue can be filled with.  A sink that goes on
delivering makes room forever. -/
def fillLimit : Nat := pow2 16

/-- What a sink does to the engine that is calling it.  `depth` bounds how often such calls nest:
an entry handed in while no batch is under way can start one, and an entry handed in from inside
that batch cannot start another. -/
def intrudeThrough (config : EngineConfig) : Nat → Station σ → Intrusion → Station σ
  | 0, s, _ => s
  | depth + 1, s, intrusion =>
    match intrusion with
    | .add f => (s.addLog config (intrudeThrough config depth) f).2
    | .fill f =>
      s.fillThrough config (intrudeThrough config depth) f (s.buffer.capacity + fillLimit)
    | .close => s.close.2
    | .wait micros => s.moveClock (·.advance micros)
    | .setWall ms => s.moveClock (·.setWall ms)

end Station

namespace Engine

variable {σ : Type}

/-- How deep the calls of a sink to its own engine nest. -/
def nesting : Nat := 3

/-- What a sink does to this engine. -/
def intrude [Sink σ] (config : EngineConfig) : Station σ → Intrusion → Station σ :=
  Station.intrudeThrough config nesting

/-- An engine over a sink.  The configuration is normalized first; one that cannot be is
refused. -/
def withSink (config : EngineConfig) (sink : σ) (clock : Clock) (storage : Storage := .ample) :
    Except EngineError (Engine σ) := do
  let config ← config.normalize
  let buffer ← Buffer.create config.bufferCapacity clock.now
  let station := Station.around buffer sink clock config.processBatchSize storage
  pure ⟨config, station.record
    (.initialized config.bufferCapacity config.autoProcessThreshold config.processBatchSize)⟩

/-- Runs a step of the station. -/
def onStation {α : Type} (step : Station σ → α × Station σ) (e : Engine σ) : α × Engine σ :=
  let (a, station) := step e.station
  (a, { e with station })

/-- Whether the engine takes entries. -/
def isOpen (e : Engine σ) : Bool :=
  e.station.buffer.isOpen

/-- Hands in an entry. -/
def addLog [Sink σ] (f : Fields) (e : Engine σ) : Outcome Nat × Engine σ :=
  e.onStation (Station.addLog e.config (intrude e.config) f)

/-- The oldest entries in the queue, and how many there are. -/
def pending (e : Engine σ) : Except EngineError Preview :=
  e.station.buffer.preview e.config.pendingPreviewLimit

/-- Runs one batch. -/
def process [Sink σ] (maxItems : Nat) (e : Engine σ) : Outcome BatchReport × Engine σ :=
  e.onStation (Station.processAlone (intrude e.config) maxItems)

/-- The report of the moment. -/
def report (e : Engine σ) : Except EngineError Report :=
  e.station.buffer.snapshot.map (·.report e.station.now)

/-- Pings the sink.  A sink that refuses makes the engine degraded and is no error. -/
def health [Sink σ] (e : Engine σ) : Outcome HealthReport × Engine σ :=
  e.onStation fun s =>
    match s.buffer.depth with
    | .error why => (.failed why, s)
    | .ok depth =>
      match s.callSink (intrude e.config) .ping with
      | (.accepted, s) => (.answered ⟨true, depth⟩, s)
      | (.refused why, s) => (.answered ⟨false, depth⟩, s.record (.healthCheckFailed why))
      | (.stalled, s) => (.abandoned, s)

/-- How many batches a drain may run.  Every batch but the last delivers an entry, and there are
no more than 2^64 numbers for entries. -/
def drainLimit : Nat := pow2 64

/-- Runs batches until one delivers nothing or fails; answers with the number of all entries
delivered. -/
def drain [Sink σ] (intrude : Station σ → Intrusion → Station σ) (batch : Nat) :
    Nat → Nat → Station σ → Outcome Nat × Station σ
  | 0, drained, s => (.answered drained, s)
  | fuel + 1, drained, s =>
    match s.process intrude batch with
    | (.answered report, s) =>
      if report.processed = 0 then (.answered drained, s)
      else drain intrude batch fuel (drained + report.processed) s
    | (.failed why, s) => (.answered (drained + why.processed), s.record (.drainStopped why))
    | (.abandoned, s) => (.abandoned, s)

/-- Closes a drained engine: what is left is dropped, and the sink is closed. -/
def closeAfter [Sink σ] (drained : Nat) (s : Station σ) : ShutdownReport × Station σ :=
  let (discarded, s) := s.close
  (⟨drained, discarded⟩, s.closeSink.record (.shutdownCompleted drained discarded))

/-- Delivers what the sink will take, then closes the buffer and the sink.  A closed engine is left
alone. -/
def shutdown [Sink σ] (e : Engine σ) : Outcome ShutdownReport × Engine σ :=
  e.onStation fun s =>
    if s.busy then (.abandoned, s)
    else if !s.buffer.isOpen then (.answered ⟨0, 0⟩, s)
    else
      match drain (intrude e.config) e.config.processBatchSize drainLimit 0
          { s with busy := true } with
      | (.answered drained, s) =>
        let (report, s) := closeAfter drained s
        (.answered report, { s with busy := false })
      | (.failed why, s) => (.failed why, { s with busy := false })
      | (.abandoned, s) => (.abandoned, { s with busy := false })

end Engine

end LogSpool
