import LogSpool.Engine.Basic
import LogSpool.Proofs.Station.Chronicle

/-!
# The acts of the calls of an engine

This module extends the chronicle of a batch to the calls of an engine.  As with a station, the acts
are a function of the engine, its sink included.

* `Station.addLogActs` — the acts of handing in an entry through an engine, with those of the batch
  that may follow.
* `Engine.intrudeActs` — the acts of what a sink does to the engine that is calling it.
* `Engine.healthActs`, `Engine.shutdownActs` — the acts of a health check and of a shutdown.
-/

namespace LogSpool

variable {σ : Type} [Sink σ]

namespace Station

section

variable (intrude : Station σ → Intrusion → Station σ) (acts : Station σ → Intrusion → List Act)

/-- The acts of a batch that is given up where another one is under way. -/
def processAloneActs (maxItems : Nat) (s : Station σ) : List Act :=
  if s.busy then [] else { s with busy := true }.processActs intrude acts maxItems

variable (config : EngineConfig) (f : Fields)

/-- The acts of handing in an entry through an engine. -/
def addLogActs (s : Station σ) : List Act :=
  .enqueue f.withDefaults s.now ::
    match s.enqueue f.withDefaults with
    | (.error _, _) => []
    | (.ok _, s) =>
      if config.autoProcessThreshold ≤ s.buffer.size then
        (s.record (.thresholdReached s.buffer.size)).processAloneActs intrude acts
          config.processBatchSize
      else []

/-- The acts of handing in the same fields through an engine until they are not accepted. -/
def fillThroughActs : Nat → Station σ → List Act
  | 0, _ => []
  | fuel + 1, s =>
    s.addLogActs intrude acts config f ++
      match s.addLog config intrude f with
      | (.failed why, s) => if why.isRefusal then [] else fillThroughActs fuel s
      | (_, s) => fillThroughActs fuel s

/-- The acts of the batches of a drain. -/
def drainActs (batch : Nat) : Nat → Station σ → List Act
  | 0, _ => []
  | fuel + 1, s =>
    s.processActs intrude acts batch ++
      match s.process intrude batch with
      | (.answered report, s) => if report.processed = 0 then [] else drainActs batch fuel s
      | _ => []

end

/-- The acts of what a sink does to the engine that is calling it, where such calls nest. -/
def intrudeThroughActs (config : EngineConfig) : Nat → Station σ → Intrusion → List Act
  | 0, _, _ => []
  | depth + 1, s, intrusion =>
    match intrusion with
    | .add f =>
      s.addLogActs (intrudeThrough config depth) (intrudeThroughActs config depth) config f
    | .fill f =>
      s.fillThroughActs (intrudeThrough config depth) (intrudeThroughActs config depth) config f
        (s.buffer.capacity + fillLimit)
    | .close => [.close]
    | .wait _ => []
    | .setWall _ => []

end Station

namespace Engine

/-- The acts of what a sink does to this engine. -/
def intrudeActs (config : EngineConfig) : Station σ → Intrusion → List Act :=
  Station.intrudeThroughActs config nesting

/-- The acts of others while the sink is pinged. -/
def healthActs (e : Engine σ) : List Act :=
  match e.station.buffer.depth with
  | .error _ => []
  | .ok _ => e.station.callActs (intrude e.config) (intrudeActs e.config) .ping

/-- The acts of a shutdown: those of the drain, and the end of the buffer where the drain is
answered. -/
def shutdownActs (e : Engine σ) : List Act :=
  if e.station.busy then []
  else if !e.isOpen then []
  else
    { e.station with busy := true }.drainActs (intrude e.config) (intrudeActs e.config)
        e.config.processBatchSize drainLimit ++
      match drain (intrude e.config) e.config.processBatchSize drainLimit 0
          { e.station with busy := true } with
      | (.answered _, _) => [.close]
      | _ => []

end Engine

end LogSpool
