import LogSpool.Entry
import LogSpool.Json.Document
import LogSpool.Power

/-!
# Metrics of one spool

This module holds the counters and gauges of one spool, the snapshot that is handed to sinks, and
the report that is handed to clients.  The order of the members of both documents is part of their
contract.
-/

namespace LogSpool

/-- The difference of two instants in milliseconds, held within 64 bits. -/
def millisBetween (earlier later : Int) : Int :=
  max (-(pow2 63 : Int)) (min ((pow2 63 : Int) - 1) (later - earlier))

/-- A point-in-time copy of a spool's counters and gauges. -/
structure Metrics where
  totalIngested : Nat
  totalProcessed : Nat
  totalErrors : Nat
  queueDepth : Nat
  bufferCapacity : Nat
  memoryBytes : Nat
  lastProcessingMs : Float
  startedAt : Int
  /-- Zero until the first delivery. -/
  lastProcessedAt : Int

/-- What clients are told about a spool. -/
structure Report where
  totalIngested : Nat
  totalProcessed : Nat
  totalErrors : Nat
  queueDepth : Nat
  bufferCapacity : Nat
  memoryBytes : Nat
  lastProcessingMs : Float
  uptimeSeconds : Float

namespace Metrics

/-- The metrics of a new, empty spool. -/
def initial (capacity : Nat) (now : Int) : Metrics :=
  ⟨0, 0, 0, 0, capacity, 0, 0.0, now, 0⟩

/-- Sets both gauges of the queue. -/
def setDepth (m : Metrics) (depth : Nat) : Metrics :=
  { m with queueDepth := depth, memoryBytes := depth * entryFootprint }

/-- Milliseconds since the start, never negative. -/
def uptime (m : Metrics) (now : Int) : Int :=
  max 0 (millisBetween m.startedAt now)

/-- The report at an instant. -/
def report (m : Metrics) (now : Int) : Report :=
  { totalIngested := m.totalIngested
    totalProcessed := m.totalProcessed
    totalErrors := m.totalErrors
    queueDepth := m.queueDepth
    bufferCapacity := m.bufferCapacity
    memoryBytes := m.memoryBytes
    lastProcessingMs := m.lastProcessingMs
    uptimeSeconds := Float.ofInt (m.uptime now) / 1000.0 }

/-- The document of a snapshot. -/
def document (m : Metrics) : Json :=
  .record [
    ("total_ingested", .natural m.totalIngested),
    ("total_processed", .natural m.totalProcessed),
    ("total_errors", .natural m.totalErrors),
    ("queue_depth", .natural m.queueDepth),
    ("buffer_capacity", .natural m.bufferCapacity),
    ("memory_bytes_estimate", .natural m.memoryBytes),
    ("last_processing_ms", .float m.lastProcessingMs),
    ("started_at_ms", .integer m.startedAt),
    ("last_processed_at_ms", .integer m.lastProcessedAt)]

end Metrics

/-- The document of a report. -/
def Report.document (r : Report) : Json :=
  .record [
    ("total_ingested", .natural r.totalIngested),
    ("total_processed", .natural r.totalProcessed),
    ("total_errors", .natural r.totalErrors),
    ("queue_depth", .natural r.queueDepth),
    ("buffer_capacity", .natural r.bufferCapacity),
    ("memory_bytes_estimate", .natural r.memoryBytes),
    ("last_processing_ms", .float r.lastProcessingMs),
    ("uptime_seconds", .float r.uptimeSeconds)]

end LogSpool
