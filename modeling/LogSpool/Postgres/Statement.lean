import LogSpool.Power
import LogSpool.Sink.Basic

/-!
# Statements

This module holds the statements that the PostgreSQL sink executes, with the values bound to their
parameters.  Numbers past the range of a `BIGINT` are bound as its greatest value, and instants are
bound as seconds since the epoch.
-/

namespace LogSpool.Postgres

/-- A value bound to a parameter. -/
inductive Bound where
  | integer (n : Int)
  | float (x : Float)
  | text (s : String)

/-- A statement and the values bound to its parameters, in order. -/
structure Statement where
  text : String
  values : List Bound

/-- The greatest `BIGINT`. -/
def maxBigint : Nat := pow2 63 - 1

/-- A natural number as a `BIGINT`. -/
def bigint (n : Nat) : Bound :=
  .integer (min n maxBigint)

/-- An instant in milliseconds as seconds. -/
def epochSeconds (ms : Int) : Bound :=
  .float (Float.ofInt ms / 1000.0)

namespace Statement

/-- Creates the table of delivered entries. -/
def createLogs : Statement :=
  ⟨"CREATE TABLE IF NOT EXISTS processed_logs ( id BIGSERIAL PRIMARY KEY, log_id BIGINT NOT NULL, " ++
    "level TEXT NOT NULL, source TEXT NOT NULL, message TEXT NOT NULL, " ++
    "ingested_at TIMESTAMPTZ NOT NULL, processed_at TIMESTAMPTZ NOT NULL, " ++
    "processing_ms DOUBLE PRECISION NOT NULL )", []⟩

/-- Creates the table of snapshots. -/
def createMetrics : Statement :=
  ⟨"CREATE TABLE IF NOT EXISTS processing_metrics ( id BIGSERIAL PRIMARY KEY, " ++
    "created_at TIMESTAMPTZ NOT NULL DEFAULT NOW(), total_ingested BIGINT NOT NULL, " ++
    "total_processed BIGINT NOT NULL, total_errors BIGINT NOT NULL, queue_depth BIGINT NOT NULL, " ++
    "buffer_capacity BIGINT NOT NULL, memory_bytes BIGINT NOT NULL, " ++
    "last_processing_ms DOUBLE PRECISION NOT NULL )", []⟩

/-- Inserts a delivered entry. -/
def insertLog (d : Delivery) : Statement :=
  ⟨"INSERT INTO processed_logs (log_id, level, source, message, ingested_at, processed_at, " ++
    "processing_ms) VALUES ($1, $2, $3, $4, to_timestamp($5), to_timestamp($6), $7)",
    [bigint d.entry.id, .text d.entry.level, .text d.entry.source, .text d.entry.message,
      epochSeconds d.entry.ingestedAt, epochSeconds d.processedAt, .float d.latency]⟩

/-- Inserts a snapshot. -/
def insertMetrics (m : Metrics) : Statement :=
  ⟨"INSERT INTO processing_metrics (total_ingested, total_processed, total_errors, queue_depth, " ++
    "buffer_capacity, memory_bytes, last_processing_ms) VALUES ($1, $2, $3, $4, $5, $6, $7)",
    [bigint m.totalIngested, bigint m.totalProcessed, bigint m.totalErrors, bigint m.queueDepth,
      bigint m.bufferCapacity, bigint m.memoryBytes, .float m.lastProcessingMs]⟩

/-- Does nothing but reach the server. -/
def ping : Statement :=
  ⟨"SELECT 1", []⟩

/-- The statement that a call to the sink executes. -/
def ofCall : Call → Statement
  | .log d => insertLog d
  | .snapshot m => insertMetrics m
  | .ping => ping

end Statement

end LogSpool.Postgres
