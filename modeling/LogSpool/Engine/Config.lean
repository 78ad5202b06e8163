import LogSpool.Fault.Engine
import LogSpool.Json.Reader.Record

/-!
# The configuration of an engine

This module holds the four numbers that an engine is tuned by, the rules that bring them into
range, and their document.
-/

namespace LogSpool

/-- The entries a preview shows when zero is asked for. -/
def defaultPreviewLimit : Nat := 50

/-- The numbers an engine is tuned by. -/
structure EngineConfig where
  bufferCapacity : Nat
  autoProcessThreshold : Nat
  processBatchSize : Nat
  pendingPreviewLimit : Nat
  deriving Repr, DecidableEq

namespace EngineConfig

/-- The configuration when nothing is said. -/
def standard : EngineConfig :=
  ⟨2048, 256, 200, 200⟩

/-- Brings the numbers into range.  A threshold of zero or above the capacity becomes the capacity,
a batch of zero becomes one, a preview of zero becomes the default; a capacity of zero is
refused. -/
def normalize (c : EngineConfig) : Except EngineError EngineConfig :=
  if c.bufferCapacity = 0 then .error (.validation "buffer_capacity must be greater than zero")
  else .ok {
    bufferCapacity := c.bufferCapacity
    autoProcessThreshold :=
      if c.autoProcessThreshold = 0 ∨ c.bufferCapacity < c.autoProcessThreshold then
        c.bufferCapacity
      else c.autoProcessThreshold
    processBatchSize := max c.processBatchSize 1
    pendingPreviewLimit :=
      if c.pendingPreviewLimit = 0 then defaultPreviewLimit else c.pendingPreviewLimit }

/-- The members of the document of a configuration. -/
def members (c : EngineConfig) : List (String × Json) :=
  [("buffer_capacity", .natural c.bufferCapacity),
    ("auto_process_threshold", .natural c.autoProcessThreshold),
    ("process_batch_size", .natural c.processBatchSize),
    ("pending_preview_limit", .natural c.pendingPreviewLimit)]

/-- The document of a configuration. -/
def document (c : EngineConfig) : Json :=
  .record c.members

/-- The members of the document; each may be left out. -/
def fields : List (Json.Reader.Field EngineConfig) :=
  [⟨"buffer_capacity", false, fun c => return { c with bufferCapacity := ← Json.Reader.size }⟩,
    ⟨"auto_process_threshold", false,
      fun c => return { c with autoProcessThreshold := ← Json.Reader.size }⟩,
    ⟨"process_batch_size", false,
      fun c => return { c with processBatchSize := ← Json.Reader.size }⟩,
    ⟨"pending_preview_limit", false,
      fun c => return { c with pendingPreviewLimit := ← Json.Reader.size }⟩]

/-- Reads a configuration; members that are left out have their standard value. -/
def ofText? (s : String) : Except Json.Fault EngineConfig :=
  Json.Reader.run (Json.Reader.record "EngineConfig" fields standard) s

end EngineConfig

end LogSpool
