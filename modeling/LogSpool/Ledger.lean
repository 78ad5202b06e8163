import LogSpool.Fault.Engine

/-!
# The ledger

This module holds the counters that are kept for the whole process, whatever spool they come from,
and their exposition as text.  They repeat the metrics of the spools for outside readers; the spool
itself never reads them.

Durations of batches are kept one by one; the histogram is a view of them.
-/

namespace LogSpool

/-- Counts of errors, by kind. -/
structure Tally where
  validation : Nat
  capacity : Nat
  allocation : Nat
  persistence : Nat
  requeueLoss : Nat
  notInitialized : Nat
  deriving Repr, DecidableEq

namespace Tally

/-- No errors. -/
def zero : Tally :=
  ⟨0, 0, 0, 0, 0, 0⟩

/-- The count of one kind. -/
def get (t : Tally) : ErrorKind → Nat
  | .validationError => t.validation
  | .capacityExceeded => t.capacity
  | .allocationFailure => t.allocation
  | .persistenceError => t.persistence
  | .requeueLoss => t.requeueLoss
  | .notInitialized => t.notInitialized

/-- Counts one error. -/
def bump (t : Tally) : ErrorKind → Tally
  | .validationError => { t with validation := t.validation + 1 }
  | .capacityExceeded => { t with capacity := t.capacity + 1 }
  | .allocationFailure => { t with allocation := t.allocation + 1 }
  | .persistenceError => { t with persistence := t.persistence + 1 }
  | .requeueLoss => { t with requeueLoss := t.requeueLoss + 1 }
  | .notInitialized => { t with notInitialized := t.notInitialized + 1 }

/-- Counting an error raises the count of its kind by one and no other count. -/
theorem get_bump (t : Tally) (k k' : ErrorKind) :
    (t.bump k).get k' = t.get k' + if k = k' then 1 else 0 := by
  cases k <;> cases k' <;> simp [bump, get]

/-- The kinds that have been counted, with their counts. -/
def counted (t : Tally) : List (ErrorKind × Nat) :=
  (ErrorKind.all.map fun k => (k, t.get k)).filter (0 < ·.2)

end Tally

/-- The label that tells error counts apart. -/
def errorKindLabel : String := "kind"

/-- The counters of the process. -/
structure Ledger where
  ingested : Nat
  processed : Nat
  requeued : Nat
  lost : Nat
  errors : Tally
  queueDepth : Nat
  /-- The durations of all batches in microseconds, the latest first. -/
  durations : List Nat
  deriving Repr, DecidableEq

namespace Ledger

/-- The counters at the start of the process. -/
def zero : Ledger :=
  ⟨0, 0, 0, 0, .zero, 0, []⟩

/-- Counts an error. -/
def countError (l : Ledger) (k : ErrorKind) : Ledger :=
  { l with errors := l.errors.bump k }

/-- Records how long a batch took. -/
def observe (l : Ledger) (micros : Nat) : Ledger :=
  { l with durations := micros :: l.durations }

/-- The upper bounds of the histogram's buckets: the text of the bound in seconds, and the bound in
microseconds. -/
def bounds : List (String × Nat) :=
  [("0.005", 5000), ("0.01", 10000), ("0.025", 25000), ("0.05", 50000), ("0.1", 100000),
    ("0.25", 250000), ("0.5", 500000), ("1", 1000000), ("2.5", 2500000), ("5", 5000000),
    ("10", 10000000)]

/-- How many batches took at most each bound. -/
def buckets (l : Ledger) : List Nat :=
  bounds.map fun (_, bound) => l.durations.countP (· ≤ bound)

/-- How many batches there were. -/
def batches (l : Ledger) : Nat :=
  l.durations.length

/-- The time all batches took together, in microseconds. -/
def batchMicros (l : Ledger) : Nat :=
  l.durations.foldl (· + ·) 0

/-- One family of the exposition: its help line, its type line and its samples. -/
def family (name kind help : String) (samples : List String) : List String :=
  ("# HELP " ++ name ++ " " ++ help) :: ("# TYPE " ++ name ++ " " ++ kind) :: samples

/-- The exposition of all counters, families in the order of their names.  A family without a
sample is left out. -/
def exposition (l : Ledger) : List String :=
  let plain (name kind help : String) (n : Nat) : List String :=
    family name kind help [name ++ " " ++ toString n]
  let duration := "logbuf_batch_duration_seconds"
  let bucketLines := (bounds.zip l.buckets).map fun ((bound, _), n) =>
    duration ++ "_bucket\x7ble=\"" ++ bound ++ "\"\x7d " ++ toString n
  let errorLines := l.errors.counted.map fun (k, n) =>
    "logbuf_errors_total\x7b" ++ errorKindLabel ++ "=\"" ++ k.name ++ "\"\x7d " ++ toString n
  let errors := if errorLines.isEmpty then []
    else family "logbuf_errors_total" "counter" "Total number of engine errors by kind"
      (errorLines.mergeSort (· ≤ ·))
  family duration "histogram" "Wall-clock duration of process calls in seconds"
      (bucketLines ++
        [duration ++ "_bucket\x7ble=\"+Inf\"\x7d " ++ toString l.batches,
          duration ++ "_count " ++ toString l.batches]) ++
    errors ++
    plain "logbuf_logs_ingested_total" "counter" "Total number of logs accepted" l.ingested ++
    plain "logbuf_logs_lost_total" "counter"
      "Total number of logs dropped because requeue was rejected" l.lost ++
    plain "logbuf_logs_processed_total" "counter" "Total number of logs persisted to the sink"
      l.processed ++
    plain "logbuf_logs_requeued_total" "counter"
      "Total number of logs returned to the queue head after a sink failure" l.requeued ++
    plain "logbuf_queue_depth" "gauge" "Entries currently buffered" l.queueDepth

end Ledger

end LogSpool
