import LogSpool.Sink.Basic

/-!
# The memory sink

This module holds the sink that keeps what it accepts in memory: the most recent deliveries and the
most recent snapshots, each up to the same number.  It has three switches for faults: it can be
down, it can refuse a number of deliveries, and it can refuse snapshots.  While it is down nothing
else about it changes.
-/

namespace LogSpool

/-- How many records of a kind a memory sink keeps when nothing else is said. -/
def defaultRetention : Nat := 10000

/-- The state of a memory sink.  Both histories are in the order of the calls. -/
structure MemorySink where
  retention : Nat
  logs : Array Delivery
  snapshots : Array Metrics
  failNextLogs : Nat
  failMetrics : Bool
  isDown : Bool
  isClosed : Bool

namespace MemorySink

/-- An empty sink that keeps `retention` records of a kind, or one if that is zero. -/
def withRetention (retention : Nat) : MemorySink :=
  ⟨max retention 1, #[], #[], 0, false, false, false⟩

/-- Appends to a history and drops what is then too old. -/
def retain {α : Type} (history : Array α) (retention : Nat) (item : α) : Array α :=
  let longer := history.push item
  if retention < longer.size then longer.extract (longer.size - retention) longer.size else longer

/-- Lets the sink refuse the next `count` deliveries. -/
def refuseLogs (s : MemorySink) (count : Nat) : MemorySink :=
  { s with failNextLogs := count }

/-- Lets the sink refuse snapshots, or take them again. -/
def refuseMetrics (s : MemorySink) (refuse : Bool) : MemorySink :=
  { s with failMetrics := refuse }

/-- Takes the sink down, or up again. -/
def setDown (s : MemorySink) (down : Bool) : MemorySink :=
  { s with isDown := down }

/-- The refusal of every call while the sink is down. -/
def downError : SinkError :=
  .unavailable "memory sink is down"

/-- Takes a delivery. -/
def insertLog (s : MemorySink) (d : Delivery) : Answer × MemorySink :=
  if s.isDown then (.refused downError, s)
  else if 0 < s.failNextLogs then
    (.refused (.rejected "insert_log" ("injected failure for log " ++ toString d.entry.id)),
      { s with failNextLogs := s.failNextLogs - 1 })
  else (.accepted, { s with logs := retain s.logs s.retention d })

/-- Takes a snapshot. -/
def insertMetrics (s : MemorySink) (m : Metrics) : Answer × MemorySink :=
  if s.isDown then (.refused downError, s)
  else if s.failMetrics then (.refused (.rejected "insert_metrics" "injected failure"), s)
  else (.accepted, { s with snapshots := retain s.snapshots s.retention m })

/-- Answers a ping. -/
def ping (s : MemorySink) : Answer :=
  if s.isDown then .refused downError else .accepted

/-- Answers a call. -/
def answer (call : Call) (s : MemorySink) : Answer × MemorySink :=
  match call with
  | .log d => s.insertLog d
  | .snapshot m => s.insertMetrics m
  | .ping => (s.ping, s)

/-- The numbers of the deliveries that are kept. -/
def persistedIds (s : MemorySink) : List Nat :=
  s.logs.toList.map (·.entry.id)

end MemorySink

instance : Sink MemorySink where
  receive _ s := (.none, s)
  settle := MemorySink.answer
  close s := { s with isClosed := true }

end LogSpool
