import LogSpool.Batch
import LogSpool.Proofs.Custody.Basic

/-!
# The acts of a batch

This module reads off a station which acts it is about to perform.  For each operation it gives the
list of the acts that the operation takes, in their order: the entry that is handed in, the oldest
entry that the sink is called with, what the sink does to the buffer meanwhile, and how the call is
settled.  The list is a function of the station, its sink included, so that it holds the acts of the
run itself, no other ones, and none of them twice.

What becomes of a station and what these acts make of its custody is the same thing: that is shown
in the modules on pending calls and on courses.

* `calling` — the station as soon as a call has started.
* `intrudeActs` — the acts of what a sink does to the buffer directly.
* `callActs` — the acts of others while a call to the sink is pending.
* `deliverActs`, `snapshotActs`, `processActs` — the acts of a batch and of its parts.
-/

namespace LogSpool.Station

variable {σ : Type}

/-- The station as soon as a call has started and its wait has passed, before the sink comes back to
it. -/
def calling [Sink σ] (call : Call) (s : Station σ) : Station σ :=
  ({ s with sink := (Sink.receive call s.sink).2 } : Station σ).passTime
    (Sink.receive call s.sink).1

/-- The acts of handing in the same fields until they are not accepted. -/
def fillActs (f : Fields) : Nat → Station σ → List Act
  | 0, _ => []
  | fuel + 1, s =>
    .enqueue f s.now ::
      match s.enqueue f with
      | (.ok _, s) => fillActs f fuel s
      | (.error _, _) => []

/-- The acts of what a sink does to the buffer directly. -/
def intrudeActs (s : Station σ) : Intrusion → List Act
  | .add f => [.enqueue f s.now]
  | .fill f => fillActs f (s.buffer.capacity - s.buffer.size + 1) s
  | .close => [.close]
  | .wait _ => []
  | .setWall _ => []

/-- The acts by which an abandoned entry is settled: a loss is counted as an error. -/
def abandonActs (s : Station σ) (entry : Entry) : List Act :=
  match s.requeueFront entry with
  | (.ok (), _) => [.settle .stalled s.now]
  | (.error _, _) => [.settle .stalled s.now, .countError]

section

variable (intrude : Station σ → Intrusion → Station σ)
  (acts : Station σ → Intrusion → List Act)

/-- The acts of intrusions, one after the other, where `acts` are those of a single one. -/
def meanwhileActs : List Intrusion → Station σ → List Act
  | [], _ => []
  | i :: intrusions, s => acts s i ++ meanwhileActs intrusions (intrude s i)

theorem meanwhileActs_append (first later : List Intrusion) (s : Station σ) :
    meanwhileActs intrude acts (first ++ later) s =
      meanwhileActs intrude acts first s ++
        meanwhileActs intrude acts later (first.foldl intrude s) := by
  induction first generalizing s with
  | nil => rfl
  | cons i first ih =>
      rw [List.cons_append, meanwhileActs, ih, meanwhileActs, List.append_assoc]
      rfl

variable [Sink σ]

/-- The acts of others while a call is pending. -/
def callActs (call : Call) (s : Station σ) : List Act :=
  meanwhileActs intrude acts (Sink.receive call s.sink).1.intrusions (s.calling call)

/-- The acts of the loop of deliveries, which may take so many entries. -/
def deliverActs : Nat → Station σ → List Act
  | 0, _ => []
  | remaining + 1, s =>
    match s.dequeue with
    | (.ok (some entry), s₁) =>
      let d := s₁.deliveryOf entry
      .offer s.now :: (s₁.callActs intrude acts (.log d) ++
        match s₁.callSink intrude (.log d) with
        | (.accepted, s₂) => .settle .accepted s₂.now :: deliverActs remaining (s₂.delivered d)
        | (.refused why, s₂) => [.countError, .settle (.refused why) s₂.now]
        | (.stalled, s₂) => s₂.abandonActs entry)
    | _ => []

/-- The acts of handing the metrics to the sink. -/
def snapshotActs (s : Station σ) : List Act :=
  match s.buffer.snapshot with
  | .error _ => []
  | .ok metrics =>
    s.callActs intrude acts (.snapshot metrics) ++
      match s.callSink intrude (.snapshot metrics) with
      | (.refused _, _) => [.countError]
      | _ => []

/-- The acts of a batch. -/
def processActs (maxItems : Nat) (s : Station σ) : List Act :=
  s.deliverActs intrude acts (s.batchLimit maxItems) ++
    match s.deliver intrude s.clock.elapsed (s.batchLimit maxItems) 0 with
    | (.answered (_ + 1), s₁) => s₁.snapshotActs intrude acts
    | _ => []

end

end LogSpool.Station
