import LogSpool.Station

/-!
# Batches

This module delivers entries from the buffer to the sink, one after the other.  A batch stops at
the first refusal; the refused entry goes back to the head of the queue, so that nothing accepted
after it can overtake it.  While a delivery is pending its entry is in nobody's queue: it is settled
by exactly one of `delivered`, `recover` and `abandon`.

If the caller gives up while a call is pending the batch ends there.  Entries delivered before stay
delivered, and the one in flight goes back, or is lost and reported where it cannot.
-/

namespace LogSpool

/-- What a batch did: the entries delivered, and the time it took in microseconds. -/
structure BatchReport where
  processed : Nat
  elapsed : Nat
  deriving Repr, DecidableEq

/-- The time a batch took, in milliseconds. -/
def BatchReport.elapsedMs (r : BatchReport) : Float :=
  millisOf r.elapsed

namespace Station

variable {σ : Type}

/-- The most entries a batch delivers: as many as were asked for, or the default number if none
were. -/
def batchLimit (s : Station σ) (maxItems : Nat) : Nat :=
  if 0 < maxItems then maxItems else s.defaultBatch

/-- The delivery of an entry at the present moment. -/
def deliveryOf (s : Station σ) (entry : Entry) : Delivery :=
  ⟨entry, s.now, Float.ofInt (millisBetween entry.ingestedAt s.now)⟩

/-- Settles an entry that the sink accepted. -/
def delivered (s : Station σ) (d : Delivery) : Station σ :=
  s.markProcessed d.latency

/-- Records that a batch ended, with its duration. -/
def observeBatch (s : Station σ) (started : Nat) : Station σ :=
  { s with ledger := s.ledger.observe (s.clock.elapsed - started) }

/-- Counts an entry that went back to the queue. -/
def countRequeued (s : Station σ) : Station σ :=
  { s with ledger := { s.ledger with requeued := s.ledger.requeued + 1 } }

/-- Counts an entry that is lost. -/
def countLost (s : Station σ) : Station σ :=
  { s with ledger := { s.ledger with lost := s.ledger.lost + 1 } }

/-- Settles an entry that the sink refused: it goes back to the head, or is lost where that is
refused too. -/
def recover (s : Station σ) (entry : Entry) (processed : Nat) (why : SinkError) :
    EngineError × Station σ :=
  match s.requeueFront entry with
  | (.ok (), s) =>
    (.persistence entry.id processed why,
      (s.countRequeued.countError .persistenceError).record
        (.deliveryFailed entry.id processed why))
  | (.error refusal, s) =>
    (.requeueLoss entry.id processed refusal.message why,
      (s.countLost.countError .requeueLoss).record
        (.deliveryLost entry.id processed why refusal))

/-- Settles an entry whose delivery was given up. -/
def abandon (s : Station σ) (entry : Entry) : Station σ :=
  match s.requeueFront entry with
  | (.ok (), s) => s.countRequeued.record (.deliveryCancelled entry.id)
  | (.error refusal, s) =>
    (s.markError.countLost.countError .requeueLoss).record (.cancellationLost entry.id refusal)

/-- Delivers up to `remaining` entries after `processed` have been delivered; answers with the
number of all of them. -/
def deliver [Sink σ] (intrude : Station σ → Intrusion → Station σ) (started : Nat) :
    Nat → Nat → Station σ → Outcome Nat × Station σ
  | 0, processed, s => (.answered processed, s)
  | remaining + 1, processed, s =>
    match s.dequeue with
    | (.error why, s) => (.failed why, s)
    | (.ok none, s) => (.answered processed, s)
    | (.ok (some entry), s) =>
      let d := s.deliveryOf entry
      match s.callSink intrude (.log d) with
      | (.accepted, s) => deliver intrude started remaining (processed + 1) (s.delivered d)
      | (.refused why, s) =>
        let (error, s) := (s.markError.observeBatch started).recover entry processed why
        (.failed error, s)
      | (.stalled, s) => (.abandoned, s.abandon entry)

/-- Hands the metrics of the moment to the sink.  A refusal is counted and reported, and does not
fail the batch.  The answer says whether the caller had to give up. -/
def persistSnapshot [Sink σ] (intrude : Station σ → Intrusion → Station σ) (s : Station σ) :
    Outcome Unit × Station σ :=
  match s.buffer.snapshot with
  | .error why => (.answered (), s.record (.snapshotSkipped why))
  | .ok metrics =>
    match s.callSink intrude (.snapshot metrics) with
    | (.accepted, s) => (.answered (), s)
    | (.refused why, s) => (.answered (), s.markError.record (.snapshotRefused why))
    | (.stalled, s) => (.abandoned, s)

/-- Ends a batch without a failed delivery. -/
def finishBatch (s : Station σ) (started processed : Nat) : Outcome BatchReport × Station σ :=
  let elapsed := s.clock.elapsed - started
  (.answered ⟨processed, elapsed⟩, (s.observeBatch started).record (.batchComplete processed elapsed))

/-- Runs one batch of at most `maxItems` entries, or of the default number if that is zero.  A
snapshot follows a batch that delivered something. -/
def process [Sink σ] (intrude : Station σ → Intrusion → Station σ) (maxItems : Nat)
    (s : Station σ) : Outcome BatchReport × Station σ :=
  let started := s.clock.elapsed
  match s.deliver intrude started (s.batchLimit maxItems) 0 with
  | (.failed why, s) => (.failed why, s)
  | (.abandoned, s) => (.abandoned, s)
  | (.answered 0, s) => s.finishBatch started 0
  | (.answered processed, s) =>
    match s.persistSnapshot intrude with
    | (.abandoned, s) => (.abandoned, s)
    | (_, s) => s.finishBatch started processed

end Station

end LogSpool
