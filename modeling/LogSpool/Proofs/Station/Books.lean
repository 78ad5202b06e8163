import LogSpool.Proofs.Station.Move

/-!
# The two sets of books

This module compares the metrics of a buffer with the counters of the process.  The same facts are
entered in both, by different functions and in different orders, so that one entry that is missing
or made twice would set them apart.  They agree whenever the buffer is open and no call is pending:
each errand and each move of the processor enters what it does in both.

* `Agrees` — what the two sets of books have in common.
* `Booked` — they agree as long as the buffer is open.
* `Errands.booked`, `Moves.booked` — errands and moves keep them in agreement.
* `process_batches` — which batches are entered as such.
-/

namespace LogSpool

/-- Whether an event reports that a cancelled delivery went back to the queue. -/
def Event.isCancelledReturn : Event → Bool
  | .deliveryCancelled _ => true
  | _ => false

/-- Whether an event reports that a cancelled delivery was lost. -/
def Event.isCancelledLoss : Event → Bool
  | .cancellationLost _ _ => true
  | _ => false

namespace Outcome

variable {α : Type}

/-- Whether a call failed in a delivery. -/
def isFailedDelivery : Outcome α → Bool
  | .failed why => !why.isRefusal
  | _ => false

/-- Whether a call was answered, or failed in a delivery. -/
def isObserved : Outcome α → Bool
  | .answered _ => true
  | outcome => outcome.isFailedDelivery

end Outcome

namespace Station

variable {σ : Type}

/-- How many cancelled deliveries went back to the queue. -/
def cancelledReturns (s : Station σ) : Nat :=
  s.journal.countP Event.isCancelledReturn

/-- How many cancelled deliveries were lost. -/
def cancelledLosses (s : Station σ) : Nat :=
  s.journal.countP Event.isCancelledLoss

theorem cancelledReturns_record (s : Station σ) (e : Event) : (s.record e).cancelledReturns =
    s.cancelledReturns + if e.isCancelledReturn = true then 1 else 0 :=
  List.countP_cons

theorem cancelledLosses_record (s : Station σ) (e : Event) : (s.record e).cancelledLosses =
    s.cancelledLosses + if e.isCancelledLoss = true then 1 else 0 :=
  List.countP_cons

/-- The metrics of a buffer and the counters of the process agree, where so many deliveries were
cancelled, and so many errors are of no kind that the ledger counts.  An entry with invalid fields
is no error of the buffer: it is counted in the ledger only, under a kind of its own. -/
structure Agrees (cancelled others : Nat) (s : Station σ) : Prop where
  ingested : s.ledger.ingested = s.buffer.metrics.totalIngested
  processed : s.ledger.processed = s.buffer.metrics.totalProcessed
  depth : s.ledger.queueDepth = s.buffer.metrics.queueDepth
  lost : s.ledger.lost = s.ledger.errors.get .requeueLoss
  requeued : s.ledger.requeued = s.ledger.errors.get .persistenceError + s.cancelledReturns
  /-- A cancelled delivery went back, or it is lost. -/
  cancelled : cancelled = s.cancelledReturns + s.cancelledLosses
  totalErrors : s.buffer.metrics.totalErrors =
    s.ledger.errors.get .capacityExceeded + s.ledger.errors.get .allocationFailure +
      s.ledger.errors.get .persistenceError + s.ledger.errors.get .requeueLoss + others

/-- The books agree as long as the buffer is open. -/
def Booked (cancelled others : Nat) (s : Station σ) : Prop :=
  s.buffer.isOpen = true → Agrees cancelled others s

/-! ## Entries in the books -/

theorem countError_get (s : Station σ) (k k' : ErrorKind) :
    (s.countError k).ledger.errors.get k' = s.ledger.errors.get k' + if k = k' then 1 else 0 :=
  s.ledger.errors.get_bump k k'

namespace Agrees

variable {cancelled others : Nat} {s : Station σ}

/-- Nothing that the books are about has changed. -/
theorem of_same {τ : Type} {s' : Station τ} (h : Agrees cancelled others s)
    (hledger : s'.ledger = s.ledger) (hmetrics : s'.buffer.metrics = s.buffer.metrics)
    (hjournal : s'.journal = s.journal) : Agrees cancelled others s' := by
  have hreturns : s'.cancelledReturns = s.cancelledReturns := by
    rw [cancelledReturns, hjournal, cancelledReturns]
  have hlosses : s'.cancelledLosses = s.cancelledLosses := by
    rw [cancelledLosses, hjournal, cancelledLosses]
  constructor
  · rw [hledger, hmetrics, h.ingested]
  · rw [hledger, hmetrics, h.processed]
  · rw [hledger, hmetrics, h.depth]
  · rw [hledger, h.lost]
  · rw [hledger, hreturns, h.requeued]
  · rw [hreturns, hlosses, h.cancelled]
  · rw [hledger, hmetrics, h.totalErrors]

/-- An event that is not about a cancelled delivery is not in the books. -/
theorem record (h : Agrees cancelled others s) {e : Event} (hreturn : e.isCancelledReturn = false)
    (hloss : e.isCancelledLoss = false) : Agrees cancelled others (s.record e) where
  ingested := h.ingested
  processed := h.processed
  depth := h.depth
  lost := h.lost
  requeued := by
    rw [cancelledReturns_record, hreturn]
    exact h.requeued
  cancelled := by
    rw [cancelledReturns_record, cancelledLosses_record, hreturn, hloss]
    exact h.cancelled
  totalErrors := h.totalErrors

/-- How long a batch took is in the ledger only. -/
theorem observeBatch (h : Agrees cancelled others s) (started : Nat) :
    Agrees cancelled others (s.observeBatch started) :=
  ⟨h.ingested, h.processed, h.depth, h.lost, h.requeued, h.cancelled, h.totalErrors⟩

/-- Another queue, with the gauge of the ledger after it, and other storage. -/
theorem withQueue (h : Agrees cancelled others s) (queue : List Entry) (storage : Storage) :
    Agrees cancelled others ({ s with buffer := s.buffer.withQueue queue, storage }.gauge) :=
  ⟨h.ingested, h.processed, rfl, h.lost, h.requeued, h.cancelled, h.totalErrors⟩

theorem accepting (h : Agrees cancelled others s) (f : Fields) :
    Agrees cancelled others (s.accepting f) where
  ingested := congrArg (· + 1) h.ingested
  processed := h.processed
  depth := rfl
  lost := h.lost
  requeued := h.requeued
  cancelled := h.cancelled
  totalErrors := h.totalErrors

theorem delivered (h : Agrees cancelled others s) (hopen : s.buffer.isOpen = true)
    (d : Delivery) : Agrees cancelled others (s.delivered d) := by
  have hentered : s.delivered d =
      { s with
        buffer := s.buffer.markProcessed d.latency s.now
        ledger := { s.ledger with processed := s.ledger.processed + 1 } } := if_pos hopen
  have hmetrics : (s.buffer.markProcessed d.latency s.now).metrics =
      { s.buffer.metrics with
        totalProcessed := s.buffer.metrics.totalProcessed + 1
        lastProcessingMs := d.latency
        lastProcessedAt := s.now } := by
    rw [Buffer.markProcessed, if_pos hopen]
  rw [hentered]
  constructor
  · rw [hmetrics]
    exact h.ingested
  · rw [hmetrics]
    exact congrArg (· + 1) h.processed
  · rw [hmetrics]
    exact h.depth
  · exact h.lost
  · exact h.requeued
  · exact h.cancelled
  · rw [hmetrics]
    exact h.totalErrors

/-- An error of the buffer, before anybody has said of which kind it is. -/
theorem markError (h : Agrees cancelled others s) (hopen : s.buffer.isOpen = true) :
    Agrees cancelled (others + 1) s.markError := by
  rw [markError_of_open hopen]
  exact
    { ingested := h.ingested
      processed := h.processed
      depth := h.depth
      lost := h.lost
      requeued := h.requeued
      cancelled := h.cancelled
      totalErrors := congrArg (· + 1) h.totalErrors }

/-- An error that the buffer has counted is entered as an exceeded capacity, or as storage that was
refused. -/
theorem refusalCounted (h : Agrees cancelled (others + 1) s) {k : ErrorKind}
    (hk : k = .capacityExceeded ∨ k = .allocationFailure) :
    Agrees cancelled others (s.countError k) := by
  have htotal := h.totalErrors
  have hloss : k ≠ .requeueLoss := by rcases hk with rfl | rfl <;> decide
  have hfailed : k ≠ .persistenceError := by rcases hk with rfl | rfl <;> decide
  constructor
  · exact h.ingested
  · exact h.processed
  · exact h.depth
  · rw [countError_get, if_neg hloss]
    exact h.lost
  · rw [countError_get, if_neg hfailed]
    exact h.requeued
  · exact h.cancelled
  · change s.buffer.metrics.totalErrors = _
    rcases hk with rfl | rfl <;> simp only [countError_get, reduceCtorEq, if_true, if_false] <;>
      omega

/-- An error that the buffer has counted is entered as the error of a delivery, and the entry as one
that went back. -/
theorem deliveryFailed (h : Agrees cancelled (others + 1) s) :
    Agrees cancelled others (s.countRequeued.countError .persistenceError) := by
  have htotal := h.totalErrors
  have hrequeued := h.requeued
  constructor
  · exact h.ingested
  · exact h.processed
  · exact h.depth
  · rw [countError_get]
    exact h.lost
  · rw [countError_get, if_pos rfl]
    change s.ledger.requeued + 1 = s.ledger.errors.get .persistenceError + 1 + s.cancelledReturns
    omega
  · exact h.cancelled
  · simp only [countError_get, reduceCtorEq, if_true, if_false]
    change s.buffer.metrics.totalErrors = s.ledger.errors.get _ + 0 + (s.ledger.errors.get _ + 0) +
      (s.ledger.errors.get _ + 1) + (s.ledger.errors.get _ + 0) + others
    omega

/-- An error that the buffer has counted is entered as a loss. -/
theorem lossCounted (h : Agrees cancelled (others + 1) s) :
    Agrees cancelled others (s.countLost.countError .requeueLoss) := by
  have htotal := h.totalErrors
  constructor
  · exact h.ingested
  · exact h.processed
  · exact h.depth
  · rw [countError_get, if_pos rfl]
    exact congrArg (· + 1) h.lost
  · rw [countError_get]
    exact h.requeued
  · exact h.cancelled
  · simp only [countError_get, reduceCtorEq, if_true, if_false]
    change s.buffer.metrics.totalErrors = s.ledger.errors.get _ + 0 + (s.ledger.errors.get _ + 0) +
      (s.ledger.errors.get _ + 0) + (s.ledger.errors.get _ + 1) + others
    omega

/-- A delivery whose error has been counted is entered under the kind of its error. -/
theorem recover (h : Agrees cancelled (others + 1) s) (e : Entry) (processed : Nat)
    (why : SinkError) : Agrees cancelled others (s.recover e processed why).2 := by
  obtain ⟨answer, s', hs, hexit⟩ := s.requeueFront_exits e
  rw [Station.recover, hs]
  cases answer with
  | ok u =>
      cases hexit
      exact ((h.withQueue _ _).record rfl rfl).deliveryFailed.record rfl rfl
  | error refusal =>
      obtain ⟨storage, rfl⟩ := hexit.refused
      have hsame : Agrees cancelled (others + 1) { s with storage } := h.of_same rfl rfl rfl
      exact hsame.lossCounted.record rfl rfl

/-- A cancelled delivery that went back is no error. -/
theorem cancelledReturn (h : Agrees cancelled others s) (id : Nat) :
    Agrees (cancelled + 1) others (s.countRequeued.record (.deliveryCancelled id)) := by
  have hrequeued := h.requeued
  have hcancelled := h.cancelled
  have hreturns : (s.countRequeued.record (.deliveryCancelled id)).cancelledReturns =
      s.cancelledReturns + 1 := cancelledReturns_record s.countRequeued _
  have hlosses : (s.countRequeued.record (.deliveryCancelled id)).cancelledLosses =
      s.cancelledLosses := cancelledLosses_record s.countRequeued _
  constructor
  · exact h.ingested
  · exact h.processed
  · exact h.depth
  · exact h.lost
  · rw [hreturns]
    change s.ledger.requeued + 1 = s.ledger.errors.get .persistenceError + _
    omega
  · omega
  · exact h.totalErrors

/-- A cancelled delivery that is lost, after the loss has been counted. -/
theorem cancelledLoss (h : Agrees cancelled others s) (id : Nat) (refusal : EngineError) :
    Agrees (cancelled + 1) others (s.record (.cancellationLost id refusal)) := by
  have hcancelled := h.cancelled
  have hreturns : (s.record (.cancellationLost id refusal)).cancelledReturns =
      s.cancelledReturns := cancelledReturns_record s _
  have hlosses : (s.record (.cancellationLost id refusal)).cancelledLosses =
      s.cancelledLosses + 1 := cancelledLosses_record s _
  constructor
  · exact h.ingested
  · exact h.processed
  · exact h.depth
  · exact h.lost
  · rw [hreturns]
    exact h.requeued
  · omega
  · exact h.totalErrors

/-- A cancelled delivery is entered as one that went back, or as a loss. -/
theorem abandon (h : Agrees cancelled others s) (hopen : s.buffer.isOpen = true) (e : Entry) :
    Agrees (cancelled + 1) others (s.abandon e) := by
  obtain ⟨answer, s', hs, hexit⟩ := s.requeueFront_exits e
  rw [Station.abandon, hs]
  cases answer with
  | ok u =>
      cases hexit
      exact ((h.withQueue _ _).record rfl rfl).cancelledReturn e.id
  | error refusal =>
      obtain ⟨storage, rfl⟩ := hexit.refused
      have hsame : Agrees cancelled others { s with storage } := h.of_same rfl rfl rfl
      exact (hsame.markError hopen).lossCounted.cancelledLoss e.id refusal

end Agrees

/-! ## Errands and moves -/

/-- An errand enters what it does in both sets of books. -/
theorem Errand.booked {cancelled others : Nat} {s s' : Station σ} (h : Errand s s')
    (hs : Booked cancelled others s) : Booked cancelled others s' := by
  cases h with
  | enqueue f =>
      obtain ⟨answer, s', hs', hexit⟩ := s.enqueue_exits f
      rw [hs']
      cases hexit with
      | accepted _ _ => exact fun hopen => (hs hopen).accepting f
      | invalid _ =>
          intro hopen
          have hagrees := hs hopen
          -- a validation error is in no line of the books
          refine ⟨hagrees.ingested, hagrees.processed, hagrees.depth, ?_, ?_, hagrees.cancelled, ?_⟩
          · rw [countError_get]
            exact hagrees.lost
          · rw [countError_get]
            exact hagrees.requeued
          · simp only [countError_get]
            exact hagrees.totalErrors
      | closed _ hclosed => exact hs
      | full _ hopen _ =>
          intro _
          have hcounted := (hs hopen).markError hopen
          rw [markError_of_open hopen] at hcounted
          exact hcounted.refusalCounted (Or.inl rfl)
      | short hrefusal _ =>
          have hopen := ((s.buffer.refusal?_eq_none_iff f).1 hrefusal).2.1
          intro _
          have hcounted := (hs hopen).markError hopen
          rw [markError_of_open hopen] at hcounted
          have hasked : Agrees cancelled (others + 1)
              { s with buffer := s.buffer.countError, storage := s.storage.rest } :=
            hcounted.of_same rfl rfl rfl
          exact hasked.refusalCounted (Or.inr rfl)
  | close =>
      -- whatever it was before, the buffer is closed now
      intro hopen
      rw [close_buffer, Buffer.close_snd] at hopen
      split at hopen
      · simp at hopen
      · exact absurd hopen ‹_›
  | moveClock move => exact fun hopen => (hs hopen).of_same rfl rfl rfl
  | reached depth => exact fun hopen => (hs hopen).record rfl rfl

theorem Errands.booked {cancelled others : Nat} {s s' : Station σ} (h : Errands s s')
    (hs : Booked cancelled others s) : Booked cancelled others s' :=
  h.induction (P := Booked cancelled others) Errand.booked hs

section

variable [Sink σ]

/-- While a call is pending errands are run, and the call itself is not in the books. -/
theorem Called.booked {cancelled others : Nat} {s s' : Station σ} {call : Call} {answer : Answer}
    (h : Called s call answer s') (hs : Booked cancelled others s) :
    Booked cancelled others s' := by
  cases h with
  | intro herrands =>
      have hstarted : Booked cancelled others { s with sink := (Sink.receive call s.sink).2 } :=
        fun hopen => (hs hopen).of_same rfl rfl rfl
      exact fun hopen => (herrands.booked hstarted hopen).of_same rfl rfl rfl

/-- The books of a station whose sink keeps a trace. -/
def TraceBooked (s : Station (Traced σ)) : Prop :=
  Booked (cancelledIn s.sink.trace) (refusedSnapshotsIn s.sink.trace) s

/-- What a call adds to the counts of a trace. -/
theorem Called.counts {s s' : Station (Traced σ)} {call : Call} {answer : Answer}
    (h : Called s call answer s') :
    cancelledIn s'.sink.trace =
        cancelledIn s.sink.trace + cancelledIn [.started call, .ended call answer] ∧
      refusedSnapshotsIn s'.sink.trace =
        refusedSnapshotsIn s.sink.trace +
          refusedSnapshotsIn [.started call, .ended call answer] := by
  rw [h.trace]
  exact ⟨cancelledIn_append _ _, refusedSnapshotsIn_append _ _⟩

/-- Each move of the processor enters what it does in both sets of books. -/
theorem Move.booked {s s' : Station (Traced σ)} (h : Move s s') (hs : TraceBooked s) :
    TraceBooked s' := by
  have htaken {taken : Station (Traced σ)} {e : Entry}
      (hdequeue : s.dequeue = (.ok (some e), taken)) : TraceBooked taken := by
    obtain ⟨rest, -, rfl⟩ := dequeue_taken_eq hdequeue
    exact fun hopen => (hs hopen).withQueue rest s.storage
  -- the end of the call moves the counts of the trace, and what follows it the books
  intro hopen
  cases h with
  | @accepted taken ended e hdequeue hcall =>
      obtain ⟨hcancelled, hrefused⟩ := hcall.counts
      rw [delivered_buffer, Buffer.markProcessed_isOpen] at hopen
      rw [(ended.delivered_aside _).sink, hcancelled, hrefused]
      exact (hcall.booked (htaken hdequeue) hopen).delivered hopen _
  | @refused taken ended e why started processed hdequeue hcall =>
      obtain ⟨hcancelled, hrefused⟩ := hcall.counts
      rw [recover_isOpen] at hopen
      have hopen' : ended.buffer.isOpen = true := ended.markError_isOpen.symm.trans hopen
      have hagrees := hcall.booked (htaken hdequeue) hopen'
      have hsink : ((ended.markError.observeBatch started).recover e processed why).2.sink =
          ended.sink := (recover_aside _ e processed why).sink
      rw [hsink, hcancelled, hrefused]
      exact ((hagrees.markError hopen').observeBatch started).recover e processed why
  | @stalled taken ended e hdequeue hcall =>
      obtain ⟨hcancelled, hrefused⟩ := hcall.counts
      rw [abandon_isOpen] at hopen
      rw [(ended.abandon_aside e).sink, hcancelled, hrefused]
      exact (hcall.booked (htaken hdequeue) hopen).abandon hopen e
  | snapshotSkipped why => exact (hs hopen).record rfl rfl
  | @snapshotEnded ended m answer _ hcall hanswer =>
      obtain ⟨hcancelled, hrefused⟩ := hcall.counts
      have hnone : refusedSnapshotsIn [.started (.snapshot m), .ended (.snapshot m) answer] = 0 := by
        cases answer with
        | accepted => rfl
        | refused why => exact absurd rfl (hanswer why)
        | stalled => rfl
      rw [hcancelled, hrefused, hnone]
      exact hcall.booked hs hopen
  | @snapshotRefused ended m why _ hcall =>
      obtain ⟨hcancelled, hrefused⟩ := hcall.counts
      have hopen' : ended.buffer.isOpen = true := ended.markError_isOpen.symm.trans hopen
      have hagrees := ((hcall.booked hs hopen').markError hopen').record
        (show (Event.snapshotRefused why).isCancelledReturn = false from rfl) rfl
      change Agrees (cancelledIn ended.sink.trace) (refusedSnapshotsIn ended.sink.trace) _
      rw [hcancelled, hrefused]
      exact hagrees
  | finished started processed => exact ((hs hopen).observeBatch started).record rfl rfl

theorem Moves.booked {s s' : Station (Traced σ)} (h : Moves s s') (hs : TraceBooked s) :
    TraceBooked s' :=
  h.induction (P := TraceBooked) Move.booked hs

end

/-! ## Batches -/

section

variable [Sink σ] {intrude : Station σ → Intrusion → Station σ}

/-- A loop of deliveries that fails in a delivery is entered as a batch when that happens, and no
other loop is. -/
theorem Delivers.batches {started remaining processed : Nat} {s s' : Station σ}
    {outcome : Outcome Nat} (hloop : Delivers intrude started remaining processed s outcome s')
    (h : OnlyErrands intrude s.busy) :
    s'.ledger.batches = s.ledger.batches + if outcome.isFailedDelivery = true then 1 else 0 := by
  have hcalled {s taken ended : Station σ} {e : Entry} {answer : Answer}
      (h : OnlyErrands intrude s.busy) (hdequeue : s.dequeue = (.ok (some e), taken))
      (hcall : taken.callSink intrude (.log (taken.deliveryOf e)) = (answer, ended)) :
      ended.busy = s.busy ∧ ended.ledger.batches = s.ledger.batches := by
    have htaken := dequeue_aside hdequeue
    obtain ⟨hbusy, -, hdurations⟩ := (called_of_callSink (h.of_eq htaken.busy) hcall).aside
    exact ⟨hbusy.trans htaken.busy, congrArg List.length (hdurations.trans htaken.durations)⟩
  induction hloop with
  | limit => rfl
  | closed _ => rfl
  | empty _ _ => rfl
  | @accepted _ _ _ taken ended _ e _ hdequeue hcall _ ih =>
      obtain ⟨hbusy, hbatches⟩ := hcalled h hdequeue hcall
      have hdelivered := ended.delivered_aside (taken.deliveryOf e)
      rw [ih (h.of_eq (hdelivered.busy.trans hbusy))]
      have hsame : (ended.delivered (taken.deliveryOf e)).ledger.batches =
          ended.ledger.batches := congrArg List.length hdelivered.durations
      rw [hsame, hbatches]
  | @refused _ processed _ _ ended after e why error hdequeue hcall hrecover =>
      obtain ⟨-, hbatches⟩ := hcalled h hdequeue hcall
      obtain ⟨_, _, hs', -, -, hentry⟩ :=
        (ended.markError.observeBatch started).recover_spec e processed why
      have haside := (ended.markError.observeBatch started).recover_aside e processed why
      obtain ⟨rfl, rfl⟩ := Prod.mk.inj (hrecover.symm.trans hs')
      rw [hrecover] at haside
      have hone : after.ledger.batches = ended.ledger.batches + 1 :=
        congrArg List.length haside.durations
      have hdelivery : (Outcome.failed error : Outcome Nat).isFailedDelivery = true := by
        rcases hentry with ⟨-, rfl, -⟩ | ⟨refusal, -, rfl, -⟩
        · rfl
        · rfl
      rw [hone, hbatches, if_pos hdelivery]
  | @stalled _ _ _ _ ended e hdequeue hcall =>
      obtain ⟨-, hbatches⟩ := hcalled h hdequeue hcall
      have hsame : (ended.abandon e).ledger.batches = ended.ledger.batches :=
        congrArg List.length (ended.abandon_aside e).durations
      rw [hsame, hbatches]
      rfl

theorem persistSnapshot_batches {s : Station σ} (h : OnlyErrands intrude s.busy) :
    (s.persistSnapshot intrude).2.ledger.batches = s.ledger.batches := by
  rw [persistSnapshot]
  cases s.buffer.snapshot with
  | error why => rfl
  | ok metrics =>
      dsimp only
      rcases hcall : s.callSink intrude (.snapshot metrics) with ⟨answer, ended⟩
      have hbatches : ended.ledger.batches = s.ledger.batches :=
        congrArg List.length (called_of_callSink h hcall).aside.2.2
      cases answer <;> exact hbatches

/-- A batch is entered as one exactly if it was answered or failed in a delivery. -/
theorem process_batches (maxItems : Nat) {s : Station σ} (h : OnlyErrands intrude s.busy) :
    (s.process intrude maxItems).2.ledger.batches = s.ledger.batches +
      if (s.process intrude maxItems).1.isObserved = true then 1 else 0 := by
  have hloop : Delivers intrude s.clock.elapsed (s.batchLimit maxItems) 0 s _ _ :=
    deliver_delivers _ _ _ _
  have hdeliver := hloop.batches h
  have hbusy := (hloop.moves h).busy
  rcases hend : s.deliver intrude s.clock.elapsed (s.batchLimit maxItems) 0 with
    ⟨n | why | _, s₁⟩ <;> rw [hend] at hdeliver hbusy
  · have hsnapshot := (persistSnapshot_batches (h.of_eq hbusy)).trans hdeliver
    have hfinished (t : Station σ) (n : Nat) :
        (t.finishBatch s.clock.elapsed n).2.ledger.batches = t.ledger.batches + 1 := rfl
    rcases process_of_answered hend with ⟨-, hs⟩ | ⟨-, -, hs⟩ | ⟨-, -, hs⟩ <;> rw [hs]
    · rw [hfinished, hdeliver]
      rfl
    · exact hsnapshot
    · rw [hfinished, hsnapshot]
      rfl
  · rw [process_of_failed hend]
    exact hdeliver
  · rw [process_of_abandoned hend]
    exact hdeliver

end

end Station

end LogSpool
