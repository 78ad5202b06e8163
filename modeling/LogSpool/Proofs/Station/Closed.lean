import LogSpool.Proofs.Station.Move
import LogSpool.Proofs.Station.Offer

/-!
# Stations whose buffer is closed

This module says what a station does once its buffer has been closed: it refuses.  Nothing that
others do moves the buffer any more, and the processor calls the sink no more.  Only a batch that
was under way when the buffer was closed, by somebody who came while its call was pending, still has
that call to settle: a delivery that the sink takes is not recorded, and any other is lost, since
its entry cannot go back.

* `Ledger.ofEntries` — the part of the ledger that a closed buffer keeps.
* `Shut` — the buffer has been closed, and both its gauges are at zero.
* `dequeue_of_closed` and its like — what each operation comes to, as an equation.
* `Rests`, `Errands.rests` — others change nothing about the buffer.
* `Regular` — what every errand and every move keeps: a closed buffer has been shut.
* `WindsUp`, `process_windsUp` — the rest of a batch whose buffer was closed.
-/

namespace LogSpool

/-- What the ledger says of the entries that were let in: everything but the count of invalid fields
and the durations of batches. -/
def Ledger.ofEntries (l : Ledger) : Ledger :=
  { l with errors := { l.errors with validation := 0 }, durations := [] }

namespace Station

variable {σ : Type}

/-- The buffer has been closed: it is empty, and so say its gauges and the gauge of the process. -/
structure Shut (s : Station σ) : Prop where
  closed : s.buffer.isOpen = false
  queue : s.buffer.queue = []
  depth : s.buffer.metrics.queueDepth = 0
  memory : s.buffer.metrics.memoryBytes = 0
  gauge : s.ledger.queueDepth = 0

/-- A shut buffer is shut around any sink. -/
theorem Shut.of_same {τ : Type} {s : Station σ} {s' : Station τ} (h : s.Shut)
    (hbuffer : s'.buffer = s.buffer) (hgauge : s'.ledger.queueDepth = s.ledger.queueDepth) :
    s'.Shut where
  closed := hbuffer ▸ h.closed
  queue := hbuffer ▸ h.queue
  depth := hbuffer ▸ h.depth
  memory := hbuffer ▸ h.memory
  gauge := hgauge.trans h.gauge

/-- Closing shuts. -/
theorem close_shut {s : Station σ} (hopen : s.buffer.isOpen = true) : s.close.2.Shut := by
  rw [close_of_open hopen]
  exact ⟨rfl, rfl, rfl, Nat.zero_mul _, rfl⟩

/-! ## Operations -/

/-- The fields of an entry are checked before anything else. -/
theorem enqueue_of_fault (s : Station σ) {f : Fields} {fault : FieldFault}
    (hfault : f.fault? = some fault) :
    s.enqueue f = (.error (.validation fault.reason), s.countError .validationError) := by
  rw [enqueue, Buffer.enqueue_of_fault hfault]
  rfl

section Operations

variable {s : Station σ} (hclosed : s.buffer.isOpen = false)

include hclosed

theorem enqueue_of_closed {f : Fields} (hfields : f.fault? = none) :
    s.enqueue f = (.error .notInitialized, s) := by
  rw [enqueue, Buffer.enqueue_of_closed hclosed hfields]
  rfl

theorem dequeue_of_closed : s.dequeue = (.error .notInitialized, s) := by
  rw [dequeue, Buffer.dequeue_of_closed hclosed]

theorem requeueFront_of_closed (e : Entry) : s.requeueFront e = (.error .notInitialized, s) := by
  rw [requeueFront, Buffer.requeueFront_of_closed hclosed]
  rfl

theorem markProcessed_of_closed (latency : Float) : s.markProcessed latency = s := by
  rw [markProcessed, Buffer.markProcessed_of_closed hclosed, hclosed]
  rfl

theorem markError_of_closed : s.markError = s := by
  rw [markError, Buffer.markError_of_closed hclosed]

theorem close_of_closed : s.close = (0, s) := by
  rw [close, Buffer.close_of_closed hclosed, hclosed]
  rfl

/-- An entry that the sink refused is lost. -/
theorem recover_of_closed (e : Entry) (processed : Nat) (why : SinkError) :
    s.recover e processed why =
      (.requeueLoss e.id processed EngineError.notInitialized.message why,
        (s.countLost.countError .requeueLoss).record
          (.deliveryLost e.id processed why .notInitialized)) := by
  rw [recover, requeueFront_of_closed hclosed]

/-- An entry whose delivery was given up is lost. -/
theorem abandon_of_closed (e : Entry) : s.abandon e =
    (s.countLost.countError .requeueLoss).record (.cancellationLost e.id .notInitialized) := by
  rw [abandon, requeueFront_of_closed hclosed]
  dsimp only
  rw [markError_of_closed hclosed]

variable [Sink σ] (intrude : Station σ → Intrusion → Station σ)

/-- A loop of deliveries ends before its next entry. -/
theorem deliver_of_closed (started remaining processed : Nat) :
    s.deliver intrude started remaining processed =
      (if remaining = 0 then .answered processed else .failed .notInitialized, s) := by
  cases remaining with
  | zero => rfl
  | succ remaining =>
      rw [deliver, dequeue_of_closed hclosed]
      rfl

/-- There is no snapshot to hand over. -/
theorem persistSnapshot_of_closed :
    s.persistSnapshot intrude = (.answered (), s.record (.snapshotSkipped .notInitialized)) := by
  have hsnapshot : s.buffer.snapshot = .error .notInitialized :=
    Buffer.read_of_closed hclosed Buffer.metrics
  rw [persistSnapshot, hsnapshot]

/-- A batch that may take an entry fails at once. -/
theorem process_of_closed (hbatch : 0 < s.defaultBatch) (maxItems : Nat) :
    s.process intrude maxItems = (.failed .notInitialized, s) := by
  have hlimit : s.batchLimit maxItems ≠ 0 := by
    unfold batchLimit
    split <;> omega
  rw [process, deliver_of_closed hclosed, if_neg hlimit]

end Operations

/-! ## Others -/

/-- Nothing has changed about the buffer and the losses, and nothing about the ledger but the count of
invalid fields. -/
structure Rests (s s' : Station σ) : Prop where
  buffer : s'.buffer = s.buffer
  ledger : s'.ledger.ofEntries = s.ledger.ofEntries
  durations : s'.ledger.durations = s.ledger.durations
  lostIds : s'.lostIds = s.lostIds
  defaultBatch : s'.defaultBatch = s.defaultBatch

namespace Rests

variable {s s' s'' : Station σ}

theorem refl (s : Station σ) : Rests s s :=
  ⟨rfl, rfl, rfl, rfl, rfl⟩

theorem trans (h : Rests s s') (h' : Rests s' s'') : Rests s s'' :=
  ⟨h'.buffer.trans h.buffer, h'.ledger.trans h.ledger, h'.durations.trans h.durations,
    h'.lostIds.trans h.lostIds, h'.defaultBatch.trans h.defaultBatch⟩

theorem shut (h : Rests s s') (hs : s.Shut) : s'.Shut := by
  have hgauge := congrArg Ledger.queueDepth h.ledger
  exact hs.of_same h.buffer hgauge

end Rests

/-- Once the buffer is closed, errands do not move it. -/
theorem Errand.rests {s s' : Station σ} (h : Errand s s') (hclosed : s.buffer.isOpen = false) :
    Rests s s' := by
  have hnot (hopen : s.buffer.isOpen = true) : Rests s s' :=
    absurd (hopen.symm.trans hclosed) (by decide)
  have hlost := h.produces.beside.lostIds
  have hbatch := h.aside.defaultBatch
  cases h with
  | enqueue f =>
      obtain ⟨answer, s', hs', hexit⟩ := s.enqueue_exits f
      rw [hs'] at hlost hbatch hnot ⊢
      cases hexit with
      | accepted hnone _ => exact hnot ((s.buffer.refusal?_eq_none_iff f).1 hnone).2.1
      | invalid _ => exact ⟨rfl, rfl, rfl, hlost, hbatch⟩
      | closed _ _ => exact .refl s
      | full _ hopen _ => exact hnot hopen
      | short hnone _ => exact hnot ((s.buffer.refusal?_eq_none_iff f).1 hnone).2.1
  | close =>
      rw [close_of_closed hclosed]
      exact .refl s
  | moveClock move => exact ⟨rfl, rfl, rfl, hlost, hbatch⟩
  | reached depth => exact ⟨rfl, rfl, rfl, hlost, hbatch⟩

theorem Errands.rests {s s' : Station σ} (h : Errands s s') (hclosed : s.buffer.isOpen = false) :
    Rests s s' :=
  h.induction (P := Rests s) (fun herrand ht => ht.trans (herrand.rests (ht.buffer ▸ hclosed)))
    (.refl s)

/-! ## Closed buffers have been shut -/

/-- A buffer that is closed has been shut, and a batch may take at least one entry by default. -/
structure Regular (s : Station σ) : Prop where
  shut : s.buffer.isOpen = false → s.Shut
  batch : 0 < s.defaultBatch

/-- What neither opens nor closes a buffer, and leaves a closed one alone. -/
theorem Regular.of_isOpen {s s' : Station σ} (hs : s.Regular)
    (hopen : s'.buffer.isOpen = s.buffer.isOpen) (hbatch : s'.defaultBatch = s.defaultBatch)
    (hsame : s.buffer.isOpen = false → s' = s) : s'.Regular where
  shut hclosed := by
    have hclosed' := hopen.symm.trans hclosed
    rw [hsame hclosed']
    exact hs.shut hclosed'
  batch := hbatch ▸ hs.batch

/-- What has been taken out was taken out of an open buffer. -/
theorem dequeue_regular {s taken : Station σ} {e : Entry}
    (hdequeue : s.dequeue = (.ok (some e), taken)) (hs : s.Regular) : taken.Regular := by
  obtain ⟨hopen, -⟩ := dequeue_taken hdequeue
  obtain ⟨rest, -, rfl⟩ := dequeue_taken_eq hdequeue
  exact hs.of_isOpen rfl rfl fun hclosed => absurd (hopen.symm.trans hclosed) (by decide)

theorem Errand.regular {s s' : Station σ} (h : Errand s s') (hs : s.Regular) : s'.Regular where
  batch := h.aside.defaultBatch ▸ hs.batch
  shut := by
    intro hclosed'
    cases hopen : s.buffer.isOpen with
    | false => exact (h.rests hopen).shut (hs.shut hopen)
    | true =>
        -- only one errand closes an open buffer
        have hnot {s' : Station σ} (hstill : s'.buffer.isOpen = s.buffer.isOpen)
            (hclosed' : s'.buffer.isOpen = false) : s'.Shut :=
          absurd (hopen.symm.trans (hstill.symm.trans hclosed')) (by decide)
        cases h with
        | enqueue f =>
            obtain ⟨answer, s', hs', hexit⟩ := s.enqueue_exits f
            rw [hs'] at hclosed' ⊢
            cases hexit <;> exact hnot rfl hclosed'
        | close => exact close_shut hopen
        | moveClock move => exact hnot rfl hclosed'
        | reached depth => exact hnot rfl hclosed'

theorem Errands.regular {s s' : Station σ} (h : Errands s s') (hs : s.Regular) : s'.Regular :=
  h.induction (P := Regular) Errand.regular hs

section

variable [Sink σ]

theorem Called.regular {s s' : Station σ} {call : Call} {answer : Answer}
    (h : Called s call answer s') (hs : s.Regular) : s'.Regular := by
  cases h with
  | intro herrands =>
      have hstarted : Regular { s with sink := (Sink.receive call s.sink).2 } :=
        ⟨fun hclosed => (hs.shut hclosed).of_same rfl rfl, hs.batch⟩
      have hended := herrands.regular hstarted
      exact ⟨fun hclosed => (hended.shut hclosed).of_same rfl rfl, hended.batch⟩

/-- No move closes a buffer, and a closed one is not moved. -/
theorem Move.regular {s s' : Station σ} (h : Move s s') (hs : s.Regular) : s'.Regular := by
  have hbatch : 0 < s'.defaultBatch := h.settings.2 ▸ hs.batch
  have hended {taken ended : Station σ} {e : Entry} {call : Call} {answer : Answer}
      (hdequeue : s.dequeue = (.ok (some e), taken)) (hcall : Called taken call answer ended) :
      ended.Regular := hcall.regular (dequeue_regular hdequeue hs)
  refine ⟨fun hclosed => ?_, hbatch⟩
  cases h with
  | @accepted taken ended e hdequeue hcall =>
      rw [delivered_buffer, Buffer.markProcessed_isOpen] at hclosed
      rw [delivered, markProcessed_of_closed hclosed]
      exact (hended hdequeue hcall).shut hclosed
  | @refused taken ended e why started processed hdequeue hcall =>
      rw [recover_isOpen] at hclosed
      have hclosed' : ended.buffer.isOpen = false := ended.markError_isOpen.symm.trans hclosed
      rw [recover_of_closed hclosed, markError_of_closed hclosed']
      exact ((hended hdequeue hcall).shut hclosed').of_same rfl rfl
  | @stalled taken ended e hdequeue hcall =>
      rw [abandon_isOpen] at hclosed
      rw [abandon_of_closed hclosed]
      exact ((hended hdequeue hcall).shut hclosed).of_same rfl rfl
  | snapshotSkipped why => exact (hs.shut hclosed).of_same rfl rfl
  | snapshotEnded _ hcall _ => exact (hcall.regular hs).shut hclosed
  | @snapshotRefused ended _ _ _ hcall =>
      have hclosed' : ended.buffer.isOpen = false := ended.markError_isOpen.symm.trans hclosed
      rw [markError_of_closed hclosed']
      exact ((hcall.regular hs).shut hclosed').of_same rfl rfl
  | finished started processed => exact (hs.shut hclosed).of_same rfl rfl

theorem Moves.regular {s s' : Station σ} (h : Moves s s') (hs : s.Regular) : s'.Regular :=
  h.induction (P := Regular) Move.regular hs

end

/-! ## The rest of a batch -/

section

variable [Sink σ] {intrude : Station σ → Intrusion → Station σ}

/-- A loop of deliveries that calls the sink with an entry goes on from the station at which it took
the entry out. -/
theorem Offers.deliver_eq {limit : Nat} {s t : Station σ} {e : Entry}
    (hoffers : Offers intrude limit s e t) (started processed : Nat) :
    ∃ (s₀ : Station σ) (limit₀ processed₀ : Nat), s₀.dequeue = (.ok (some e), t) ∧
      s.deliver intrude started limit processed =
        s₀.deliver intrude started (limit₀ + 1) processed₀ := by
  induction hoffers generalizing processed with
  | @first limit s _ _ htaken => exact ⟨s, limit, processed, htaken, rfl⟩
  | later htaken hcall _ ih =>
      obtain ⟨s₀, limit₀, processed₀, htaken₀, hrest⟩ := ih (processed + 1)
      refine ⟨s₀, limit₀, processed₀, htaken₀, ?_⟩
      rw [← hrest, deliver, htaken]
      dsimp only
      rw [hcall]

/-- When the sink is called with an entry the buffer is open, or has been shut. -/
theorem Offers.regular {limit : Nat} {s t : Station σ} {e : Entry}
    (hoffers : Offers intrude limit s e t) (h : OnlyErrands intrude s.busy) (hs : s.Regular) :
    t.Regular := by
  induction hoffers with
  | first hdequeue => exact dequeue_regular hdequeue hs
  | later hdequeue hcall _ ih =>
      have hcalled := called_of_callSink (h.of_eq (dequeue_aside hdequeue).busy) hcall
      have hmove : Move _ _ := .accepted hdequeue hcalled
      exact ih (h.of_eq hmove.busy) (hmove.regular hs)

/-- What a batch leaves whose buffer was closed at `closed`, while the sink was called with an entry.
The buffer is what it was then, and the sink has been asked for the end of that call and for nothing
else.  If it took the entry nothing is lost, and nothing is counted; else that entry is lost, once,
and this is counted. -/
structure WindsUp (d : Delivery) (closed s' : Station σ) : Prop where
  buffer : s'.buffer = closed.buffer
  sink : s'.sink = (Sink.settle (.log d) closed.sink).2
  delivered : (Sink.settle (.log d) closed.sink).1 = .accepted →
    s'.lostIds = closed.lostIds ∧ s'.ledger.ofEntries = closed.ledger.ofEntries
  lost : (Sink.settle (.log d) closed.sink).1 ≠ .accepted →
    s'.lostIds = closed.lostIds ++ [d.entry.id] ∧
      s'.ledger.ofEntries = (closed.countLost.countError .requeueLoss).ledger.ofEntries

theorem WindsUp.of_same {d : Delivery} {closed s' s'' : Station σ} (h : WindsUp d closed s')
    (hbuffer : s''.buffer = s'.buffer) (hsink : s''.sink = s'.sink)
    (hledger : s''.ledger.ofEntries = s'.ledger.ofEntries) (hlost : s''.lostIds = s'.lostIds) :
    WindsUp d closed s'' where
  buffer := hbuffer.trans h.buffer
  sink := hsink.trans h.sink
  delivered haccepted := by
    rw [hlost, hledger]
    exact h.delivered haccepted
  lost hanswer := by
    rw [hlost, hledger]
    exact h.lost hanswer

omit [Sink σ] in
/-- A loss is counted alike in ledgers that say the same of the entries. -/
theorem countLost_ofEntries {s s' : Station σ} (h : s'.ledger.ofEntries = s.ledger.ofEntries) :
    (s'.countLost.countError .requeueLoss).ledger.ofEntries =
      (s.countLost.countError .requeueLoss).ledger.ofEntries :=
  congrArg (fun l : Ledger => { l with lost := l.lost + 1, errors := l.errors.bump .requeueLoss }) h

/-- The call ends as it would have, and whoever comes before its end changes nothing more. -/
theorem callSink_closed {s closed : Station σ} (h : OnlyErrands intrude s.busy) {call : Call}
    {before after : List Intrusion}
    (hsplit : (Sink.receive call s.sink).1.intrusions = before ++ after)
    (hclosed : before.foldl intrude (s.calling call) = closed)
    (hisOpen : closed.buffer.isOpen = false) :
    ∃ ended, s.callSink intrude call = ((Sink.settle call closed.sink).1, ended) ∧
      Rests closed ended ∧ ended.sink = (Sink.settle call closed.sink).2 := by
  have hbusy : closed.busy = s.busy := by
    have hcalling : (s.calling call).busy = s.busy := rfl
    rw [← hclosed]
    exact (h.foldl before hcalling).aside.busy.trans hcalling
  have herrands : Errands closed (after.foldl intrude closed) := (h.of_eq hbusy).foldl after rfl
  have hrests := herrands.rests hisOpen
  have hsink := herrands.aside.sink
  have hcall : s.callSink intrude call =
      ((Sink.settle call (after.foldl intrude closed).sink).1,
        { after.foldl intrude closed with
          sink := (Sink.settle call (after.foldl intrude closed).sink).2 }) := by
    rw [← hclosed, ← List.foldl_append, ← hsplit]
    rfl
  rw [hsink] at hcall
  exact ⟨_, hcall, ⟨hrests.buffer, hrests.ledger, hrests.durations, hrests.lostIds,
    hrests.defaultBatch⟩, rfl⟩

/-- A loop of deliveries whose buffer was closed while the sink was called settles the entry in
flight and ends. -/
theorem deliver_windsUp {s t closed : Station σ} (h : OnlyErrands intrude s.busy) {limit : Nat}
    {e : Entry} (hoffers : Offers intrude limit s e t) {before after : List Intrusion}
    (hsplit : (Sink.receive (.log (t.deliveryOf e)) t.sink).1.intrusions = before ++ after)
    (hclosed : before.foldl intrude (t.calling (.log (t.deliveryOf e))) = closed)
    (hisOpen : closed.buffer.isOpen = false) (started processed : Nat) :
    WindsUp (t.deliveryOf e) closed (s.deliver intrude started limit processed).2 := by
  have hbusy : t.busy = s.busy := hoffers.busy h.produces
  obtain ⟨ended, hcall, hrests, hsink⟩ := callSink_closed (h.of_eq hbusy) hsplit hclosed hisOpen
  have hended : ended.buffer.isOpen = false := hrests.buffer ▸ hisOpen
  obtain ⟨s₀, limit₀, processed₀, htaken, hrest⟩ := hoffers.deliver_eq started processed
  rw [hrest, deliver, htaken]
  dsimp only
  rw [hcall]
  -- whatever the answer is, it finds the buffer closed
  cases hanswer : (Sink.settle (.log (t.deliveryOf e)) closed.sink).1 with
  | accepted =>
      dsimp only
      rw [delivered, markProcessed_of_closed hended, deliver_of_closed hended]
      exact ⟨hrests.buffer, hsink, fun _ => ⟨hrests.lostIds, hrests.ledger⟩,
        fun hother => absurd hanswer hother⟩
  | refused why =>
      have hlost : ((ended.countLost.countError .requeueLoss).record
          (.deliveryLost e.id processed₀ why .notInitialized)).lostIds = ended.lostIds ++ [e.id] :=
        lostIds_record _ _
      dsimp only
      rw [markError_of_closed hended, recover_of_closed (s := ended.observeBatch started) hended]
      exact ⟨hrests.buffer, hsink, fun haccepted => by simp [hanswer] at haccepted, fun _ =>
        ⟨hlost.trans (congrArg (· ++ [e.id]) hrests.lostIds), countLost_ofEntries hrests.ledger⟩⟩
  | stalled =>
      have hlost : ((ended.countLost.countError .requeueLoss).record
          (.cancellationLost e.id .notInitialized)).lostIds = ended.lostIds ++ [e.id] :=
        lostIds_record _ _
      dsimp only
      rw [abandon_of_closed hended]
      exact ⟨hrests.buffer, hsink, fun haccepted => by simp [hanswer] at haccepted, fun _ =>
        ⟨hlost.trans (congrArg (· ++ [e.id]) hrests.lostIds), countLost_ofEntries hrests.ledger⟩⟩

/-- A batch whose buffer was closed while the sink was called with an entry settles this entry, and
calls the sink no more: not with another entry, and not with a snapshot. -/
theorem process_windsUp {s t closed : Station σ} (h : OnlyErrands intrude s.busy) {maxItems : Nat}
    {e : Entry} (hoffers : Offers intrude (s.batchLimit maxItems) s e t)
    {before after : List Intrusion}
    (hsplit : (Sink.receive (.log (t.deliveryOf e)) t.sink).1.intrusions = before ++ after)
    (hclosed : before.foldl intrude (t.calling (.log (t.deliveryOf e))) = closed)
    (hisOpen : closed.buffer.isOpen = false) :
    WindsUp (t.deliveryOf e) closed (s.process intrude maxItems).2 := by
  have hdeliver := deliver_windsUp h hoffers hsplit hclosed hisOpen s.clock.elapsed 0
  have hfinished (s₁ : Station σ) (n : Nat) :
      (s₁.finishBatch s.clock.elapsed n).2.lostIds = s₁.lostIds :=
    (Beside.record (show Beside s₁ (s₁.observeBatch s.clock.elapsed) from
      ⟨rfl, rfl, rfl, id⟩) rfl).lostIds
  rcases hend : s.deliver intrude s.clock.elapsed (s.batchLimit maxItems) 0 with
    ⟨n | why | _, s₁⟩ <;> rw [hend] at hdeliver
  · have hskipped : s₁.persistSnapshot intrude =
        (.answered (), s₁.record (.snapshotSkipped .notInitialized)) :=
      persistSnapshot_of_closed (hdeliver.buffer ▸ hisOpen) intrude
    have hrecord : (s₁.record (.snapshotSkipped .notInitialized)).lostIds = s₁.lostIds :=
      ((Beside.refl s₁).record rfl).lostIds
    rcases process_of_answered hend with ⟨-, hs⟩ | ⟨-, hgiven, -⟩ | ⟨-, -, hs⟩
    · rw [hs]
      exact hdeliver.of_same rfl rfl rfl (hfinished s₁ 0)
    · rw [hskipped] at hgiven
      cases hgiven
    · rw [hs, hskipped]
      exact hdeliver.of_same rfl rfl rfl ((hfinished _ n).trans hrecord)
  · rw [process_of_failed hend]
    exact hdeliver
  · rw [process_of_abandoned hend]
    exact hdeliver

end

end Station

end LogSpool
