import LogSpool.Proofs.Engine.History
import LogSpool.Sink.Memory
import LogSpool.Sink.Scripted

/-!
# The books of a session

This module holds the result on the two sets of books over whole sessions.  A session that begins
with empty books keeps them in agreement, whatever the sink and the storage answer and whoever comes
back to the spool while a call is pending; and its ledger has entered the batches that were answered
or failed in a delivery, and no others.

* `Station.Tallied` — which batches of a session are entered in the ledger.
* `History.tallied`, `History.agrees` — what every history from empty books leads to.
* `books_agree` — the two sets of books after every session.
-/

namespace LogSpool

namespace Station

variable {σ : Type}

/-- What a session has entered in the ledger as batches: it has a history, and in every history of
it these are the batches that were answered or failed in a delivery. -/
structure Tallied [Sink σ] (locked : Bool) (s s' : Station (Traced σ)) : Prop where
  history : ∃ calls, History locked s calls s'
  batches : ∀ calls, History locked s calls s' →
    s'.ledger.batches = calls.countP Outcome.isObserved

theorem History.tallied [Sink σ] {locked : Bool} {s s' : Station (Traced σ)}
    {calls : List (Outcome BatchReport)} (h : History locked s calls s')
    (hledger : s.ledger.batches = 0) : Tallied locked s s' where
  history := ⟨calls, h⟩
  batches := by
    intro calls' h'
    rw [h'.batches, hledger, Nat.zero_add]

/-- A new buffer in a new ledger has empty books. -/
theorem agrees_around {capacity : Nat} {now : Int} {b : Buffer}
    (hb : Buffer.create capacity now = .ok b) (sink : σ) (clock : Clock) (batch : Nat)
    (storage : Storage) : Agrees 0 0 (around b sink clock batch storage) := by
  obtain rfl := Buffer.create_ok hb
  exact ⟨rfl, rfl, rfl, rfl, rfl, rfl, rfl⟩

/-- Histories keep the books in agreement, also of the session without its trace. -/
theorem History.agrees [Sink σ] {locked : Bool} {s : Station σ} {s' : Station (Traced σ)}
    {calls : List (Outcome BatchReport)} (h : History locked s.withTrace calls s')
    (hs : Agrees 0 0 s) {after : Station σ} (hafter : s'.map Traced.inner = after)
    (hopen : after.buffer.isOpen = true) :
    Agrees (cancelledIn s'.sink.trace) (refusedSnapshotsIn s'.sink.trace) after := by
  subst hafter
  have hempty : Agrees 0 0 s.withTrace := hs.of_same rfl rfl rfl
  exact (h.booked (fun _ => hempty) hopen).of_same rfl rfl rfl

end Station

/-- The two sets of books agree.  Whatever a session asks of a buffer with its processor, or of an
engine, the metrics of the buffer and the counters of the process say the same whenever the buffer
is open and no call is pending: about entries handed in, delivered and queued, about losses, about
entries that went back after a refusal or a cancellation, and about errors of every kind, those among
them where storage was refused.  Here the cancelled deliveries and the refused snapshots are those in
the trace of the sink, which changes nothing about the session.  Batches are entered if they were
answered or failed in a delivery.  An entry whose fields break a rule is counted under a kind of its
own, and nowhere else. -/
theorem books_agree {capacity : Nat} {now : Int} {b : Buffer}
    (hb : Buffer.create capacity now = .ok b) (storage : Storage) :
    (∀ (σ : Type) [Sink σ] (sink : σ) (clock : Clock) (batch : Nat)
      (ops : List (Station.Operation σ)),
      let s := Station.around b sink clock batch storage
      let after := s.run ops
      (s.runTraced ops).map Traced.inner = after ∧
      (after.buffer.isOpen = true → after.Agrees (cancelledIn (s.trace ops))
        (refusedSnapshotsIn (s.trace ops))) ∧
      Station.Tallied false s.withTrace (s.runTraced ops)) ∧
    (∀ (σ : Type) [Sink σ] (config : EngineConfig) (sink : σ) (clock : Clock) (e : Engine σ),
      Engine.withSink config sink clock storage = .ok e → ∀ ops : List (Engine.Operation σ),
      let after := e.run ops
      (e.runTraced ops).map Traced.inner = after ∧
      (after.isOpen = true → after.station.Agrees (cancelledIn (e.trace ops))
        (refusedSnapshotsIn (e.trace ops))) ∧
      Station.Tallied true e.withTrace.station (e.runTraced ops).station) ∧
    (∀ (σ : Type) (s : Station σ) (f : Fields) (fault : FieldFault), f.fault? = some fault →
      s.enqueue f = (.error (.validation fault.reason), s.countError .validationError)) := by
  refine ⟨?_, ?_, ?_⟩
  · intro σ _ sink clock batch ops s after
    obtain ⟨calls, hcalls⟩ := s.run_history ops
    have hafter := s.runTraced_inner ops
    exact ⟨hafter, hcalls.agrees (Station.agrees_around hb sink clock batch storage) hafter,
      hcalls.tallied rfl⟩
  · intro σ _ config sink clock e he ops after
    obtain ⟨-, b', hb', hstation⟩ := Engine.withSink_eq he
    obtain ⟨calls, hcalls⟩ := e.run_history ops
    have hafter := e.runTraced_inner ops
    have hempty : Station.Agrees 0 0 e.station := by
      rw [hstation]
      exact (Station.agrees_around hb' sink clock _ storage).record rfl rfl
    have hledger : e.withTrace.station.ledger.batches = 0 := by
      change e.station.ledger.batches = 0
      rw [hstation]
      rfl
    exact ⟨hafter, hcalls.agrees hempty (congrArg Engine.station hafter), hcalls.tallied hledger⟩
  · intro σ s f fault hfault
    rw [Station.enqueue, Buffer.enqueue_of_fault hfault]
    rfl

/-- An entry comes in, and none after it for want of storage.  Two deliveries are cancelled, and one
of the entries is lost since its place was taken; then one is refused, and one is taken, but not the
snapshot after it; and at last one is refused and lost, since there is no storage for it. -/
theorem books_agree_of_cancelled_deliveries :
    let fields : Fields := ⟨"INFO", "app", "a"⟩
    let b : Buffer := ⟨2, [], 1, .initial 2 0, true⟩
    let sink : Scripted MemorySink :=
      ⟨[⟨.none, .stall⟩, ⟨⟨0, none, [.fill fields]⟩, .stall⟩, ⟨.none, .refuse (.unavailable "")⟩,
        ⟨.none, .passOn⟩, ⟨.none, .refuse (.unavailable "")⟩],
        [⟨.none, .refuse (.unavailable "")⟩], [], [], .withRetention 1⟩
    let storage : Storage :=
      ⟨[none, some .exhausted, none, none, none, none, some .exhausted]⟩
    let s := Station.around b sink ⟨0, 0⟩ 1 storage
    let ops : List (Station.Operation (Scripted MemorySink)) :=
      [.enqueue fields, .enqueue fields, .process 1, .process 1, .process 1, .process 1, .process 1]
    let after := s.run ops
    Buffer.create 2 0 = .ok b ∧ cancelledIn (s.trace ops) = 2 ∧
      refusedSnapshotsIn (s.trace ops) = 1 ∧ after.lostIds = [1, 3] ∧ after.ledger.requeued = 2 ∧
      after.ledger.errors.get .allocationFailure = 1 ∧
      after.buffer.metrics.totalErrors = 6 ∧ after.ledger.batches = 3 ∧
      after.Agrees (cancelledIn (s.trace ops)) (refusedSnapshotsIn (s.trace ops)) := by
  dsimp only
  have hb : Buffer.create 2 0 = .ok ⟨2, [], 1, .initial 2 0, true⟩ := rfl
  exact ⟨hb, by decide, by decide, by decide, by decide, by decide, by decide, by decide,
    ((books_agree hb _).1 _ _ _ _ _).2.1 (by decide)⟩

end LogSpool
