import LogSpool.Batch
import LogSpool.Proofs.Buffer.Operations

/-!
# What each operation of a station does

This module says what the operations of a station do to its buffer, and that they leave alone what
is none of their business: the sink, the mark that a batch is under way, and the reports of losses
in the journal.

* `Event.lostId?` — the entry that an event reports as lost; `lostId?_eq_some_iff` says which events
  these are.
* `Station.DropsOnce` — exactly one event of the journal says that an entry was dropped.
* `Station.Beside` — two stations that differ in their buffers and counters at most.
* `recover_spec`, `abandon_spec` — the two ways of settling a delivery that did not succeed.
* `Delivers` — the exits of the loop of deliveries; what holds of each exit holds of every loop.
-/

namespace LogSpool

/-- The entry that an event reports as lost. -/
def Event.lostId? : Event → Option Nat
  | .deliveryLost id _ _ _ => some id
  | .cancellationLost id _ => some id
  | _ => none

/-- An event is the error that says that an entry was dropped, and it names the entry. -/
def Event.Drops (e : Event) (id : Nat) : Prop :=
  e.severity = .error ∧ e.message = "requeue failed, log dropped" ∧
    e.details.lookup "log_id" = some (.natural id)

/-- The events that report an entry as lost are the errors that say it was dropped. -/
theorem Event.lostId?_eq_some_iff (e : Event) (id : Nat) : e.lostId? = some id ↔ e.Drops id := by
  have hnatural (n : Nat) : Json.natural n = Json.natural id ↔ n = id :=
    ⟨fun h => by injection h with h; omega, congrArg Json.natural⟩
  cases e <;> simp [Drops, lostId?, severity, message, details, hnatural]

namespace Station

variable {σ : Type}

/-- The entries that the journal reports as lost, the earliest first. -/
def lostIds (s : Station σ) : List Nat :=
  s.journal.reverse.filterMap Event.lostId?

/-- Exactly one event of the journal says that an entry was dropped. -/
def DropsOnce (s : Station σ) (id : Nat) : Prop :=
  ∃ later e earlier, s.journal = later ++ e :: earlier ∧ e.Drops id ∧
    ∀ other ∈ later ++ earlier, ¬ other.Drops id

theorem mem_lostIds {s : Station σ} {id : Nat} :
    id ∈ s.lostIds ↔ ∃ e ∈ s.journal, e.Drops id := by
  simp [lostIds, List.mem_filterMap, Event.lostId?_eq_some_iff]

theorem lostIds_record (s : Station σ) (e : Event) :
    (s.record e).lostIds = s.lostIds ++ e.lostId?.toList := by
  cases h : e.lostId? <;> simp [lostIds, record, h]

/-- Two stations with the same sink, of which both or none are busy, and whose journals report the
same losses.  Where the storage of one is ample, so is that of the other. -/
structure Beside (s s' : Station σ) : Prop where
  sink : s'.sink = s.sink
  busy : s'.busy = s.busy
  lostIds : s'.lostIds = s.lostIds
  ample : s.storage = .ample → s'.storage = .ample

namespace Beside

theorem refl (s : Station σ) : Beside s s :=
  ⟨rfl, rfl, rfl, id⟩

theorem trans {s s' s'' : Station σ} (h : Beside s s') (h' : Beside s' s'') : Beside s s'' :=
  ⟨h'.sink.trans h.sink, h'.busy.trans h.busy, h'.lostIds.trans h.lostIds, h'.ample ∘ h.ample⟩

/-- The answer to a request for storage leaves ample storage ample. -/
theorem of_after {α : Type} {s s' : Station σ} {answer : Except EngineError α}
    (hstorage : s'.storage = s.storage.after answer) (hsink : s'.sink = s.sink)
    (hbusy : s'.busy = s.busy) (hlost : s'.lostIds = s.lostIds) : Beside s s' :=
  ⟨hsink, hbusy, hlost, fun h => hstorage.trans (Storage.after_ample answer h)⟩

/-- An event that reports no loss adds none. -/
theorem record {s s' : Station σ} (h : Beside s s') {e : Event} (he : e.lostId? = none) :
    Beside s (s'.record e) :=
  ⟨h.sink, h.busy, by simp [lostIds_record, he, h.lostIds], h.ample⟩

end Beside

/-! ## Operations of the buffer -/

/-- An entry that is handed in is handed in to the buffer of the station. -/
theorem enqueue_cases (s : Station σ) (f : Fields) :
    ∃ answer s', s.enqueue f = (answer, s') ∧
      s.buffer.enqueue f s.now s.storage.shortage? = (answer, s'.buffer) ∧
      s'.storage = s.storage.after answer ∧ Beside s s' := by
  suffices h : ∃ answer s', s.enqueue f = (answer, s') ∧
      s.buffer.enqueue f s.now s.storage.shortage? = (answer, s'.buffer) ∧
      s'.storage = s.storage.after answer ∧ s'.sink = s.sink ∧ s'.busy = s.busy ∧
      s'.lostIds = s.lostIds by
    obtain ⟨answer, s', hs, hb, hstorage, hsink, hbusy, hlost⟩ := h
    exact ⟨answer, s', hs, hb, hstorage, .of_after hstorage hsink hbusy hlost⟩
  unfold enqueue
  rcases s.buffer.enqueue f s.now s.storage.shortage? with ⟨why | id, b⟩
  · cases why <;> exact ⟨_, _, rfl, rfl, rfl, rfl, rfl, rfl⟩
  · exact ⟨_, _, rfl, rfl, rfl, rfl, rfl, rfl⟩

theorem enqueue_buffer (s : Station σ) (f : Fields) :
    (s.enqueue f).1 = (s.buffer.enqueue f s.now s.storage.shortage?).1 ∧
      (s.enqueue f).2.buffer = (s.buffer.enqueue f s.now s.storage.shortage?).2 := by
  obtain ⟨answer, t, hs, hb, -⟩ := s.enqueue_cases f
  rw [hs, hb]
  exact ⟨rfl, rfl⟩

theorem enqueue_beside (s : Station σ) (f : Fields) : Beside s (s.enqueue f).2 := by
  obtain ⟨answer, t, hs, -, -, hbeside⟩ := s.enqueue_cases f
  rw [hs]
  exact hbeside

/-- An entry that is taken out is taken out of the buffer of the station. -/
theorem dequeue_cases (s : Station σ) :
    ∃ answer s', s.dequeue = (answer, s') ∧ s.buffer.dequeue = (answer, s'.buffer) ∧
      Beside s s' ∧ s'.clock = s.clock ∧ s'.storage = s.storage := by
  unfold dequeue
  rcases s.buffer.dequeue with ⟨why | _ | e, b⟩ <;>
    exact ⟨_, _, rfl, rfl, ⟨rfl, rfl, rfl, id⟩, rfl, rfl⟩

/-- What is taken out was the oldest entry of an open buffer, and only the buffer is touched. -/
theorem dequeue_taken {s s' : Station σ} {e : Entry} (h : s.dequeue = (.ok (some e), s')) :
    s.buffer.isOpen = true ∧
      (∃ rest, s.buffer.queue = e :: rest ∧ s'.buffer = s.buffer.withQueue rest) ∧
      Beside s s' ∧ s'.clock = s.clock ∧ s'.storage = s.storage := by
  obtain ⟨answer, s₁, hs, hdequeue, hbeside, hclock, hstorage⟩ := s.dequeue_cases
  obtain ⟨rfl, rfl⟩ := Prod.mk.inj (h.symm.trans hs)
  obtain ⟨hopen, hrest⟩ := Buffer.dequeue_taken hdequeue
  exact ⟨hopen, hrest, hbeside, hclock, hstorage⟩

/-- When an entry is taken out the gauge follows, and nothing else changes. -/
theorem dequeue_taken_eq {s s' : Station σ} {e : Entry} (h : s.dequeue = (.ok (some e), s')) :
    ∃ rest, s.buffer.queue = e :: rest ∧
      s' = { s with buffer := s.buffer.withQueue rest }.gauge := by
  unfold dequeue at h
  rcases hb : s.buffer.dequeue with ⟨why' | _ | e', b⟩ <;> rw [hb] at h
  · simp at h
  · simp at h
  · obtain ⟨-, rest, hqueue, rfl⟩ := Buffer.dequeue_taken hb
    obtain ⟨he, rfl⟩ := Prod.mk.inj h
    obtain rfl : e' = e := Option.some.inj (Except.ok.inj he)
    exact ⟨rest, hqueue, rfl⟩

/-- The oldest entry of an open buffer is taken out. -/
theorem dequeue_of_queue {s : Station σ} {e : Entry} {rest : List Entry}
    (hopen : s.buffer.isOpen = true) (hqueue : s.buffer.queue = e :: rest) :
    s.dequeue = (.ok (some e), { s with buffer := s.buffer.withQueue rest }.gauge) := by
  simp [dequeue, Buffer.dequeue, hopen, hqueue]

/-- Nothing is taken out of a closed buffer. -/
theorem dequeue_refused {s s' : Station σ} {why : EngineError}
    (h : s.dequeue = (.error why, s')) :
    s.buffer.isOpen = false ∧ why = .notInitialized ∧ s' = s := by
  unfold dequeue at h
  rcases hb : s.buffer.dequeue with ⟨why' | _ | e, b⟩ <;> rw [hb] at h
  · obtain ⟨hclosed, rfl, rfl⟩ := Buffer.dequeue_refused hb
    obtain ⟨hwhy, rfl⟩ := Prod.mk.inj h
    exact ⟨hclosed, (Except.error.inj hwhy).symm, rfl⟩
  · simp at h
  · simp at h

/-- Nothing is taken out of an empty queue. -/
theorem dequeue_nothing {s s' : Station σ} (h : s.dequeue = (.ok none, s')) :
    s.buffer.isOpen = true ∧ s.buffer.queue = [] ∧ s' = s := by
  unfold dequeue at h
  rcases hb : s.buffer.dequeue with ⟨why' | _ | e, b⟩ <;> rw [hb] at h
  · simp at h
  · obtain ⟨hopen, hempty, rfl⟩ := Buffer.dequeue_nothing hb
    obtain ⟨-, rfl⟩ := Prod.mk.inj h
    exact ⟨hopen, hempty, rfl⟩
  · simp at h

/-- An entry that goes back, goes back to the buffer of the station. -/
theorem requeueFront_cases (s : Station σ) (entry : Entry) :
    ∃ answer s', s.requeueFront entry = (answer, s') ∧
      s.buffer.requeueFront entry s.storage.shortage? = (answer, s'.buffer) ∧
      s'.storage = s.storage.after answer ∧ Beside s s' := by
  unfold requeueFront
  rcases s.buffer.requeueFront entry s.storage.shortage? with ⟨refusal | u, b⟩
  · exact ⟨_, _, rfl, rfl, rfl, ⟨rfl, rfl, rfl, fun h => Storage.after_ample (.error refusal) h⟩⟩
  · refine ⟨_, _, rfl, rfl, rfl, Beside.record ?_ ?_⟩
    · exact ⟨rfl, rfl, rfl, fun h => Storage.after_ample (.ok u) h⟩
    · rfl

/-- The station whose buffer has taken an entry back. -/
def requeueing (s : Station σ) (e : Entry) : Station σ :=
  ({ s with
    buffer := s.buffer.withQueue (e :: s.buffer.queue)
    storage := s.storage.rest }.gauge).record (.requeued e.id)

/-- How putting an entry back ends, exit by exit. -/
inductive Requeues (s : Station σ) (e : Entry) : Except EngineError Unit → Station σ → Prop where
  | accepted : s.buffer.isOpen = true → s.buffer.size < s.buffer.capacity →
    s.storage.shortage? = none → Requeues s e (.ok ()) (s.requeueing e)
  | closed : s.buffer.isOpen = false → Requeues s e (.error .notInitialized) s
  | full : s.buffer.isOpen = true → s.buffer.capacity ≤ s.buffer.size →
    Requeues s e (.error (.capacityExceeded s.buffer.capacity)) s
  | short {why : Shortage} : s.buffer.isOpen = true → s.buffer.size < s.buffer.capacity →
    s.storage.shortage? = some why →
    Requeues s e (.error (.allocationFailure why)) { s with storage := s.storage.rest }

/-- An entry goes back where an open buffer has room and storage for it, and with it the gauge; else
the buffer stays as it is, and the refusal says what is missing. -/
theorem requeueFront_exits (s : Station σ) (e : Entry) :
    ∃ answer s', s.requeueFront e = (answer, s') ∧ Requeues s e answer s' := by
  cases hopen : s.buffer.isOpen with
  | false =>
      refine ⟨_, _, ?_, .closed hopen⟩
      simp [requeueFront, Buffer.requeueFront, hopen, Storage.after]
  | true =>
      by_cases hfull : s.buffer.capacity ≤ s.buffer.size
      · refine ⟨_, _, ?_, .full hopen hfull⟩
        simp [requeueFront, Buffer.requeueFront, hopen, hfull, Storage.after]
      · cases hshort : s.storage.shortage? with
        | some why =>
            refine ⟨_, _, ?_, .short hopen (Nat.lt_of_not_le hfull) hshort⟩
            simp [requeueFront, Buffer.requeueFront, hopen, hfull, hshort, Storage.after]
        | none =>
            refine ⟨_, _, ?_, .accepted hopen (Nat.lt_of_not_le hfull) hshort⟩
            simp [requeueFront, requeueing, Buffer.requeueFront, hopen, hfull, hshort,
              Storage.after]

/-- Where an entry does not go back, nothing changes but the answers of storage to come. -/
theorem Requeues.refused {s s' : Station σ} {e : Entry} {why : EngineError}
    (h : Requeues s e (.error why) s') : ∃ storage, s' = { s with storage } := by
  cases h with
  | closed _ => exact ⟨_, rfl⟩
  | full _ _ => exact ⟨_, rfl⟩
  | short _ _ _ => exact ⟨_, rfl⟩

/-- An entry goes back to an open buffer with room and storage. -/
theorem requeueFront_of_room {s : Station σ} (hopen : s.buffer.isOpen = true)
    (hroom : s.buffer.size < s.buffer.capacity) (hstorage : s.storage.shortage? = none)
    (e : Entry) : s.requeueFront e = (.ok (), s.requeueing e) := by
  obtain ⟨answer, s', hs, hexit⟩ := s.requeueFront_exits e
  rw [hs]
  cases hexit with
  | accepted => rfl
  | closed hclosed => simp [hopen] at hclosed
  | full _ hfull => omega
  | short _ _ hshort => simp [hstorage] at hshort

theorem markProcessed_buffer (s : Station σ) (latency : Float) :
    (s.markProcessed latency).buffer = s.buffer.markProcessed latency s.now := by
  unfold markProcessed
  dsimp only
  split <;> rfl

theorem markProcessed_beside (s : Station σ) (latency : Float) :
    Beside s (s.markProcessed latency) := by
  unfold markProcessed
  dsimp only
  split <;> exact ⟨rfl, rfl, rfl, id⟩

theorem markProcessed_storage (s : Station σ) (latency : Float) :
    (s.markProcessed latency).storage = s.storage := by
  unfold markProcessed
  dsimp only
  split <;> rfl

theorem delivered_storage (s : Station σ) (d : Delivery) :
    (s.delivered d).storage = s.storage :=
  s.markProcessed_storage d.latency

theorem delivered_buffer (s : Station σ) (d : Delivery) :
    (s.delivered d).buffer = s.buffer.markProcessed d.latency s.now :=
  s.markProcessed_buffer d.latency

theorem delivered_beside (s : Station σ) (d : Delivery) : Beside s (s.delivered d) :=
  s.markProcessed_beside d.latency

theorem delivered_clock (s : Station σ) (d : Delivery) : (s.delivered d).clock = s.clock := by
  unfold delivered markProcessed
  dsimp only
  split <;> rfl

/-- To close an open buffer drops what is queued, and with it the gauge. -/
theorem close_of_open {s : Station σ} (hopen : s.buffer.isOpen = true) : s.close =
    (s.buffer.size,
      ({ s with buffer := { s.buffer.withQueue [] with isOpen := false } }.gauge).record
        (.closed s.buffer.size)) := by
  simp [close, Buffer.close, hopen]

theorem close_buffer (s : Station σ) : s.close.2.buffer = s.buffer.close.2 := by
  unfold close
  dsimp only
  split <;> rfl

theorem close_beside (s : Station σ) : Beside s s.close.2 := by
  unfold close
  dsimp only
  split
  · apply Beside.record
    · exact ⟨rfl, rfl, rfl, id⟩
    · rfl
  · exact ⟨rfl, rfl, rfl, id⟩

theorem close_storage (s : Station σ) : s.close.2.storage = s.storage := by
  unfold close
  dsimp only
  split <;> rfl

/-! ## Deliveries that did not succeed -/

/-- A refused entry is back at the head, and the error says so; or it could not go back, and both
the error and the journal say that it is lost. -/
theorem recover_spec (s : Station σ) (entry : Entry) (processed : Nat) (why : SinkError) :
    ∃ error s', s.recover entry processed why = (error, s') ∧ s'.sink = s.sink ∧
      s'.busy = s.busy ∧
      ((s.buffer.requeueFront entry s.storage.shortage? = (.ok (), s'.buffer) ∧
          error = .persistence entry.id processed why ∧ s'.lostIds = s.lostIds) ∨
        ∃ refusal, s.buffer.requeueFront entry s.storage.shortage? = (.error refusal, s'.buffer) ∧
          error = .requeueLoss entry.id processed refusal.message why ∧
          s'.lostIds = s.lostIds ++ [entry.id]) := by
  obtain ⟨answer, s', hs, hb, -, hbeside⟩ := s.requeueFront_cases entry
  rw [recover, hs]
  cases answer with
  | ok u =>
      refine ⟨_, _, rfl, hbeside.sink, hbeside.busy, Or.inl ⟨hb, rfl, ?_⟩⟩
      rw [lostIds_record]
      exact (List.append_nil _).trans hbeside.lostIds
  | error refusal =>
      refine ⟨_, _, rfl, hbeside.sink, hbeside.busy, Or.inr ⟨refusal, hb, rfl, ?_⟩⟩
      rw [lostIds_record]
      exact congrArg (· ++ [entry.id]) hbeside.lostIds

/-- An abandoned entry is back at the head; or it could not go back, which is counted as an error,
and the journal says that it is lost. -/
theorem abandon_spec (s : Station σ) (entry : Entry) :
    (s.abandon entry).sink = s.sink ∧ (s.abandon entry).busy = s.busy ∧
      ((s.buffer.requeueFront entry s.storage.shortage? = (.ok (), (s.abandon entry).buffer) ∧
          (s.abandon entry).lostIds = s.lostIds) ∨
        ∃ refusal b, s.buffer.requeueFront entry s.storage.shortage? = (.error refusal, b) ∧
          (s.abandon entry).buffer = b.markError ∧
          (s.abandon entry).lostIds = s.lostIds ++ [entry.id]) := by
  obtain ⟨answer, s', hs, hb, -, hbeside⟩ := s.requeueFront_cases entry
  rw [abandon, hs]
  cases answer with
  | ok u =>
      refine ⟨hbeside.sink, hbeside.busy, Or.inl ⟨hb, ?_⟩⟩
      rw [lostIds_record]
      exact (List.append_nil _).trans hbeside.lostIds
  | error refusal =>
      refine ⟨hbeside.sink, hbeside.busy, Or.inr ⟨refusal, s'.buffer, hb, rfl, ?_⟩⟩
      rw [lostIds_record]
      exact congrArg (· ++ [entry.id]) hbeside.lostIds

/-- A refused entry is back at the head of an open buffer with room and storage. -/
theorem recover_of_room {s : Station σ} (hopen : s.buffer.isOpen = true)
    (hroom : s.buffer.size < s.buffer.capacity) (hstorage : s.storage.shortage? = none)
    (e : Entry) (processed : Nat) (why : SinkError) :
    (s.recover e processed why).1 = .persistence e.id processed why ∧
      (s.recover e processed why).2.buffer = s.buffer.withQueue (e :: s.buffer.queue) := by
  rw [recover, requeueFront_of_room hopen hroom hstorage]
  exact ⟨rfl, rfl⟩

/-- An abandoned entry is back at the head of an open buffer with room and storage. -/
theorem abandon_of_room {s : Station σ} (hopen : s.buffer.isOpen = true)
    (hroom : s.buffer.size < s.buffer.capacity) (hstorage : s.storage.shortage? = none)
    (e : Entry) : (s.abandon e).buffer = s.buffer.withQueue (e :: s.buffer.queue) := by
  rw [abandon, requeueFront_of_room hopen hroom hstorage]
  rfl

theorem recover_isOpen (s : Station σ) (e : Entry) (processed : Nat) (why : SinkError) :
    (s.recover e processed why).2.buffer.isOpen = s.buffer.isOpen := by
  obtain ⟨answer, s', hs, hexit⟩ := s.requeueFront_exits e
  rw [recover, hs]
  cases hexit <;> rfl

theorem markError_isOpen (s : Station σ) :
    s.markError.buffer.isOpen = s.buffer.isOpen := by
  change s.buffer.markError.isOpen = s.buffer.isOpen
  rcases s.buffer.markError_eq with h | h <;> rw [h]
  rfl

theorem markError_of_open {s : Station σ} (hopen : s.buffer.isOpen = true) :
    s.markError = { s with buffer := s.buffer.countError } :=
  congrArg (fun b => { s with buffer := b }) (if_pos hopen)

theorem abandon_isOpen (s : Station σ) (e : Entry) :
    (s.abandon e).buffer.isOpen = s.buffer.isOpen := by
  obtain ⟨answer, s', hs, hexit⟩ := s.requeueFront_exits e
  rw [abandon, hs]
  cases hexit with
  | accepted _ _ _ => rfl
  | closed _ => exact s.markError_isOpen
  | full _ _ => exact s.markError_isOpen
  | short _ _ _ => exact s.markError_isOpen

/-! ## Batches -/

section

variable [Sink σ] {intrude : Station σ → Intrusion → Station σ} {maxItems : Nat} {s s₁ : Station σ}

/-- The loop of deliveries as a relation, exit by exit: how it ends that may take a number of
entries, after another number has been delivered. -/
inductive Delivers (intrude : Station σ → Intrusion → Station σ) (started : Nat) :
    Nat → Nat → Station σ → Outcome Nat → Station σ → Prop
  | limit {processed : Nat} {s : Station σ} :
    Delivers intrude started 0 processed s (.answered processed) s
  | closed {remaining processed : Nat} {s : Station σ} : s.buffer.isOpen = false →
    Delivers intrude started (remaining + 1) processed s (.failed .notInitialized) s
  | empty {remaining processed : Nat} {s : Station σ} :
    s.buffer.isOpen = true → s.buffer.queue = [] →
    Delivers intrude started (remaining + 1) processed s (.answered processed) s
  | accepted {remaining processed : Nat} {s s₁ s₂ s' : Station σ} {e : Entry}
    {outcome : Outcome Nat} : s.dequeue = (.ok (some e), s₁) →
    s₁.callSink intrude (.log (s₁.deliveryOf e)) = (.accepted, s₂) →
    Delivers intrude started remaining (processed + 1) (s₂.delivered (s₁.deliveryOf e)) outcome s' →
    Delivers intrude started (remaining + 1) processed s outcome s'
  | refused {remaining processed : Nat} {s s₁ s₂ s' : Station σ} {e : Entry} {why : SinkError}
    {error : EngineError} : s.dequeue = (.ok (some e), s₁) →
    s₁.callSink intrude (.log (s₁.deliveryOf e)) = (.refused why, s₂) →
    (s₂.markError.observeBatch started).recover e processed why = (error, s') →
    Delivers intrude started (remaining + 1) processed s (.failed error) s'
  | stalled {remaining processed : Nat} {s s₁ s₂ : Station σ} {e : Entry} :
    s.dequeue = (.ok (some e), s₁) →
    s₁.callSink intrude (.log (s₁.deliveryOf e)) = (.stalled, s₂) →
    Delivers intrude started (remaining + 1) processed s .abandoned (s₂.abandon e)

/-- The loop ends in one of these ways. -/
theorem deliver_delivers (started remaining processed : Nat) (s : Station σ) :
    Delivers intrude started remaining processed s
      (s.deliver intrude started remaining processed).1
      (s.deliver intrude started remaining processed).2 := by
  induction remaining generalizing processed s with
  | zero => exact .limit
  | succ remaining ih =>
      rw [deliver]
      rcases htaken : s.dequeue with ⟨why | _ | e, s₁⟩
      · obtain ⟨hclosed, rfl, rfl⟩ := dequeue_refused htaken
        exact .closed hclosed
      · obtain ⟨hopen, hempty, rfl⟩ := dequeue_nothing htaken
        exact .empty hopen hempty
      · dsimp only
        rcases hcall : s₁.callSink intrude (.log (s₁.deliveryOf e)) with ⟨answer, s₂⟩
        cases answer with
        | accepted => exact .accepted htaken hcall (ih _ _)
        | refused why => exact .refused htaken hcall rfl
        | stalled => exact .stalled htaken hcall

theorem delivers_of_deliver {started remaining processed : Nat} {s s' : Station σ}
    {outcome : Outcome Nat} (h : s.deliver intrude started remaining processed = (outcome, s')) :
    Delivers intrude started remaining processed s outcome s' := by
  have hloop : Delivers intrude started remaining processed s _ _ := deliver_delivers _ _ _ _
  rwa [h] at hloop

/-- A batch whose deliveries failed ends there. -/
theorem process_of_failed {why : EngineError}
    (h : s.deliver intrude s.clock.elapsed (s.batchLimit maxItems) 0 = (.failed why, s₁)) :
    s.process intrude maxItems = (.failed why, s₁) := by
  rw [process, h]

/-- A batch that was given up ends there. -/
theorem process_of_abandoned
    (h : s.deliver intrude s.clock.elapsed (s.batchLimit maxItems) 0 = (.abandoned, s₁)) :
    s.process intrude maxItems = (.abandoned, s₁) := by
  rw [process, h]

/-- A batch that delivered nothing ends without a snapshot; one that did ends with a snapshot,
unless that is given up. -/
theorem process_of_answered {n : Nat}
    (h : s.deliver intrude s.clock.elapsed (s.batchLimit maxItems) 0 = (.answered n, s₁)) :
    (n = 0 ∧ s.process intrude maxItems = s₁.finishBatch s.clock.elapsed 0) ∨
      (0 < n ∧ (s₁.persistSnapshot intrude).1 = .abandoned ∧
        s.process intrude maxItems = (.abandoned, (s₁.persistSnapshot intrude).2)) ∨
      (0 < n ∧ (s₁.persistSnapshot intrude).1 ≠ .abandoned ∧ s.process intrude maxItems =
        (s₁.persistSnapshot intrude).2.finishBatch s.clock.elapsed n) := by
  cases n with
  | zero =>
      left
      refine ⟨rfl, ?_⟩
      rw [process, h]
      rfl
  | succ n =>
      right
      rcases hpersist : s₁.persistSnapshot intrude with ⟨u | why | _, s₂⟩
      · exact Or.inr ⟨Nat.succ_pos n, by simp, by simp only [process, h, hpersist]⟩
      · exact Or.inr ⟨Nat.succ_pos n, by simp, by simp only [process, h, hpersist]⟩
      · exact Or.inl ⟨Nat.succ_pos n, rfl, by simp only [process, h, hpersist]⟩

end

end Station

end LogSpool
