import Mathlib.Logic.Relation
import LogSpool.Proofs.Station.Operations

/-!
# Errands

This module names what others can do to a station while one of its calls is pending, one thing at a
time.  Whoever comes then is a producer: entries are handed in, the buffer is closed, time passes,
and it is noted that the queue has reached the threshold.  None of this touches the sink or ends a
batch, whatever else it does.

* `Enqueues` — the exits of handing in an entry, each with everything that it changes.
* `Errand`, `Errands` — one errand, and any number of them.
* `Aside`, `Errands.aside` — what errands leave alone, as the settling of a delivery does.
* `intrude_errands` — what a sink does to the buffer directly are errands.
-/

namespace LogSpool.Station

variable {σ : Type}

/-! ## Handing in an entry -/

/-- The station that has accepted an entry. -/
def accepting (s : Station σ) (f : Fields) : Station σ :=
  { s with
    buffer := s.buffer.accept f s.now
    ledger := { s.ledger with
      ingested := s.ledger.ingested + 1
      queueDepth := (s.buffer.accept f s.now).metrics.queueDepth }
    storage := s.storage.rest }

/-- How handing in an entry ends, exit by exit. -/
inductive Enqueues (s : Station σ) (f : Fields) : Except EngineError Nat → Station σ → Prop where
  | accepted : s.buffer.refusal? f = none → s.storage.shortage? = none →
    Enqueues s f (.ok s.buffer.nextId) (s.accepting f)
  | invalid {fault : FieldFault} : f.fault? = some fault →
    Enqueues s f (.error (.validation fault.reason)) (s.countError .validationError)
  | closed : f.fault? = none → s.buffer.isOpen = false → Enqueues s f (.error .notInitialized) s
  | full : f.fault? = none → s.buffer.isOpen = true → s.buffer.capacity ≤ s.buffer.size →
    Enqueues s f (.error (.capacityExceeded s.buffer.capacity))
      ({ s with buffer := s.buffer.countError }.countError .capacityExceeded)
  | short {why : Shortage} : s.buffer.refusal? f = none → s.storage.shortage? = some why →
    Enqueues s f (.error (.allocationFailure why))
      ({ s with buffer := s.buffer.countError, storage := s.storage.rest }.countError
        .allocationFailure)

/-- Handing in an entry ends in one of these ways. -/
theorem enqueue_exits (s : Station σ) (f : Fields) :
    ∃ answer s', s.enqueue f = (answer, s') ∧ Enqueues s f answer s' := by
  -- the checks in their order: the fields, whether the buffer is open, its room, and the storage
  cases hfault : f.fault? with
  | some fault =>
      refine ⟨_, _, ?_, .invalid hfault⟩
      rw [enqueue, Buffer.enqueue_of_fault hfault]
      rfl
  | none =>
      cases hopen : s.buffer.isOpen with
      | false =>
          refine ⟨_, _, ?_, .closed hfault hopen⟩
          rw [enqueue, Buffer.enqueue_of_closed hopen hfault]
          rfl
      | true =>
          by_cases hfull : s.buffer.capacity ≤ s.buffer.size
          · refine ⟨_, _, ?_, .full hfault hopen hfull⟩
            rw [enqueue, Buffer.enqueue_full hfault hopen hfull]
            rfl
          · have hnone : s.buffer.refusal? f = none :=
              (s.buffer.refusal?_eq_none_iff f).2 ⟨hfault, hopen, Nat.lt_of_not_le hfull⟩
            cases hshort : s.storage.shortage? with
            | some why =>
                refine ⟨_, _, ?_, .short hnone hshort⟩
                rw [enqueue, hshort, Buffer.enqueue_short hnone]
                rfl
            | none =>
                refine ⟨_, _, ?_, .accepted hnone hshort⟩
                rw [enqueue, hshort, Buffer.enqueue, hnone]
                rfl

theorem enqueue_clock (s : Station σ) (f : Fields) : (s.enqueue f).2.clock = s.clock := by
  obtain ⟨answer, t, hs, hexit⟩ := s.enqueue_exits f
  rw [hs]
  cases hexit <;> rfl

/-! ## Errands -/

/-- One thing that a producer, somebody who closes the buffer, or time does to a station. -/
inductive Errand (s : Station σ) : Station σ → Prop where
  | enqueue (f : Fields) : Errand s (s.enqueue f).2
  | close : Errand s s.close.2
  | moveClock (move : Clock → Clock) : Errand s (s.moveClock move)
  /-- It is noted that the queue has reached the threshold. -/
  | reached (depth : Nat) : Errand s (s.record (.thresholdReached depth))

/-- Any number of errands. -/
def Errands : Station σ → Station σ → Prop :=
  Relation.ReflTransGen Errand

/-- Two stations with the same sink and the same batches behind them, of which both or none are
busy, and that take as many entries by default. -/
structure Aside (s s' : Station σ) : Prop where
  sink : s'.sink = s.sink
  busy : s'.busy = s.busy
  defaultBatch : s'.defaultBatch = s.defaultBatch
  durations : s'.ledger.durations = s.ledger.durations

theorem Aside.refl (s : Station σ) : Aside s s :=
  ⟨rfl, rfl, rfl, rfl⟩

theorem Aside.trans {s s' s'' : Station σ} (h : Aside s s') (h' : Aside s' s'') : Aside s s'' :=
  ⟨h'.sink.trans h.sink, h'.busy.trans h.busy, h'.defaultBatch.trans h.defaultBatch,
    h'.durations.trans h.durations⟩

theorem enqueue_aside (s : Station σ) (f : Fields) : Aside s (s.enqueue f).2 := by
  obtain ⟨answer, s', hs, hexit⟩ := s.enqueue_exits f
  rw [hs]
  cases hexit <;> exact ⟨rfl, rfl, rfl, rfl⟩

theorem close_aside (s : Station σ) : Aside s s.close.2 := by
  unfold close
  dsimp only
  split <;> exact ⟨rfl, rfl, rfl, rfl⟩

theorem dequeue_aside {s s' : Station σ} {e : Entry} (h : s.dequeue = (.ok (some e), s')) :
    Aside s s' := by
  obtain ⟨rest, -, rfl⟩ := dequeue_taken_eq h
  exact ⟨rfl, rfl, rfl, rfl⟩

theorem delivered_aside (s : Station σ) (d : Delivery) : Aside s (s.delivered d) := by
  unfold delivered markProcessed
  dsimp only
  split <;> exact ⟨rfl, rfl, rfl, rfl⟩

theorem recover_aside (s : Station σ) (e : Entry) (processed : Nat) (why : SinkError) :
    Aside s (s.recover e processed why).2 := by
  obtain ⟨answer, s', hs, hexit⟩ := s.requeueFront_exits e
  rw [recover, hs]
  cases hexit <;> exact ⟨rfl, rfl, rfl, rfl⟩

theorem abandon_aside (s : Station σ) (e : Entry) : Aside s (s.abandon e) := by
  obtain ⟨answer, s', hs, hexit⟩ := s.requeueFront_exits e
  rw [abandon, hs]
  cases hexit <;> exact ⟨rfl, rfl, rfl, rfl⟩

theorem Errand.aside {s s' : Station σ} (h : Errand s s') : Aside s s' := by
  cases h with
  | enqueue f => exact s.enqueue_aside f
  | close => exact s.close_aside
  | moveClock move => exact ⟨rfl, rfl, rfl, rfl⟩
  | reached depth => exact ⟨rfl, rfl, rfl, rfl⟩

namespace Errands

variable {s s' s'' : Station σ}

theorem refl (s : Station σ) : Errands s s :=
  Relation.ReflTransGen.refl

theorem single (h : Errand s s') : Errands s s' :=
  Relation.ReflTransGen.single h

theorem trans (h : Errands s s') (h' : Errands s' s'') : Errands s s'' :=
  Relation.ReflTransGen.trans h h'

/-- What one errand preserves, any number of errands preserves. -/
theorem induction {P : Station σ → Prop} (step : ∀ {t t'}, Errand t t' → P t → P t')
    (h : Errands s s') (hs : P s) : P s' := by
  induction h with
  | refl => exact hs
  | tail _ herrand ih => exact step herrand ih

/-- Errands leave the sink and the finished batches alone. -/
theorem aside (h : Errands s s') : Aside s s' :=
  h.induction (P := Aside s) (fun herrand ht => ht.trans herrand.aside) (Aside.refl s)

theorem fillLoop (f : Fields) (fuel : Nat) (s : Station σ) : Errands s (s.fillLoop f fuel) := by
  induction fuel generalizing s with
  | zero => exact refl s
  | succ fuel ih =>
      have hfirst : Errands s (s.enqueue f).2 := single (.enqueue f)
      unfold Station.fillLoop
      rcases h : s.enqueue f with ⟨why | id, s₁⟩ <;> rw [h] at hfirst
      · exact hfirst
      · exact hfirst.trans (ih s₁)

end Errands

/-- What a sink does to the buffer directly are errands. -/
theorem intrude_errands (s : Station σ) (i : Intrusion) : Errands s (s.intrude i) := by
  cases i with
  | add f => exact .single (.enqueue f)
  | fill f => exact .fillLoop f _ s
  | close => exact .single .close
  | wait micros => exact .single (.moveClock (·.advance micros))
  | setWall ms => exact .single (.moveClock (·.setWall ms))

/-- A kind of intrusions that are errands, as long as the station is as busy as it is now. -/
def OnlyErrands (intrude : Station σ → Intrusion → Station σ) (busy : Bool) : Prop :=
  ∀ s i, s.busy = busy → Errands s (intrude s i)

theorem intrude_onlyErrands (busy : Bool) : OnlyErrands (intrude (σ := σ)) busy :=
  fun s i _ => s.intrude_errands i

namespace OnlyErrands

variable {intrude : Station σ → Intrusion → Station σ} {busy : Bool}

theorem of_eq {busy' : Bool} (h : OnlyErrands intrude busy) (hbusy : busy' = busy) :
    OnlyErrands intrude busy' :=
  hbusy ▸ h

theorem foldl (h : OnlyErrands intrude busy) (intrusions : List Intrusion) {s : Station σ}
    (hs : s.busy = busy) : Errands s (intrusions.foldl intrude s) := by
  induction intrusions generalizing s with
  | nil => exact Errands.refl s
  | cons i intrusions ih =>
      have hfirst := h s i hs
      exact hfirst.trans (ih (hfirst.aside.busy.trans hs))

end OnlyErrands

end LogSpool.Station
