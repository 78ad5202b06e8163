import LogSpool.Engine.Basic
import LogSpool.Proofs.Station.Operations

/-!
# What the calls of an engine do

This module says, once for all developments, how the call ends that hands an entry in: refused,
accepted, or accepted with a batch after it; and how a shutdown ends: at once, or after a drain that
is answered or given up.

* `Station.dueBatch` — the batch that is run when the queue has reached the threshold.
* `Station.addLog_exits` — the three exits of handing in an entry.
* `Engine.finalDrain` — the batches that are run before an engine is closed.
* `Engine.shutdown_exits` — the four exits of a shutdown; `shutdown_of_open` for an open engine.
-/

namespace LogSpool

/-- The same outcome with another answer. -/
def Outcome.map {α β : Type} (g : α → β) : Outcome α → Outcome β
  | .answered a => .answered (g a)
  | .failed why => .failed why
  | .abandoned => .abandoned

namespace Station

variable {σ : Type} [Sink σ] (config : EngineConfig)
  (intrude : Station σ → Intrusion → Station σ) (f : Fields) (s : Station σ)

/-- The batch that is due when an entry has filled the queue up to the threshold. -/
def dueBatch : Outcome BatchReport × Station σ :=
  (s.record (.thresholdReached s.buffer.size)).processAlone intrude config.processBatchSize

/-- The batch is given up while another one is under way. -/
theorem dueBatch_of_busy {s : Station σ} (hbusy : s.busy = true) :
    s.dueBatch config intrude = (.abandoned, s.record (.thresholdReached s.buffer.size)) :=
  if_pos hbusy

/-- The entry is refused, and then nothing follows.  Or it is accepted, for which there is storage;
then the answer is its number, unless the queue has reached the threshold: in that case one batch
runs, and its error is the answer. -/
theorem addLog_exits :
    let t := (s.enqueue f.withDefaults).2
    let batch := t.dueBatch config intrude
    Beside s t ∧
    ((∃ why, s.buffer.refusal? f.withDefaults s.storage.shortage? = some why ∧
        (t.buffer = s.buffer ∨ t.buffer = s.buffer.countError) ∧
        s.addLog config intrude f = (.failed why, t)) ∨
      (s.buffer.refusal? f.withDefaults = none ∧ s.storage.shortage? = none ∧
        t.buffer = s.buffer.accept f.withDefaults s.now ∧
        ((t.buffer.size < config.autoProcessThreshold ∧
            s.addLog config intrude f = (.answered s.buffer.nextId, t)) ∨
          (config.autoProcessThreshold ≤ t.buffer.size ∧
            s.addLog config intrude f = (batch.1.map fun _ => s.buffer.nextId, batch.2))))) := by
  obtain ⟨answer, t, ht, hb, -, hbeside⟩ := s.enqueue_cases f.withDefaults
  rw [ht]
  refine ⟨hbeside, ?_⟩
  dsimp only
  rcases answer with why | id
  · left
    obtain ⟨hrefusal, hleft⟩ := Buffer.enqueue_refused hb
    exact ⟨why, hrefusal, hleft, by rw [addLog, ht]⟩
  · right
    obtain ⟨hrefusal, hstorage, rfl, haccept⟩ := Buffer.enqueue_accepted hb
    -- a buffer that accepts is open, so that its depth can be read
    have hopen : t.buffer.isOpen = true := by
      rw [haccept]
      exact ((s.buffer.refusal?_eq_none_iff _).1 hrefusal).2.1
    have hdepth : t.buffer.depth = .ok t.buffer.size := Buffer.read_of_open hopen Buffer.size
    refine ⟨hrefusal, hstorage, haccept, ?_⟩
    rw [addLog, ht]
    dsimp only
    rw [hdepth]
    dsimp only
    by_cases hreached : config.autoProcessThreshold ≤ t.buffer.size
    · right
      refine ⟨hreached, ?_⟩
      rw [if_pos hreached, dueBatch]
      rcases (t.record (.thresholdReached t.buffer.size)).processAlone intrude
        config.processBatchSize with ⟨report | why | _, s'⟩ <;> rfl
    · left
      exact ⟨by omega, by rw [if_neg hreached]⟩

end Station

namespace Engine

variable {σ : Type} [Sink σ]

/-- A drain is answered or given up; the error of a batch ends it and is no error of its own. -/
theorem drain_ne_failed (intrude : Station σ → Intrusion → Station σ) (batch fuel drained : Nat)
    (s : Station σ) (why : EngineError) : (drain intrude batch fuel drained s).1 ≠ .failed why := by
  induction fuel generalizing drained s with
  | zero => simp [drain]
  | succ fuel ih =>
      unfold drain
      rcases s.process intrude batch with ⟨report | error | _, s₁⟩
      · dsimp only
        split
        · simp
        · exact ih _ s₁
      · simp
      · simp

/-- The batches that are run before an engine is closed. -/
def finalDrain (e : Engine σ) : Outcome Nat × Station σ :=
  drain (Engine.intrude e.config) e.config.processBatchSize drainLimit 0
    { e.station with busy := true }

/-- A shutdown is given up while a batch is under way, and has nothing to do on a closed engine.
Else it drains the queue; if the drain is answered it closes the engine, and if the drain is given
up it closes nothing. -/
theorem shutdown_exits (e : Engine σ) :
    (e.station.busy = true ∧ e.shutdown = (.abandoned, e)) ∨
      (e.station.busy = false ∧ e.isOpen = false ∧ e.shutdown = (.answered ⟨0, 0⟩, e)) ∨
      (e.station.busy = false ∧ e.isOpen = true ∧
        ((∃ drained s, e.finalDrain = (.answered drained, s) ∧
            e.shutdown = (.answered (closeAfter drained s).1,
              { e with station := { (closeAfter drained s).2 with busy := false } })) ∨
          ∃ s, e.finalDrain = (.abandoned, s) ∧
            e.shutdown = (.abandoned, { e with station := { s with busy := false } }))) := by
  unfold shutdown finalDrain onStation isOpen
  -- the number of batches that a drain may run plays no part here
  generalize drainLimit = limit
  dsimp only
  cases hbusy : e.station.busy with
  | true => exact Or.inl ⟨rfl, rfl⟩
  | false =>
      right
      cases hopen : e.station.buffer.isOpen with
      | false => exact Or.inl ⟨rfl, rfl, rfl⟩
      | true =>
          right
          refine ⟨rfl, rfl, ?_⟩
          simp only [Bool.false_eq_true, if_false, Bool.not_true]
          rcases hend : drain (Engine.intrude e.config) e.config.processBatchSize limit 0
            { e.station with busy := true } with ⟨drained | why | _, s⟩
          · exact Or.inl ⟨drained, s, rfl, rfl⟩
          · exact absurd (congrArg Prod.fst hend) (drain_ne_failed _ _ _ _ _ why)
          · exact Or.inr ⟨s, rfl, rfl⟩

/-- The shutdown of an open engine that is idle drains the queue, and then closes the engine or is given
up. -/
theorem shutdown_of_open {e : Engine σ} (hidle : e.station.busy = false) (hopen : e.isOpen = true) :
    (∃ drained s, e.finalDrain = (.answered drained, s) ∧
        e.shutdown = (.answered (closeAfter drained s).1,
          { e with station := { (closeAfter drained s).2 with busy := false } })) ∨
      ∃ s, e.finalDrain = (.abandoned, s) ∧
        e.shutdown = (.abandoned, { e with station := { s with busy := false } }) := by
  rcases e.shutdown_exits with ⟨hbusy, -⟩ | ⟨-, hclosed, -⟩ | ⟨-, -, hdrains⟩
  · exact absurd (hidle.symm.trans hbusy) (by decide)
  · exact absurd (hopen.symm.trans hclosed) (by decide)
  · exact hdrains

end Engine

end LogSpool
