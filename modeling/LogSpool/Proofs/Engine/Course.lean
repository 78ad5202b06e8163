import LogSpool.Proofs.Engine.Chronicle
import LogSpool.Proofs.Engine.Operations
import LogSpool.Proofs.Station.Course

/-!
# Calls to an engine as courses of acts

This module extends the custody of entries from batches to the calls of an engine.  While a batch or
a shutdown is under way, whoever is called by the engine can come back to it as a producer only;
while none is, as in a health check, it can start a batch of its own, and that is a course of acts
like any other.

* `intrude_onlyErrands`, `intrude_onlyProducesBy` — what a sink can do to an engine that is busy.
* `addLog_followsBy`, `processAlone_followsBy`, `health_followsBy`, `shutdown_followsBy` — every call
  to an engine performs the acts that its chronicle gives.
-/

namespace LogSpool

variable {σ : Type} [Sink σ] {track : List (Delivery × Answer) → σ → Prop}

namespace Station

variable (config : EngineConfig) {intrude : Station σ → Intrusion → Station σ} (f : Fields)

/-- An entry that is handed in is accepted or not, and a batch may follow. -/
theorem addLog_cases (s : Station σ) : ∃ t, Errands s t ∧
    ((s.addLog config intrude f).2 = t ∨
      (s.addLog config intrude f).2 = (t.processAlone intrude config.processBatchSize).2) := by
  have hfirst : Errands s (s.enqueue f.withDefaults).2 := .single (.enqueue f.withDefaults)
  obtain ⟨-, ⟨why, -, -, h⟩ | ⟨-, -, -, ⟨-, h⟩ | ⟨-, h⟩⟩⟩ := s.addLog_exits config intrude f
  · exact ⟨_, hfirst, Or.inl (by rw [h])⟩
  · exact ⟨_, hfirst, Or.inl (by rw [h])⟩
  · exact ⟨_, hfirst.trans (.single (.reached _)), Or.inr (by rw [h, dueBatch])⟩

/-- A busy engine starts no batch. -/
theorem addLog_errands {s : Station σ} (hbusy : s.busy = true) :
    Errands s (s.addLog config intrude f).2 := by
  obtain ⟨t, herrands, h | h⟩ := s.addLog_cases config f
  · rw [h]
    exact herrands
  · -- the batch that is due is not started
    have hbusy' : t.busy = true := herrands.aside.busy.trans hbusy
    rw [h, processAlone, if_pos hbusy']
    exact herrands

/-- What handing in an entry preserves, handing in many preserves. -/
theorem fillThrough_induction {P : Station σ → Prop}
    (step : ∀ t, P t → P (t.addLog config intrude f).2) (fuel : Nat) {s : Station σ} (hs : P s) :
    P (s.fillThrough config intrude f fuel) := by
  induction fuel generalizing s with
  | zero => exact hs
  | succ fuel ih =>
      have hfirst := step s hs
      unfold fillThrough
      rcases h : s.addLog config intrude f with ⟨id | why | _, s₁⟩ <;> rw [h] at hfirst
      · exact ih hfirst
      · dsimp only
        split
        · exact hfirst
        · exact ih hfirst
      · exact ih hfirst

/-- What a sink does to an engine that is busy are errands. -/
theorem intrudeThrough_onlyErrands (depth : Nat) :
    OnlyErrands (intrudeThrough (σ := σ) config depth) true := by
  intro s i hbusy
  cases depth with
  | zero => exact Errands.refl s
  | succ depth =>
      cases i with
      | add f => exact addLog_errands config f hbusy
      | fill f =>
          refine fillThrough_induction (P := Errands s) config f ?_ _ (Errands.refl s)
          intro t ht
          exact ht.trans (addLog_errands config f (ht.aside.busy.trans hbusy))
      | close => exact .single .close
      | wait micros => exact .single (.moveClock (·.advance micros))
      | setWall ms => exact .single (.moveClock (·.setWall ms))

/-! ## The acts of handing in -/

section

variable {acts : Station σ → Intrusion → List Act}

variable (acts) in
/-- Handing in an entry is one act, and those of a batch may follow. -/
theorem addLogActs_cases (s : Station σ) :
    let t := (s.enqueue f.withDefaults).2
    (s.addLogActs intrude acts config f = [.enqueue f.withDefaults s.now] ∧
        (s.addLog config intrude f).2 = t) ∨
      (s.addLogActs intrude acts config f =
          .enqueue f.withDefaults s.now ::
            (t.record (.thresholdReached t.buffer.size)).processAloneActs intrude acts
              config.processBatchSize ∧
        (s.addLog config intrude f).2 = (t.dueBatch config intrude).2) := by
  obtain ⟨answer, t, ht, hb, -, -⟩ := s.enqueue_cases f.withDefaults
  obtain ⟨-, ⟨why, hrefusal, -, h⟩ | ⟨hnone, hstorage, -, hexits⟩⟩ := s.addLog_exits config intrude f
  · left
    rcases answer with why' | id
    · exact ⟨by rw [addLogActs, ht], by rw [h]⟩
    · obtain ⟨hnone, hstorage, -, -⟩ := Buffer.enqueue_accepted hb
      rw [hstorage, hnone] at hrefusal
      cases hrefusal
  · rcases answer with why | id
    · obtain ⟨hrefusal, -⟩ := Buffer.enqueue_refused hb
      rw [hstorage, hnone] at hrefusal
      cases hrefusal
    · rw [addLogActs]
      rw [ht] at hexits ⊢
      rcases hexits with ⟨hbelow, h⟩ | ⟨hreached, h⟩
      · left
        exact ⟨congrArg _ (if_neg (Nat.not_le.2 hbelow)), by rw [h]⟩
      · right
        exact ⟨congrArg _ (if_pos hreached), by rw [h]⟩

/-- What relates a station to the one after it when an entry is handed in, it does when many are. -/
theorem fillThrough_acts {R : List Act → Station σ → Station σ → Prop} (refl : ∀ s, R [] s s)
    (trans : ∀ {as as' s s' s''}, R as s s' → R as' s' s'' → R (as ++ as') s s'')
    (step : ∀ s, R (s.addLogActs intrude acts config f) s (s.addLog config intrude f).2)
    (fuel : Nat) (s : Station σ) :
    R (s.fillThroughActs intrude acts config f fuel) s (s.fillThrough config intrude f fuel) := by
  induction fuel generalizing s with
  | zero => exact refl s
  | succ fuel ih =>
      have hfirst := step s
      unfold fillThrough fillThroughActs
      rcases h : s.addLog config intrude f with ⟨id | why | _, s₁⟩ <;> rw [h] at hfirst
      · exact trans hfirst (ih s₁)
      · dsimp only
        split
        · exact trans hfirst (refl s₁)
        · exact trans hfirst (ih s₁)
      · exact trans hfirst (ih s₁)

/-- A batch that is given up performs no acts. -/
theorem processAloneActs_of_busy {s : Station σ} (hbusy : s.busy = true) {maxItems : Nat} :
    s.processAloneActs intrude acts maxItems = [] :=
  if_pos hbusy

/-- A busy engine starts no batch. -/
theorem addLog_producesBy {s : Station σ} (hbusy : s.busy = true) :
    ProducesBy (s.addLogActs intrude acts config f) s (s.addLog config intrude f).2 := by
  have hfirst := ProducesBy.enqueue s f.withDefaults
  rcases s.addLogActs_cases config f acts with ⟨hacts, h⟩ | ⟨hacts, h⟩
  · rw [hacts, h]
    exact hfirst
  · have hbusy' : (s.enqueue f.withDefaults).2.busy = true := hfirst.beside.busy.trans hbusy
    rw [hacts, h, dueBatch_of_busy config intrude hbusy',
      processAloneActs_of_busy (show (record _ _).busy = true from hbusy')]
    exact hfirst.trans (.record _ rfl)

/-- A batch that runs alone performs the acts that are given for it. -/
theorem processAlone_followsBy (htrack : Sink.Tracks track) (h : OnlyProducesBy acts intrude true)
    (maxItems : Nat) (s : Station σ) :
    FollowsBy track (s.processAloneActs intrude acts maxItems) s
      (s.processAlone intrude maxItems).2 := by
  rw [processAlone, processAloneActs]
  cases hbusy : s.busy with
  | true => exact FollowsBy.refl s
  | false => exact (process_followsBy htrack maxItems h).of_idle hbusy

theorem addLog_followsBy (htrack : Sink.Tracks track) (h : OnlyProducesBy acts intrude true)
    (s : Station σ) :
    FollowsBy track (s.addLogActs intrude acts config f) s (s.addLog config intrude f).2 := by
  have hfirst : FollowsBy track [.enqueue f.withDefaults s.now] s (s.enqueue f.withDefaults).2 :=
    (ProducesBy.enqueue s f.withDefaults).follows
  rcases s.addLogActs_cases config f acts with ⟨hacts, hend⟩ | ⟨hacts, hend⟩
  · rw [hacts, hend]
    exact hfirst
  · rw [hacts, hend]
    exact (hfirst.andThen (.record _ rfl)).trans (processAlone_followsBy htrack h _ _)

end

/-! ## What a sink does to an engine -/

/-- What a sink does to an engine that is busy, it does as a producer. -/
theorem intrudeThrough_onlyProducesBy (depth : Nat) :
    OnlyProducesBy (σ := σ) (intrudeThroughActs config depth) (intrudeThrough config depth)
      true := by
  intro s i hbusy
  cases depth with
  | zero => exact ProducesBy.refl s
  | succ depth =>
      cases i with
      | add f => exact addLog_producesBy config f hbusy
      | fill f =>
          refine fillThrough_acts (R := fun as s s' => s.busy = true → ProducesBy as s s') config f
            (fun t _ => .refl t) ?_ (fun t ht => addLog_producesBy config f ht) _ s hbusy
          intro as as' t t' t'' h h' ht
          have hfirst := h ht
          exact hfirst.trans (h' (hfirst.beside.busy.trans ht))
      | close => exact .close s
      | wait micros => exact .moveClock s (·.advance micros)
      | setWall ms => exact .moveClock s (·.setWall ms)

/-- What a sink does to an engine, busy or not, is a course of acts. -/
theorem intrudeThrough_followsBy (htrack : Sink.Tracks track) (depth : Nat) (s : Station σ)
    (i : Intrusion) :
    FollowsBy track (s.intrudeThroughActs config depth i) s (intrudeThrough config depth s i) := by
  cases depth with
  | zero => exact FollowsBy.refl s
  | succ depth =>
      have hproduces := intrudeThrough_onlyProducesBy (σ := σ) config depth
      cases i with
      | add f => exact addLog_followsBy config f htrack hproduces s
      | fill f =>
          exact fillThrough_acts config f FollowsBy.refl FollowsBy.trans
            (addLog_followsBy config f htrack hproduces) _ s
      | close => exact (ProducesBy.close s).follows
      | wait micros => exact (ProducesBy.moveClock s (·.advance micros)).follows
      | setWall ms => exact (ProducesBy.moveClock s (·.setWall ms)).follows

end Station

namespace Engine

open Station

/-- What a sink does to its own engine while that is busy are errands. -/
theorem intrude_onlyErrands (config : EngineConfig) :
    OnlyErrands (Engine.intrude (σ := σ) config) true :=
  intrudeThrough_onlyErrands config nesting

/-- What a sink does to its own engine while that is busy, it does as a producer. -/
theorem intrude_onlyProducesBy (config : EngineConfig) :
    OnlyProducesBy (Engine.intrudeActs (σ := σ) config) (Engine.intrude config) true :=
  intrudeThrough_onlyProducesBy config nesting

theorem intrude_onlyProduces (config : EngineConfig) :
    OnlyProduces (Engine.intrude (σ := σ) config) true :=
  (intrude_onlyProducesBy config).produces

theorem health_followsBy (htrack : Sink.Tracks track) (e : Engine σ) :
    FollowsBy track e.healthActs e.station e.health.2.station := by
  unfold health healthActs onStation
  dsimp only
  cases e.station.buffer.depth with
  | error why => exact FollowsBy.refl _
  | ok depth =>
      have hcall : FollowsBy track
          (e.station.callActs (Engine.intrude e.config) (Engine.intrudeActs e.config) .ping)
          e.station (e.station.callSink (Engine.intrude e.config) .ping).2 :=
        callSink_followsBy htrack .ping (fun _ => rfl)
          (fun t i _ => intrudeThrough_followsBy e.config htrack nesting t i)
      dsimp only
      rcases h : e.station.callSink (Engine.intrude e.config) .ping with ⟨answer, s⟩
      rw [h] at hcall
      cases answer with
      | accepted => exact hcall
      | refused why => exact hcall.andThen (FollowsBy.record s rfl)
      | stalled => exact hcall

/-- The batches of a drain perform the acts that are given for them. -/
theorem drain_followsBy (htrack : Sink.Tracks track) {intrude : Station σ → Intrusion → Station σ}
    {acts : Station σ → Intrusion → List Act} (batch fuel drained : Nat) {s : Station σ}
    (h : OnlyProducesBy acts intrude s.busy) :
    FollowsBy track (s.drainActs intrude acts batch fuel) s
      (drain intrude batch fuel drained s).2 := by
  induction fuel generalizing drained s with
  | zero => exact FollowsBy.refl s
  | succ fuel ih =>
      have hprocess := process_followsBy htrack batch h
      unfold drain drainActs
      rcases hend : s.process intrude batch with ⟨report | why | _, s₁⟩ <;> rw [hend] at hprocess
      · dsimp only
        split
        · exact hprocess.trans (FollowsBy.refl s₁)
        · exact hprocess.trans (ih _ (h.of_eq hprocess.busy))
      · exact hprocess.trans (FollowsBy.record s₁ rfl)
      · exact hprocess.trans (FollowsBy.refl s₁)

/-- Whatever the intrusions are, the batches of a drain are a course of acts. -/
theorem drain_follows (htrack : Sink.Tracks track) {intrude : Station σ → Intrusion → Station σ}
    (batch fuel drained : Nat) {s : Station σ} (h : OnlyProduces intrude s.busy) :
    Follows track s (drain intrude batch fuel drained s).2 := by
  obtain ⟨acts, hacts⟩ := h.named
  exact (drain_followsBy htrack batch fuel drained hacts).follows

/-- The end of the buffer is an act, that of the sink is none. -/
theorem closeAfter_followsBy (htrack : Sink.Tracks track) (drained : Nat) (s : Station σ) :
    FollowsBy track [.close] s (closeAfter drained s).2 := by
  have hclosed : FollowsBy track [.close] s s.close.2 := (ProducesBy.close s).follows
  have hsink : FollowsBy track [] s.close.2 s.close.2.closeSink :=
    FollowsBy.of_same rfl rfl rfl rfl fun _ hmade => htrack.close hmade
  exact (hclosed.andThen hsink).andThen (FollowsBy.record _ rfl)

theorem shutdown_followsBy (htrack : Sink.Tracks track) (e : Engine σ) :
    FollowsBy track e.shutdownActs e.station e.shutdown.2.station := by
  have hdrain : FollowsBy track
      ({ e.station with busy := true }.drainActs (Engine.intrude e.config)
        (Engine.intrudeActs e.config) e.config.processBatchSize drainLimit)
      { e.station with busy := true } e.finalDrain.2 :=
    drain_followsBy htrack _ _ _ (intrude_onlyProducesBy e.config)
  rw [shutdownActs]
  rcases e.shutdown_exits with
    ⟨hbusy, hs⟩ | ⟨hidle, hclosed, hs⟩ | ⟨hidle, hopen, ⟨drained, s, hend, hs⟩ | ⟨s, hend, hs⟩⟩
  · rw [hs, if_pos hbusy]
    exact FollowsBy.refl _
  · rw [hs, if_neg (by simp [hidle]), if_pos (by simp [hclosed])]
    exact FollowsBy.refl _
  · rw [hs, if_neg (by simp [hidle]), if_neg (by simp [hopen])]
    rw [hend] at hdrain
    rw [finalDrain] at hend
    rw [hend]
    exact (hdrain.trans (closeAfter_followsBy htrack drained s)).of_idle hidle
  · rw [hs, if_neg (by simp [hidle]), if_neg (by simp [hopen])]
    rw [hend] at hdrain
    rw [finalDrain] at hend
    rw [hend]
    exact (hdrain.trans (FollowsBy.refl s)).of_idle hidle

end Engine

end LogSpool
