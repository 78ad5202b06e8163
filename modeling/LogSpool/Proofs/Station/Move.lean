import LogSpool.Proofs.Sink.Traced
import LogSpool.Proofs.Station.Chronicle
import LogSpool.Proofs.Station.Errand

/-!
# Moves of the processor

This module says once what the processor does to a station, move by move: it takes an entry out,
calls the sink with it and settles it; it hands over a snapshot; it ends a batch.  Between the start
and the end of a call others run errands.  What every move preserves, every batch preserves.

* `Called` — the station before a call and after it.
* `Move`, `Moves` — one move of the processor, and any number of them.
* `process_moves` — every batch is a sequence of moves.
* `Called.trace`, `Moves.trace` — the calls of a batch follow one another, and nothing else is noted
  of the sink.
-/

namespace LogSpool.Station

variable {σ : Type} [Sink σ]

/-! ## Calls -/

/-- A call to the sink starts, others run errands, and the call ends with an answer. -/
inductive Called (s : Station σ) (call : Call) : Answer → Station σ → Prop where
  | intro {t : Station σ} : Errands { s with sink := (Sink.receive call s.sink).2 } t →
    Called s call (Sink.settle call t.sink).1 { t with sink := (Sink.settle call t.sink).2 }

variable {intrude : Station σ → Intrusion → Station σ}

theorem called_of_callSink {s s' : Station σ} (h : OnlyErrands intrude s.busy) {call : Call}
    {answer : Answer} (hcall : s.callSink intrude call = (answer, s')) :
    Called s call answer s' := by
  obtain ⟨rfl, rfl⟩ := Prod.mk.inj hcall
  let started : Station σ := { s with sink := (Sink.receive call s.sink).2 }
  -- the wait that the sink asks for passes before anybody else comes
  have hwait : Errands started (started.passTime (Sink.receive call s.sink).1) :=
    .single (.moveClock _)
  exact .intro (hwait.trans (h.foldl (Sink.receive call s.sink).1.intrusions rfl))

/-- A call leaves the finished batches alone. -/
theorem Called.aside {s s' : Station σ} {call : Call} {answer : Answer}
    (h : Called s call answer s') :
    s'.busy = s.busy ∧ s'.defaultBatch = s.defaultBatch ∧
      s'.ledger.durations = s.ledger.durations := by
  cases h with
  | intro herrands =>
      have haside := herrands.aside
      exact ⟨haside.busy, haside.defaultBatch, haside.durations⟩

/-! ## Moves -/

/-- One move of the processor. -/
inductive Move (s : Station σ) : Station σ → Prop where
  | accepted {taken ended : Station σ} {e : Entry} : s.dequeue = (.ok (some e), taken) →
    Called taken (.log (taken.deliveryOf e)) .accepted ended →
    Move s (ended.delivered (taken.deliveryOf e))
  | refused {taken ended : Station σ} {e : Entry} {why : SinkError} (started processed : Nat) :
    s.dequeue = (.ok (some e), taken) →
    Called taken (.log (taken.deliveryOf e)) (.refused why) ended →
    Move s ((ended.markError.observeBatch started).recover e processed why).2
  | stalled {taken ended : Station σ} {e : Entry} : s.dequeue = (.ok (some e), taken) →
    Called taken (.log (taken.deliveryOf e)) .stalled ended → Move s (ended.abandon e)
  | snapshotSkipped (why : EngineError) : Move s (s.record (.snapshotSkipped why))
  /-- A snapshot is accepted, or the call for it is cancelled. -/
  | snapshotEnded {ended : Station σ} {m : Metrics} {answer : Answer} :
    s.buffer.snapshot = .ok m → Called s (.snapshot m) answer ended →
    (∀ why, answer ≠ .refused why) → Move s ended
  | snapshotRefused {ended : Station σ} {m : Metrics} {why : SinkError} :
    s.buffer.snapshot = .ok m → Called s (.snapshot m) (.refused why) ended →
    Move s (ended.markError.record (.snapshotRefused why))
  | finished (started processed : Nat) : Move s (s.finishBatch started processed).2

/-- Any number of moves. -/
def Moves : Station σ → Station σ → Prop :=
  Relation.ReflTransGen Move

/-- The processor touches neither the mark that a batch is under way nor the default number of
entries. -/
theorem Move.settings {s s' : Station σ} (h : Move s s') :
    s'.busy = s.busy ∧ s'.defaultBatch = s.defaultBatch := by
  have hended {taken ended : Station σ} {e : Entry} {call : Call} {answer : Answer}
      (hdequeue : s.dequeue = (.ok (some e), taken)) (hcall : Called taken call answer ended) :
      ended.busy = s.busy ∧ ended.defaultBatch = s.defaultBatch := by
    have htaken := dequeue_aside hdequeue
    obtain ⟨hbusy, hbatch, -⟩ := hcall.aside
    exact ⟨hbusy.trans htaken.busy, hbatch.trans htaken.defaultBatch⟩
  cases h with
  | @accepted taken ended e hdequeue hcall =>
      have haside := ended.delivered_aside (taken.deliveryOf e)
      rw [haside.busy, haside.defaultBatch]
      exact hended hdequeue hcall
  | @refused taken ended e why started processed hdequeue hcall =>
      have haside := recover_aside (ended.markError.observeBatch started) e processed why
      have hsettings := hended hdequeue hcall
      rw [haside.busy, haside.defaultBatch]
      exact hsettings
  | @stalled taken ended e hdequeue hcall =>
      rw [(ended.abandon_aside e).busy, (ended.abandon_aside e).defaultBatch]
      exact hended hdequeue hcall
  | snapshotSkipped why => exact ⟨rfl, rfl⟩
  | snapshotEnded _ hcall _ => exact ⟨hcall.aside.1, hcall.aside.2.1⟩
  | snapshotRefused _ hcall => exact ⟨hcall.aside.1, hcall.aside.2.1⟩
  | finished started processed => exact ⟨rfl, rfl⟩

theorem Move.busy {s s' : Station σ} (h : Move s s') : s'.busy = s.busy :=
  h.settings.1

namespace Moves

variable {s s' s'' : Station σ}

theorem refl (s : Station σ) : Moves s s :=
  Relation.ReflTransGen.refl

theorem single (h : Move s s') : Moves s s' :=
  Relation.ReflTransGen.single h

theorem head (h : Move s s') (h' : Moves s' s'') : Moves s s'' :=
  Relation.ReflTransGen.head h h'

theorem trans (h : Moves s s') (h' : Moves s' s'') : Moves s s'' :=
  Relation.ReflTransGen.trans h h'

/-- What one move preserves, any number of moves preserves. -/
theorem induction {P : Station σ → Prop} (step : ∀ {t t'}, Move t t' → P t → P t')
    (h : Moves s s') (hs : P s) : P s' := by
  induction h with
  | refl => exact hs
  | tail _ hmove ih => exact step hmove ih

theorem busy (h : Moves s s') : s'.busy = s.busy :=
  h.induction (P := fun t => t.busy = s.busy) (fun hmove ht => hmove.busy.trans ht) rfl

theorem defaultBatch (h : Moves s s') : s'.defaultBatch = s.defaultBatch :=
  h.induction (P := fun t => t.defaultBatch = s.defaultBatch)
    (fun hmove ht => hmove.settings.2.trans ht) rfl

end Moves

/-! ## Batches -/

theorem Delivers.moves {started remaining processed : Nat} {s s' : Station σ}
    {outcome : Outcome Nat} (hloop : Delivers intrude started remaining processed s outcome s')
    (h : OnlyErrands intrude s.busy) : Moves s s' := by
  have htaken {s taken : Station σ} {e : Entry} (h : OnlyErrands intrude s.busy)
      (hdequeue : s.dequeue = (.ok (some e), taken)) : OnlyErrands intrude taken.busy :=
    h.of_eq (dequeue_aside hdequeue).busy
  -- one move for each entry; the mark stays as it is, so that the next call finds the same errands
  induction hloop with
  | limit => exact .refl _
  | closed _ => exact .refl _
  | empty _ _ => exact .refl _
  | accepted hdequeue hcall _ ih =>
      have hmove : Move _ _ := .accepted hdequeue (called_of_callSink (htaken h hdequeue) hcall)
      exact .head hmove (ih (h.of_eq hmove.busy))
  | @refused _ processed _ _ ended _ e why _ hdequeue hcall hrecover =>
      have hmove : Move _ ((ended.markError.observeBatch started).recover e processed why).2 :=
        .refused started processed hdequeue (called_of_callSink (htaken h hdequeue) hcall)
      rw [hrecover] at hmove
      exact .single hmove
  | stalled hdequeue hcall =>
      exact .single (.stalled hdequeue (called_of_callSink (htaken h hdequeue) hcall))

theorem persistSnapshot_moves {s : Station σ} (h : OnlyErrands intrude s.busy) :
    Moves s (s.persistSnapshot intrude).2 := by
  rw [persistSnapshot]
  cases hsnapshot : s.buffer.snapshot with
  | error why => exact .single (.snapshotSkipped why)
  | ok metrics =>
      dsimp only
      rcases hcall : s.callSink intrude (.snapshot metrics) with ⟨answer, ended⟩
      have hcalled := called_of_callSink h hcall
      cases answer with
      | accepted => exact .single (.snapshotEnded hsnapshot hcalled (by simp))
      | refused why => exact .single (.snapshotRefused hsnapshot hcalled)
      | stalled => exact .single (.snapshotEnded hsnapshot hcalled (by simp))

/-- Every batch is a sequence of moves. -/
theorem process_moves (maxItems : Nat) {s : Station σ} (h : OnlyErrands intrude s.busy) :
    Moves s (s.process intrude maxItems).2 := by
  have hdeliver : Moves s (s.deliver intrude s.clock.elapsed (s.batchLimit maxItems) 0).2 :=
    (deliver_delivers s.clock.elapsed (s.batchLimit maxItems) 0 s).moves h
  rcases hend : s.deliver intrude s.clock.elapsed (s.batchLimit maxItems) 0 with
    ⟨n | why | _, s₁⟩ <;> rw [hend] at hdeliver
  · have hsnapshot := hdeliver.trans (persistSnapshot_moves (h.of_eq hdeliver.busy))
    rcases process_of_answered hend with ⟨-, hs⟩ | ⟨-, -, hs⟩ | ⟨-, -, hs⟩ <;> rw [hs]
    · exact hdeliver.trans (.single (.finished s.clock.elapsed 0))
    · exact hsnapshot
    · exact hsnapshot.trans (.single (.finished s.clock.elapsed n))
  · rw [process_of_failed hend]
    exact hdeliver
  · rw [process_of_abandoned hend]
    exact hdeliver

/-! ## The trace of a batch -/

/-- A call is noted when it starts and when it ends, and nothing is noted in between. -/
theorem Called.trace {s s' : Station (Traced σ)} {call : Call} {answer : Answer}
    (h : Called s call answer s') :
    s'.sink.trace = s.sink.trace ++ [.started call, .ended call answer] := by
  cases h with
  | @intro t herrands =>
      have hsink : t.sink = (Sink.receive call s.sink).2 := herrands.aside.sink
      change (Sink.settle call t.sink).2.trace = _
      rw [Traced.settle_trace, hsink, Traced.receive_trace, List.append_assoc,
        List.singleton_append]

/-- A move calls the sink once at most, and waits for the end of the call. -/
theorem Move.trace {s s' : Station (Traced σ)} (h : Move s s') :
    ∃ calls, s'.sink.trace = s.sink.trace ++ consecutive calls := by
  have hended {t ended : Station (Traced σ)} {call : Call} {answer : Answer}
      (ht : t.sink = s.sink) (hcall : Called t call answer ended) :
      ∃ calls, ended.sink.trace = s.sink.trace ++ consecutive calls := by
    refine ⟨[(call, answer)], ?_⟩
    rw [hcall.trace, ht]
    rfl
  have hnone : s.sink.trace = s.sink.trace ++ consecutive [] := (List.append_nil _).symm
  cases h with
  | @accepted taken ended e hdequeue hcall =>
      rw [(ended.delivered_aside _).sink]
      exact hended (dequeue_aside hdequeue).sink hcall
  | @refused taken ended e why started processed hdequeue hcall =>
      rw [(recover_aside _ e processed why).sink]
      have htrace := hended (dequeue_aside hdequeue).sink hcall
      exact htrace
  | @stalled taken ended e hdequeue hcall =>
      rw [(ended.abandon_aside e).sink]
      exact hended (dequeue_aside hdequeue).sink hcall
  | snapshotSkipped why => exact ⟨[], hnone⟩
  | snapshotEnded _ hcall _ => exact hended rfl hcall
  | @snapshotRefused ended _ _ _ hcall =>
      have htrace := hended rfl hcall
      exact htrace
  | finished started processed => exact ⟨[], hnone⟩

/-- The calls of a batch follow one another. -/
theorem Moves.trace {s s' : Station (Traced σ)} (h : Moves s s') :
    ∃ calls, s'.sink.trace = s.sink.trace ++ consecutive calls := by
  refine h.induction
    (P := fun t => ∃ calls, t.sink.trace = s.sink.trace ++ consecutive calls) ?_
    ⟨[], (List.append_nil _).symm⟩
  rintro t t' hmove ⟨calls, hcalls⟩
  obtain ⟨calls', hcalls'⟩ := hmove.trace
  exact ⟨calls ++ calls', by rw [hcalls', hcalls, consecutive_append, List.append_assoc]⟩

theorem Moves.settled {s s' : Station (Traced σ)} (h : Moves s s') (hs : Settled s.sink.trace) :
    Settled s'.sink.trace := by
  obtain ⟨calls, hcalls⟩ := h.trace
  rw [hcalls]
  exact hs.append (.of_consecutive calls)

/-- No batch closes the sink. -/
theorem Moves.closings {s s' : Station (Traced σ)} (h : Moves s s') :
    closingsIn s'.sink.trace = closingsIn s.sink.trace := by
  obtain ⟨calls, hcalls⟩ := h.trace
  rw [hcalls, closingsIn_append, closingsIn_consecutive, Nat.add_zero]

end LogSpool.Station
