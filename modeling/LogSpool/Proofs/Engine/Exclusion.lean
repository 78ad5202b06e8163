import LogSpool.Proofs.Engine.History
import LogSpool.Proofs.Station.Offer
import LogSpool.Sink.Memory
import LogSpool.Sink.Scripted

/-!
# Batches exclude each other

This module follows the mark that an engine is busy.  Every batch of an engine is run while it is
marked, and whoever is called by the engine finds it marked: an entry that is handed in then is
accepted or refused, and no batch is started for it, even if one is due.  When no call is in
progress the mark is gone, also after a call that was given up, so that nobody waits for it in vain.

* `Awaits` — the moments at which an insert of a batch is pending.
* `HandsIn` — what handing in an entry comes to while the engine is busy.
* `LeftWaiting` — a call was given up because the sink did not answer an insert.
* `batches_exclusive` — the inserts of an engine follow one another, and the mark is never left
  behind.
-/

namespace LogSpool

namespace Station

/-! ## While an insert is pending -/

section

variable {σ : Type} [Sink σ] {intrude : Station σ → Intrusion → Station σ}

/-- The moments at which an insert is pending in a batch that begins at a station and may take
`limit` entries.  The sink is called with an entry, or at the end with a snapshot, and then it comes
back to the spool any number of times. -/
inductive Awaits (intrude : Station σ → Intrusion → Station σ) (limit : Nat) (s : Station σ) :
    Call → Station σ → Prop where
  | entry {e : Entry} {t : Station σ} : Offers intrude limit s e t →
    Awaits intrude limit s (.log (t.deliveryOf e)) (t.calling (.log (t.deliveryOf e)))
  | snapshot {n : Nat} {m : Metrics} {t : Station σ} :
    s.deliver intrude s.clock.elapsed limit 0 = (.answered (n + 1), t) → t.buffer.snapshot = .ok m →
    Awaits intrude limit s (.snapshot m) (t.calling (.snapshot m))
  | intruded {call : Call} {t : Station σ} (i : Intrusion) : Awaits intrude limit s call t →
    Awaits intrude limit s call (intrude t i)

/-- Whoever is called in a batch finds the station as busy as the batch has. -/
theorem Awaits.busy {limit : Nat} {s t : Station σ} {call : Call}
    (hawaits : Awaits intrude limit s call t) (h : OnlyErrands intrude s.busy) :
    t.busy = s.busy := by
  induction hawaits with
  | entry hoffers => exact hoffers.busy h.produces
  | snapshot hdeliver _ =>
      have hloop := (deliver_delivers s.clock.elapsed limit 0 s).moves h
      rw [hdeliver] at hloop
      exact hloop.busy
  | intruded i _ ih => exact (h _ i ih).aside.busy.trans ih

/-- Handing in an entry comes to no more than that: the sink is not called and no batch is run.  An
entry that is accepted is kept in the queue; if a batch is due the caller has to wait for the one
under way. -/
structure HandsIn (config : EngineConfig) (f : Fields) (s : Station σ)
    (result : Outcome Nat × Station σ) : Prop where
  sink : result.2.sink = s.sink
  busy : result.2.busy = s.busy
  durations : result.2.ledger.durations = s.ledger.durations
  refused : ∀ why, s.buffer.refusal? f.withDefaults s.storage.shortage? = some why →
    result.1 = .failed why ∧
      (result.2.buffer = s.buffer ∨ result.2.buffer = s.buffer.countError)
  accepted : s.buffer.refusal? f.withDefaults s.storage.shortage? = none →
    result.2.buffer = s.buffer.accept f.withDefaults s.now ∧
      result.1 = if config.autoProcessThreshold ≤ s.buffer.size + 1 then .abandoned
        else .answered s.buffer.nextId

/-- While an engine is busy, handing in an entry comes to no more than that. -/
theorem addLog_handsIn (config : EngineConfig) (f : Fields) {s : Station σ}
    (hbusy : s.busy = true) : s.HandsIn config f (s.addLog config intrude f) := by
  have herrands : Errands s (s.addLog config intrude f).2 := addLog_errands config f hbusy
  have haside := herrands.aside
  refine ⟨haside.sink, haside.busy, haside.durations, ?_, ?_⟩
  · intro why hwhy
    obtain ⟨-, ⟨why', hrefusal, hleft, hexit⟩ | ⟨hrefusal, hstorage, -⟩⟩ :=
      s.addLog_exits config intrude f
    · rw [hexit]
      obtain rfl := Option.some.inj (hwhy.symm.trans hrefusal)
      exact ⟨rfl, hleft⟩
    · rw [hstorage, hrefusal] at hwhy
      cases hwhy
  · intro hnone
    obtain ⟨hbeside, ⟨why, hrefusal, -, -⟩ | ⟨-, -, haccept, hexit⟩⟩ :=
      s.addLog_exits config intrude f
    · rw [hnone] at hrefusal
      cases hrefusal
    · have hsize : (s.enqueue f.withDefaults).2.buffer.size = s.buffer.size + 1 := by
        rw [haccept, Buffer.accept_size]
      rw [hsize] at hexit
      rcases hexit with ⟨hbelow, hexit⟩ | ⟨hreached, hexit⟩
      · rw [hexit, if_neg (Nat.not_le_of_lt hbelow)]
        exact ⟨haccept, rfl⟩
      · -- the batch that is due is not started
        rw [hexit, dueBatch_of_busy config intrude (hbeside.busy.trans hbusy), if_pos hreached]
        exact ⟨haccept, rfl⟩

end

/-! ## Calls that are given up -/

/-- The last use of a sink is an insert that it does not answer. -/
def LeftWaiting (trace : List Moment) : Prop :=
  ∃ call, call.isInsert = true ∧ trace.getLast? = some (.ended call .stalled)

variable {σ : Type} [Sink σ] {intrude : Station (Traced σ) → Intrusion → Station (Traced σ)}
  {s : Station (Traced σ)}

/-- The end of a call is noted last, whatever has happened before. -/
theorem callSink_last (intrude : Station (Traced σ) → Intrusion → Station (Traced σ))
    (s : Station (Traced σ)) (call : Call) : (s.callSink intrude call).2.sink.trace.getLast? =
      some (.ended call (s.callSink intrude call).1) := by
  rw [callSink]
  dsimp only
  rw [Traced.settle_trace, List.getLast?_concat]

theorem Delivers.leftWaiting {started remaining processed : Nat} {s' : Station (Traced σ)}
    {outcome : Outcome Nat} (hloop : Delivers intrude started remaining processed s outcome s')
    (houtcome : outcome = .abandoned) : LeftWaiting s'.sink.trace := by
  induction hloop with
  | limit => cases houtcome
  | closed _ => cases houtcome
  | empty _ _ => cases houtcome
  | accepted _ _ _ ih => exact ih houtcome
  | refused _ _ _ => cases houtcome
  | @stalled _ _ _ taken ended e _ hcall =>
      have hlast := callSink_last intrude taken (.log (taken.deliveryOf e))
      rw [hcall] at hlast
      rw [(ended.abandon_aside e).sink]
      exact ⟨_, rfl, hlast⟩

theorem persistSnapshot_leftWaiting (h : (s.persistSnapshot intrude).1 = .abandoned) :
    LeftWaiting (s.persistSnapshot intrude).2.sink.trace := by
  rw [persistSnapshot] at h ⊢
  cases hsnapshot : s.buffer.snapshot with
  | error why => simp [hsnapshot] at h
  | ok metrics =>
      have hlast := callSink_last intrude s (.snapshot metrics)
      simp only [hsnapshot] at h ⊢
      rcases hcall : s.callSink intrude (.snapshot metrics) with ⟨_ | why | _, ended⟩ <;>
        rw [hcall] at h hlast
      · simp at h
      · simp at h
      · exact ⟨_, rfl, hlast⟩

/-- A batch is given up where the sink does not answer. -/
theorem process_leftWaiting {maxItems : Nat} (h : (s.process intrude maxItems).1 = .abandoned) :
    LeftWaiting (s.process intrude maxItems).2.sink.trace := by
  have hloop : Delivers intrude s.clock.elapsed (s.batchLimit maxItems) 0 s _ _ :=
    deliver_delivers _ _ _ _
  rcases hend : s.deliver intrude s.clock.elapsed (s.batchLimit maxItems) 0 with
    ⟨n | why | _, s₁⟩
  · rcases process_of_answered hend with ⟨-, hs⟩ | ⟨-, hgiven, hs⟩ | ⟨-, -, hs⟩
    · rw [hs] at h
      cases h
    · rw [hs]
      exact persistSnapshot_leftWaiting hgiven
    · rw [hs] at h
      cases h
  · rw [process_of_failed hend] at h
    cases h
  · rw [hend] at hloop
    rw [process_of_abandoned hend]
    exact hloop.leftWaiting rfl

theorem processAlone_leftWaiting {maxItems : Nat} (hidle : s.busy = false)
    (h : (s.processAlone intrude maxItems).1 = .abandoned) :
    LeftWaiting (s.processAlone intrude maxItems).2.sink.trace := by
  simp only [processAlone, hidle, Bool.false_eq_true, if_false] at h ⊢
  exact process_leftWaiting h

theorem addLog_leftWaiting (config : EngineConfig) {f : Fields} (hidle : s.busy = false)
    (h : (s.addLog config intrude f).1 = .abandoned) :
    LeftWaiting (s.addLog config intrude f).2.sink.trace := by
  obtain ⟨hbeside, ⟨why, -, -, hexit⟩ | ⟨-, -, -, ⟨-, hexit⟩ | ⟨-, hexit⟩⟩⟩ :=
    s.addLog_exits config intrude f
  · rw [hexit] at h
    cases h
  · rw [hexit] at h
    cases h
  · rw [hexit] at h ⊢
    -- the batch was due and nobody else was running one
    refine processAlone_leftWaiting (hbeside.busy.trans hidle) ?_
    change ((s.enqueue f.withDefaults).2.dueBatch config intrude).1 = .abandoned
    cases hbatch : ((s.enqueue f.withDefaults).2.dueBatch config intrude).1 with
    | abandoned => rfl
    | answered report => simp [hbatch, Outcome.map] at h
    | failed why => simp [hbatch, Outcome.map] at h

end Station

namespace Engine

open Station

variable {σ : Type} [Sink σ]

theorem drain_leftWaiting {intrude : Station (Traced σ) → Intrusion → Station (Traced σ)}
    {batch fuel drained : Nat} {s : Station (Traced σ)}
    (h : (drain intrude batch fuel drained s).1 = .abandoned) :
    LeftWaiting (drain intrude batch fuel drained s).2.sink.trace := by
  -- only the last batch of a drain can have been given up
  induction fuel generalizing drained s with
  | zero => cases h
  | succ fuel ih =>
      have hprocess : (s.process intrude batch).1 = .abandoned →
          LeftWaiting (s.process intrude batch).2.sink.trace := process_leftWaiting
      unfold drain at h ⊢
      rcases hend : s.process intrude batch with ⟨report | why | _, s₁⟩ <;>
        simp only [hend] at h hprocess ⊢
      · split at h
        · cases h
        · rw [if_neg ‹_›]
          exact ih h
      · cases h
      · exact hprocess trivial

theorem shutdown_leftWaiting {e : Engine (Traced σ)} (hidle : e.station.busy = false)
    (h : e.shutdown.1 = .abandoned) : LeftWaiting e.shutdown.2.station.sink.trace := by
  rcases e.shutdown_exits with ⟨hbusy, -⟩ | ⟨-, -, hs⟩ | ⟨-, -, ⟨drained, s, -, hs⟩ | ⟨s, hdrain, hs⟩⟩
  · exact absurd (hidle.symm.trans hbusy) (by decide)
  · rw [hs] at h
    cases h
  · rw [hs] at h
    cases h
  · have hwaiting := drain_leftWaiting (congrArg Prod.fst hdrain)
    rw [hs]
    exact (congrArg (fun result => result.2.sink.trace) hdrain) ▸ hwaiting

/-- A health check is given up where the sink does not answer a ping. -/
theorem health_last {e : Engine (Traced σ)} (h : e.health.1 = .abandoned) :
    e.health.2.station.sink.trace.getLast? = some (.ended .ping .stalled) := by
  unfold health onStation at h ⊢
  cases hdepth : e.station.buffer.depth with
  | error why => simp [hdepth] at h
  | ok depth =>
      have hlast := callSink_last (Engine.intrude e.config) e.station .ping
      simp only [hdepth] at h ⊢
      rcases hcall : e.station.callSink (Engine.intrude e.config) .ping with ⟨_ | why | _, ended⟩ <;>
        rw [hcall] at h hlast
      · simp at h
      · simp at h
      · exact hlast

/-- Batches exclude each other, and no call leaves the engine marked busy.  After every session of a
new engine:

The inserts in the trace of the sink do not overlap: none is started while another one is pending.
Every batch of the session was run while the engine was marked busy.  In such a batch, while an
insert is pending and after whatever the sink has done to the engine since, an entry that is handed
in is accepted or refused and nothing more; an accepted one is kept, and no batch is run for it.

When no call is in progress the engine is not marked busy.  So whoever hands in an entry then, runs
a batch or shuts the engine down, and has to give up, was left waiting by the sink for the end of an
insert, and whoever gives up a health check, for the end of a ping. -/
theorem batches_exclusive {config : EngineConfig} {sink : σ} {clock : Clock} {storage : Storage}
    {e : Engine σ} (he : withSink config sink clock storage = .ok e) (ops : List (Operation σ)) :
    let after := e.run ops
    ((e.runTraced ops).map Traced.inner = after ∧ Exclusive (e.trace ops) ∧
      ∃ calls, History true e.withTrace.station calls (e.runTraced ops).station) ∧
    (∀ (depth limit : Nat) (s t : Station σ) (call : Call), s.busy = true →
      Awaits (intrudeThrough e.config depth) limit s call t →
      ∀ f intrude, t.HandsIn e.config f (t.addLog e.config intrude f)) ∧
    after.station.busy = false ∧
    (∀ f, (after.addLog f).1 = .abandoned → LeftWaiting (after.trace [.addLog f])) ∧
    (∀ n, (after.process n).1 = .abandoned → LeftWaiting (after.trace [.process n])) ∧
    (after.shutdown.1 = .abandoned → LeftWaiting (after.trace [.shutdown])) ∧
    (after.health.1 = .abandoned →
      (after.trace [.health]).getLast? = some (.ended .ping .stalled)) := by
  intro after
  obtain ⟨hidle, -⟩ := run_course he ops
  obtain ⟨calls, hhistory⟩ := e.run_history ops
  refine ⟨⟨e.runTraced_inner ops, (hhistory.settled .nil).exclusive, calls, hhistory⟩, ?_, hidle,
    ?_, ?_, ?_, ?_⟩
  · intro depth limit s t call hbusy hawaits f intrude
    have herrands := intrudeThrough_onlyErrands (σ := σ) e.config depth
    exact addLog_handsIn e.config f ((hawaits.busy (herrands.of_eq hbusy)).trans hbusy)
  · intro f habandoned
    have hsame := Station.addLog_map after.withTrace.station Traced.inner_morphism after.config
      (sameIntrusions_intrudeThrough Traced.inner_morphism after.config nesting) f
    exact addLog_leftWaiting after.config hidle
      ((congrArg Prod.fst hsame).symm.trans habandoned)
  · intro n habandoned
    have hsame := Station.processAlone_map after.withTrace.station Traced.inner_morphism
      (sameIntrusions_intrudeThrough Traced.inner_morphism after.config nesting) n
    exact processAlone_leftWaiting hidle ((congrArg Prod.fst hsame).symm.trans habandoned)
  · intro habandoned
    have hsame := after.withTrace.shutdown_map Traced.inner_morphism
    exact shutdown_leftWaiting hidle ((congrArg Prod.fst hsame).symm.trans habandoned)
  · intro habandoned
    have hsame := after.withTrace.health_map Traced.inner_morphism
    exact health_last ((congrArg Prod.fst hsame).symm.trans habandoned)

/-- An entry is handed in from inside the call for another one, when a batch is due, and the sink
never answers that call.  The caller was left waiting by the sink; the entry is kept, and the next
batch can run. -/
theorem batches_exclusive_of_nested_producer :
    let fields : Fields := ⟨"INFO", "app", "a"⟩
    let sink : Scripted MemorySink :=
      ⟨[⟨⟨0, none, [.add fields]⟩, .stall⟩], [], [], [], .withRetention 1⟩
    let e : Engine (Scripted MemorySink) := ⟨⟨4, 1, 1, 50⟩,
      (around ⟨4, [], 1, .initial 4 0, true⟩ sink ⟨0, 0⟩ 1).record (.initialized 4 1 1)⟩
    let busy := { e.station with buffer := e.station.buffer.accept fields 0, busy := true }
    let after := e.run [.addLog fields]
    withSink ⟨4, 1, 1, 0⟩ sink ⟨0, 0⟩ = .ok e ∧ LeftWaiting (e.trace [.addLog fields]) ∧
      after.station.busy = false ∧ after.station.buffer.queue.map Entry.id = [1, 2] ∧
      (takenIn (after.trace [.process 1])).map Entry.id = [1] ∧
      Exclusive (e.trace [.addLog fields, .process 1]) ∧
      ∃ call t, Awaits (intrude e.config) 1 busy call t ∧
        t.HandsIn e.config fields (t.addLog e.config (intrude e.config) fields) := by
  intro fields sink e busy after
  have he : withSink ⟨4, 1, 1, 0⟩ sink ⟨0, 0⟩ = .ok e := rfl
  obtain ⟨-, hnested, -, haddLog, -⟩ := batches_exclusive he []
  obtain ⟨⟨-, hexclusive, -⟩, -⟩ := batches_exclusive he [.addLog fields, .process 1]
  obtain ⟨-, -, hidle, -⟩ := batches_exclusive he [.addLog fields]
  have hawaits : ∃ call t, Awaits (intrude e.config) 1 busy call t :=
    ⟨_, _, .entry (.first rfl)⟩
  obtain ⟨call, t, hawaits⟩ := hawaits
  have hkept := hnested nesting 1 _ t call rfl hawaits fields (intrude e.config)
  exact ⟨he, haddLog fields (by decide), hidle, by decide, by decide, hexclusive, call, t, hawaits,
    hkept⟩

end Engine

end LogSpool
