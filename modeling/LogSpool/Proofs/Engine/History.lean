import LogSpool.Proofs.Engine.Course
import LogSpool.Proofs.Session.Trace
import LogSpool.Proofs.Station.Books

/-!
# The history of a session

This module takes a session apart into the batches that were run in it and the quiet steps between
them, whoever has started the batches: the calls to an engine, the entries that fill its queue up to
the threshold, and also those that a sink hands in while it is pinged, when no batch is under way.
What every quiet step and every batch keeps, every session keeps.

* `Quiet` — a step that is no part of a batch.
* `History` — how one station comes out of another, with the outcomes of all batches in between; all
  of them are run with the lock held, or all without one.
* `History.batches`, `History.settled`, `History.booked` — what histories keep.
* `Station.run_history`, `Engine.run_history` — every session has a history.
-/

namespace LogSpool

variable {σ : Type} [Sink σ]

namespace Station

/-! ## Quiet steps -/

/-- A step that is no part of a batch. -/
inductive Quiet (s : Station (Traced σ)) : Station (Traced σ) → Prop where
  | errand {s' : Station (Traced σ)} : Errand s s' → Quiet s s'
  | mark (busy : Bool) : Quiet s { s with busy }
  /-- The engine itself writes to the journal. -/
  | note {event : Event} : event.component = "engine_api" → Quiet s (s.record event)
  | pingStarted : Quiet s { s with sink := (Sink.receive .ping s.sink).2 }
  | pingEnded : Quiet s { s with sink := (Sink.settle .ping s.sink).2 }
  | sinkClosed : Quiet s s.closeSink
  /-- The sink changes by itself. -/
  | sinkChanged (change : σ → σ) : Quiet s { s with sink := s.sink.onInner change }

/-- An event of the engine itself is not about a cancelled delivery. -/
theorem not_cancellation {event : Event} (h : event.component = "engine_api") :
    event.isCancelledReturn = false ∧ event.isCancelledLoss = false := by
  cases event <;> simp_all [Event.component, Event.isCancelledReturn, Event.isCancelledLoss]

namespace Quiet

variable {s s' : Station (Traced σ)}

theorem batches (h : Quiet s s') : s'.ledger.batches = s.ledger.batches := by
  cases h with
  | errand herrand => exact congrArg List.length herrand.aside.durations
  | _ => rfl

theorem settled (h : Quiet s s') (hs : Settled s.sink.trace) : Settled s'.sink.trace := by
  cases h with
  | errand herrand =>
      rw [herrand.aside.sink]
      exact hs
  | mark busy => exact hs
  | note _ => exact hs
  | pingStarted => exact hs.append (.of_not_insert rfl)
  | pingEnded => exact hs.append (.of_not_insert rfl)
  | sinkClosed => exact hs.append (.of_not_insert rfl)
  | sinkChanged change => exact hs

omit [Sink σ] in
/-- What is noted of a sink without an insert is not in the books. -/
theorem booked_of_noted (hs : TraceBooked s) {x : Traced σ} {m : Moment}
    (hx : x.trace = s.sink.trace ++ [m]) (hcancelled : cancelledIn [m] = 0)
    (hrefused : refusedSnapshotsIn [m] = 0) : TraceBooked { s with sink := x } := by
  intro hopen
  change Agrees (cancelledIn x.trace) (refusedSnapshotsIn x.trace) _
  rw [hx, cancelledIn_append, refusedSnapshotsIn_append, hcancelled, hrefused]
  exact (hs hopen).of_same rfl rfl rfl

theorem booked (h : Quiet s s') (hs : TraceBooked s) : TraceBooked s' := by
  cases h with
  | errand herrand =>
      have hbooked := herrand.booked hs
      rw [TraceBooked, herrand.aside.sink]
      exact hbooked
  | mark busy => exact fun hopen => (hs hopen).of_same rfl rfl rfl
  | note hevent =>
      obtain ⟨hreturn, hloss⟩ := not_cancellation hevent
      exact fun hopen => (hs hopen).record hreturn hloss
  | pingStarted => exact booked_of_noted hs rfl rfl rfl
  | pingEnded => exact booked_of_noted hs rfl rfl rfl
  | sinkClosed => exact booked_of_noted hs rfl rfl rfl
  | sinkChanged change => exact fun hopen => (hs hopen).of_same rfl rfl rfl

end Quiet

/-! ## Histories -/

/-- How one station comes out of another, with the outcomes of all batches that were run in between,
the earliest first.  While a batch is run the station is marked busy, or it is not, and others run
errands only. -/
inductive History (locked : Bool) (s : Station (Traced σ)) :
    List (Outcome BatchReport) → Station (Traced σ) → Prop where
  | refl : History locked s [] s
  | quiet {calls : List (Outcome BatchReport)} {s' s'' : Station (Traced σ)} :
    History locked s calls s' → Quiet s' s'' → History locked s calls s''
  | batch {calls : List (Outcome BatchReport)} {s' : Station (Traced σ)}
    {intrude : Station (Traced σ) → Intrusion → Station (Traced σ)} (maxItems : Nat) :
    History locked s calls s' → s'.busy = locked → OnlyErrands intrude locked →
    History locked s (calls ++ [(s'.process intrude maxItems).1])
      (s'.process intrude maxItems).2

namespace History

variable {locked : Bool} {s s' s'' : Station (Traced σ)}
  {calls calls' : List (Outcome BatchReport)}

theorem trans (h : History locked s calls s') (h' : History locked s' calls' s'') :
    History locked s (calls ++ calls') s'' := by
  induction h' with
  | refl =>
      rw [List.append_nil]
      exact h
  | quiet _ hquiet ih => exact .quiet ih hquiet
  | batch maxItems _ hbusy herrands ih =>
      rw [← List.append_assoc]
      exact .batch maxItems ih hbusy herrands

/-- The ledger has entered as a batch what was answered or has failed in a delivery. -/
theorem batches (h : History locked s calls s') :
    s'.ledger.batches = s.ledger.batches + calls.countP Outcome.isObserved := by
  induction h with
  | refl => rfl
  | quiet _ hquiet ih => rw [hquiet.batches, ih]
  | batch maxItems _ hbusy herrands ih =>
      rw [process_batches maxItems (herrands.of_eq hbusy), ih, List.countP_append, List.countP_singleton,
        Nat.add_assoc]

/-- The inserts of a session follow one another. -/
theorem settled (h : History locked s calls s') (hs : Settled s.sink.trace) :
    Settled s'.sink.trace := by
  induction h with
  | refl => exact hs
  | quiet _ hquiet ih => exact hquiet.settled ih
  | batch maxItems _ hbusy herrands ih => exact (process_moves maxItems (herrands.of_eq hbusy)).settled ih

/-- The two sets of books are kept in agreement. -/
theorem booked (h : History locked s calls s') (hs : TraceBooked s) : TraceBooked s' := by
  induction h with
  | refl => exact hs
  | quiet _ hquiet ih => exact hquiet.booked ih
  | batch maxItems _ hbusy herrands ih => exact (process_moves maxItems (herrands.of_eq hbusy)).booked ih

end History

/-- One station comes out of another by some history. -/
def Past (locked : Bool) (s s' : Station (Traced σ)) : Prop :=
  ∃ calls, History locked s calls s'

namespace Past

variable {locked : Bool} {s s' s'' : Station (Traced σ)}

theorem refl (s : Station (Traced σ)) : Past locked s s :=
  ⟨[], .refl⟩

theorem trans (h : Past locked s s') (h' : Past locked s' s'') : Past locked s s'' := by
  obtain ⟨calls, hcalls⟩ := h
  obtain ⟨calls', hcalls'⟩ := h'
  exact ⟨calls ++ calls', hcalls.trans hcalls'⟩

theorem quiet (h : Quiet s s') : Past locked s s' :=
  ⟨[], .quiet .refl h⟩

theorem errands (h : Errands s s') : Past locked s s' :=
  h.induction (P := Past locked s) (fun herrand ht => ht.trans (quiet (.errand herrand))) (refl s)

theorem note (s : Station (Traced σ)) {event : Event} (h : event.component = "engine_api") :
    Past locked s (s.record event) :=
  quiet (.note h)

theorem process {intrude : Station (Traced σ) → Intrusion → Station (Traced σ)} (maxItems : Nat)
    (hbusy : s.busy = locked) (h : OnlyErrands intrude locked) :
    Past locked s (s.process intrude maxItems).2 :=
  ⟨[(s.process intrude maxItems).1], .batch maxItems .refl hbusy h⟩

end Past

/-! ## Calls to an engine -/

section Calls

variable (config : EngineConfig)
  {intrude : Station (Traced σ) → Intrusion → Station (Traced σ)} (f : Fields)

theorem processAlone_past (h : OnlyErrands intrude true) (maxItems : Nat)
    (s : Station (Traced σ)) : Past true s (s.processAlone intrude maxItems).2 := by
  rw [processAlone]
  cases hbusy : s.busy with
  | true => exact .refl s
  | false =>
      have hmarked : Past true s { s with busy := true } := .quiet (.mark true)
      have hbatch : Past true { s with busy := true }
          (({ s with busy := true } : Station (Traced σ)).process intrude maxItems).2 :=
        .process maxItems rfl h
      exact (hmarked.trans hbatch).trans (.quiet (.mark false))

theorem addLog_past (h : OnlyErrands intrude true) (s : Station (Traced σ)) :
    Past true s (s.addLog config intrude f).2 := by
  obtain ⟨t, herrands, hend | hend⟩ := s.addLog_cases config f
  · rw [hend]
    exact .errands herrands
  · rw [hend]
    exact (Past.errands herrands).trans (processAlone_past h _ t)

/-- What a sink does to its engine has a history, whether a batch is under way or not. -/
theorem intrudeThrough_past (depth : Nat) (s : Station (Traced σ)) (i : Intrusion) :
    Past true s (intrudeThrough config depth s i) := by
  cases depth with
  | zero => exact .refl s
  | succ depth =>
      have herrands := intrudeThrough_onlyErrands (σ := Traced σ) config depth
      cases i with
      | add f => exact addLog_past config f herrands s
      | fill f =>
          refine fillThrough_induction (P := Past true s) config f ?_ _ (Past.refl s)
          intro t ht
          exact ht.trans (addLog_past config f herrands t)
      | close => exact .errands (.single .close)
      | wait micros => exact .errands (.single (.moveClock (·.advance micros)))
      | setWall ms => exact .errands (.single (.moveClock (·.setWall ms)))

/-- A ping has a history: it starts, others act on the engine, and it ends. -/
theorem ping_past (depth : Nat) (s : Station (Traced σ)) :
    Past true s (s.callSink (intrudeThrough config depth) .ping).2 := by
  have hintrusions (is : List Intrusion) (t : Station (Traced σ)) :
      Past true t (is.foldl (intrudeThrough config depth) t) := by
    induction is generalizing t with
    | nil => exact .refl t
    | cons i is ih => exact (intrudeThrough_past config depth t i).trans (ih _)
  let started : Station (Traced σ) := { s with sink := (Sink.receive .ping s.sink).2 }
  have hstarted : Past true s started := .quiet .pingStarted
  have hwait : Past true started (started.passTime (Sink.receive .ping s.sink).1) :=
    .errands (.single (.moveClock _))
  exact ((hstarted.trans hwait).trans (hintrusions _ _)).trans (.quiet .pingEnded)

end Calls

end Station

namespace Engine

open Station

theorem health_past (e : Engine (Traced σ)) : Past true e.station e.health.2.station := by
  unfold health onStation
  dsimp only
  cases e.station.buffer.depth with
  | error why => exact .refl _
  | ok depth =>
      have hping : Past true e.station (e.station.callSink (Engine.intrude e.config) .ping).2 :=
        ping_past e.config nesting e.station
      dsimp only
      rcases hend : e.station.callSink (Engine.intrude e.config) .ping with ⟨answer, s⟩
      rw [hend] at hping
      cases answer with
      | accepted => exact hping
      | refused why => exact hping.trans (.note s rfl)
      | stalled => exact hping

theorem drain_past {intrude : Station (Traced σ) → Intrusion → Station (Traced σ)}
    (batch fuel drained : Nat) {s : Station (Traced σ)} (hlocked : s.busy = true)
    (h : OnlyErrands intrude true) : Past true s (drain intrude batch fuel drained s).2 := by
  -- each batch leaves the mark for the next one
  induction fuel generalizing drained s with
  | zero => exact .refl s
  | succ fuel ih =>
      have hprocess : Past true s (s.process intrude batch).2 := .process batch hlocked h
      have hbusy := (process_moves batch (h.of_eq hlocked)).busy
      unfold drain
      rcases hend : s.process intrude batch with ⟨report | why | _, s₁⟩ <;>
        rw [hend] at hprocess hbusy
      · dsimp only
        split
        · exact hprocess
        · exact hprocess.trans (ih _ (hbusy.trans hlocked))
      · exact hprocess.trans (.note s₁ rfl)
      · exact hprocess

theorem closeAfter_past (drained : Nat) (s : Station (Traced σ)) :
    Past true s (closeAfter drained s).2 := by
  -- the buffer is closed first, then the sink, and then both are noted
  have hclosed : Past true s s.close.2 := .errands (.single .close)
  have hsink : Past true s.close.2 s.close.2.closeSink := .quiet .sinkClosed
  exact (hclosed.trans hsink).trans (.note _ rfl)

theorem shutdown_past (e : Engine (Traced σ)) : Past true e.station e.shutdown.2.station := by
  have hmarked : Past true e.station { e.station with busy := true } := .quiet (.mark true)
  have hdrain : Past true e.station e.finalDrain.2 :=
    hmarked.trans (drain_past _ _ _ rfl (intrude_onlyErrands e.config))
  rcases e.shutdown_exits with ⟨-, hs⟩ | ⟨-, -, hs⟩ | ⟨-, -, ⟨drained, s, hend, hs⟩ | ⟨s, hend, hs⟩⟩ <;>
    rw [hs]
  · exact .refl _
  · exact .refl _
  · rw [hend] at hdrain
    exact (hdrain.trans (closeAfter_past drained s)).trans (.quiet (.mark false))
  · rw [hend] at hdrain
    exact hdrain.trans (.quiet (.mark false))

theorem perform_past (e : Engine (Traced σ)) (op : Operation σ) :
    Past true e.station (e.perform (op.lift Traced.onInner)).station := by
  have herrands := intrude_onlyErrands (σ := Traced σ) e.config
  cases op with
  | addLog f => exact addLog_past e.config f herrands e.station
  | process maxItems => exact processAlone_past herrands maxItems e.station
  | health => exact health_past e
  | shutdown => exact shutdown_past e
  | moveClock move => exact .errands (.single (.moveClock move))
  | changeSink change => exact .quiet (.sinkChanged change)

/-- Every session of an engine has a history, in which every batch is run while the engine is marked
busy. -/
theorem run_history (e : Engine σ) (ops : List (Operation σ)) :
    ∃ calls, History true e.withTrace.station calls (e.runTraced ops).station := by
  have hrun (e : Engine (Traced σ)) :
      Past true e.station (e.run (ops.map (Operation.lift Traced.onInner))).station := by
    induction ops generalizing e with
    | nil => exact .refl _
    | cons op ops ih => exact (e.perform_past op).trans (ih _)
  exact hrun e.withTrace

end Engine

namespace Station

theorem perform_past (s : Station (Traced σ)) (op : Operation σ) :
    Past s.busy s (s.perform (op.lift Traced.onInner)) := by
  cases op with
  | enqueue f => exact .errands (.single (.enqueue f))
  | process maxItems => exact .process maxItems rfl (intrude_onlyErrands s.busy)
  | close => exact .errands (.single .close)
  | moveClock move => exact .errands (.single (.moveClock move))
  | changeSink change => exact .quiet (.sinkChanged change)

/-- Every session of a buffer with its processor has a history.  There is no lock: no operation
touches the mark. -/
theorem run_history (s : Station σ) (ops : List (Operation σ)) :
    ∃ calls, History s.busy s.withTrace calls (s.runTraced ops) := by
  have hrun (s : Station (Traced σ)) :
      Past s.busy s (s.run (ops.map (Operation.lift Traced.onInner))) := by
    induction ops generalizing s with
    | nil => exact .refl _
    | cons op ops ih =>
        have hbusy := (s.perform_keeps (op.lift Traced.onInner)).busy
        have hrest := ih (s.perform (op.lift Traced.onInner))
        rw [hbusy] at hrest
        exact (s.perform_past op).trans hrest
  exact hrun s.withTrace

end Station

end LogSpool
