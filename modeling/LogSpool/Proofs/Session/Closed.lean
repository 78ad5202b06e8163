import LogSpool.Proofs.Engine.History
import LogSpool.Proofs.Station.Closed

/-!
# Sessions after the end of a buffer

This module follows the sessions that go on when the buffer has been closed: at a desk, and of an
engine.  No request moves the buffer any more, the sink is not used, and every call is refused.  The
only counter that still moves is the one of the process for entries with invalid fields.

* `Desk.Refuses`, `Engine.Refuses` — what every call comes to.
* `Desk.serve_closed`, `Engine.perform_closed` — no request changes anything.
* `Desk.Ended`, `Engine.Ended` — what holds after every further session.
* `Desk.serveAll_regular` — every session leaves a closed buffer shut.
-/

namespace LogSpool

variable {σ : Type}

/-! ## Handing in through an engine -/

namespace Station

variable [Sink σ] (config : EngineConfig) (intrude : Station σ → Intrusion → Station σ) {f : Fields}

theorem addLog_of_closed {s : Station σ} (hclosed : s.buffer.isOpen = false)
    (hfields : f.withDefaults.fault? = none) :
    s.addLog config intrude f = (.failed .notInitialized, s) := by
  rw [addLog, enqueue_of_closed hclosed hfields]

theorem addLog_of_fault (s : Station σ) {fault : FieldFault}
    (hfault : f.withDefaults.fault? = some fault) : s.addLog config intrude f =
      (.failed (.validation fault.reason), s.countError .validationError) := by
  rw [addLog, enqueue_of_fault s hfault]

end Station

/-! ## A desk -/

namespace Desk

/-- Every call is refused because the buffer is closed; only the fields of an entry are checked
before.  Nothing changes, and an entry that could not go back stays in its hand. -/
structure Refuses [Sink σ] (d : Desk σ) : Prop where
  take : ∀ hand, d.take hand = (.error .notInitialized, d)
  giveBack : ∀ hand e, d.hands.get? hand = some e →
    d.giveBack hand = (.refused e .notInitialized, d)
  snapshot : d.station.buffer.snapshot = .error .notInitialized
  depth : d.station.buffer.depth = .error .notInitialized
  preview : ∀ n, d.station.buffer.preview n = .error .notInitialized
  process : ∀ intrude maxItems,
    d.station.process intrude maxItems = (.failed .notInitialized, d.station)
  enqueue : ∀ f, f.fault? = none → d.station.enqueue f = (.error .notInitialized, d.station)
  invalid : ∀ f fault, f.fault? = some fault → d.station.enqueue f =
    (.error (.validation fault.reason), d.station.countError .validationError)
  addLog : ∀ config intrude f, f.withDefaults.fault? = none →
    d.station.addLog config intrude f = (.failed .notInitialized, d.station)
  close : d.station.close = (0, d.station)

section

variable {d : Desk σ} (hclosed : d.station.buffer.isOpen = false)

include hclosed

theorem take_of_closed (hand : String) : d.take hand = (.error .notInitialized, d) := by
  rw [take, Station.dequeue_of_closed hclosed]

theorem giveBack_of_closed {hand : String} {e : Entry} (hget : d.hands.get? hand = some e) :
    d.giveBack hand = (.refused e .notInitialized, d) := by
  rw [giveBack, hget]
  dsimp only
  rw [Station.requeueFront_of_closed hclosed]

theorem refuses_of_closed [Sink σ] (hbatch : 0 < d.station.defaultBatch) : d.Refuses where
  take := take_of_closed hclosed
  giveBack _ _ := giveBack_of_closed hclosed
  snapshot := Buffer.read_of_closed hclosed Buffer.metrics
  depth := Buffer.read_of_closed hclosed Buffer.size
  preview _ := Buffer.read_of_closed hclosed _
  process intrude := Station.process_of_closed hclosed intrude hbatch
  enqueue _ hfields := Station.enqueue_of_closed hclosed hfields
  invalid _ _ hfault := d.station.enqueue_of_fault hfault
  addLog config intrude _ hfields := Station.addLog_of_closed config intrude hclosed hfields
  close := Station.close_of_closed hclosed

end

variable [Sink σ]

/-- No request changes anything about a closed buffer, or calls the sink. -/
theorem serve_closed {d : Desk (Traced σ)} (hclosed : d.station.buffer.isOpen = false)
    (hbatch : 0 < d.station.defaultBatch) (r : Request σ) :
    Station.Rests d.station (d.serve (r.lift Traced.onInner)).station ∧
      (d.serve (r.lift Traced.onInner)).station.sink.trace = d.station.sink.trace := by
  have hsame {d' : Desk (Traced σ)} (h : d' = d) : Station.Rests d.station d'.station ∧
      d'.station.sink.trace = d.station.sink.trace := by
    rw [h]
    exact ⟨.refl _, rfl⟩
  have herrand {s' : Station (Traced σ)} (h : Station.Errand d.station s') :
      Station.Rests d.station s' ∧ s'.sink.trace = d.station.sink.trace :=
    ⟨h.rests hclosed, congrArg Traced.trace h.aside.sink⟩
  cases r with
  | operation op =>
      cases op with
      | take hand => exact hsame (congrArg Prod.snd (take_of_closed hclosed hand))
      | giveBack hand =>
          cases hget : d.hands.get? hand with
          | none =>
              refine hsame ?_
              change (d.giveBack hand).2 = d
              rw [giveBack, hget]
          | some e => exact hsame (congrArg Prod.snd (giveBack_of_closed hclosed hget))
      | discard hand => exact ⟨.refl d.station, rfl⟩
      | station op =>
          cases op with
          | enqueue f => exact herrand (.enqueue f)
          | process maxItems =>
              have hfailed := Station.process_of_closed hclosed Station.intrude hbatch maxItems
              exact hsame (congrArg (fun result => { d with station := result.2 }) hfailed)
          | close => exact herrand .close
          | moveClock move => exact herrand (.moveClock move)
          | changeSink change => exact ⟨⟨rfl, rfl, rfl, rfl, rfl⟩, rfl⟩
  | markProcessed latency =>
      have hmark := Station.markProcessed_of_closed hclosed latency
      exact hsame (congrArg (fun s => { d with station := s }) hmark)
  | markError =>
      have hmark := Station.markError_of_closed hclosed
      exact hsame (congrArg (fun s => { d with station := s }) hmark)

theorem serveAll_closed {d : Desk (Traced σ)} (hclosed : d.station.buffer.isOpen = false)
    (hbatch : 0 < d.station.defaultBatch) (requests : List (Request σ)) :
    Station.Rests d.station (d.serveAll (requests.map (Request.lift Traced.onInner))).station ∧
      (d.serveAll (requests.map (Request.lift Traced.onInner))).station.sink.trace =
        d.station.sink.trace := by
  induction requests generalizing d with
  | nil => exact ⟨.refl _, rfl⟩
  | cons r requests ih =>
      obtain ⟨hfirst, htrace⟩ := serve_closed hclosed hbatch r
      obtain ⟨hrest, htrace'⟩ := ih (hfirst.buffer ▸ hclosed) (hfirst.defaultBatch ▸ hbatch)
      exact ⟨hfirst.trans hrest, htrace'.trans htrace⟩

/-- The end of a desk.  Its buffer has been shut, and after every further session nothing has changed
about it, the sink has not been used, and every call is refused. -/
structure Ended (d : Desk σ) : Prop where
  shut : d.station.Shut
  erased : ∀ requests, (d.serveTraced requests).map Traced.inner = d.serveAll requests
  rests : ∀ requests, Station.Rests d.station (d.serveAll requests).station
  unused : ∀ requests, d.trace requests = []
  refuses : ∀ requests, (d.serveAll requests).Refuses

theorem ended_of_regular {d : Desk σ} (hd : d.station.Regular)
    (hclosed : d.station.buffer.isOpen = false) : d.Ended := by
  have hall (requests : List (Request σ)) :
      Station.Rests d.station (d.serveAll requests).station ∧ d.trace requests = [] := by
    obtain ⟨hrests, htrace⟩ := serveAll_closed (d := d.withTrace) hclosed hd.batch requests
    rw [← d.serveTraced_inner requests]
    exact ⟨⟨hrests.buffer, hrests.ledger, hrests.durations, hrests.lostIds, hrests.defaultBatch⟩,
      htrace⟩
  refine ⟨hd.shut hclosed, d.serveTraced_inner, fun requests => (hall requests).1,
    fun requests => (hall requests).2, fun requests => ?_⟩
  have hrests := (hall requests).1
  exact refuses_of_closed (hrests.buffer ▸ hclosed) (hrests.defaultBatch ▸ hd.batch)

/-- Every request leaves a closed buffer shut. -/
theorem serve_regular {d : Desk σ} (hd : d.station.Regular) (r : Request σ) :
    (d.serve r).station.Regular := by
  -- what moves the queue does so while the buffer is open, and only `close` closes it
  cases r with
  | operation op =>
      cases op with
      | take hand =>
          change (d.take hand).2.station.Regular
          rw [take]
          rcases htaken : d.station.dequeue with ⟨why | _ | e, s⟩
          · obtain ⟨-, -, rfl⟩ := Station.dequeue_refused htaken
            exact hd
          · obtain ⟨-, -, rfl⟩ := Station.dequeue_nothing htaken
            exact hd
          · exact Station.dequeue_regular htaken hd
      | giveBack hand =>
          change (d.giveBack hand).2.station.Regular
          rw [giveBack]
          cases d.hands.get? hand with
          | none => exact hd
          | some e =>
              dsimp only
              obtain ⟨answer, s, hs, hexit⟩ := d.station.requeueFront_exits e
              rw [hs]
              cases hexit with
              | accepted hopen _ _ =>
                  exact hd.of_isOpen rfl rfl fun hclosed =>
                    absurd (hopen.symm.trans hclosed) (by decide)
              | closed _ => exact hd
              | full _ _ => exact hd
              | short _ _ _ =>
                  exact ⟨fun hclosed => (hd.shut hclosed).of_same rfl rfl, hd.batch⟩
      | discard hand => exact hd
      | station op =>
          cases op with
          | enqueue f => exact (Station.Errand.enqueue f).regular hd
          | process maxItems =>
              exact (Station.process_moves maxItems (Station.intrude_onlyErrands _)).regular hd
          | close => exact Station.Errand.close.regular hd
          | moveClock move => exact (Station.Errand.moveClock move).regular hd
          | changeSink change =>
              exact ⟨fun hclosed => (hd.shut hclosed).of_same rfl rfl, hd.batch⟩
  | markProcessed latency =>
      refine hd.of_isOpen ?_ ?_ fun hclosed => Station.markProcessed_of_closed hclosed latency
      · change (d.station.markProcessed latency).buffer.isOpen = d.station.buffer.isOpen
        rw [Station.markProcessed_buffer, Buffer.markProcessed_isOpen]
      · exact (d.station.delivered_aside ⟨⟨0, "", "", "", 0⟩, 0, latency⟩).defaultBatch
  | markError =>
      exact hd.of_isOpen d.station.markError_isOpen rfl Station.markError_of_closed

theorem serveAll_regular {d : Desk σ} (hd : d.station.Regular) (requests : List (Request σ)) :
    (d.serveAll requests).station.Regular := by
  induction requests generalizing d with
  | nil => exact hd
  | cons r requests ih => exact ih (serve_regular hd r)

end Desk

/-! ## An engine -/

namespace Engine

variable [Sink σ]

/-- Every call is refused because the engine is closed; only the fields of an entry are checked
before.  Nothing changes, and there is nothing left to shut down. -/
structure Refuses (e : Engine σ) : Prop where
  addLog : ∀ f, f.withDefaults.fault? = none → e.addLog f = (.failed .notInitialized, e)
  invalid : ∀ f fault, f.withDefaults.fault? = some fault → e.addLog f =
    (.failed (.validation fault.reason),
      { e with station := e.station.countError .validationError })
  process : ∀ maxItems, e.process maxItems = (.failed .notInitialized, e)
  pending : e.pending = .error .notInitialized
  report : e.report = .error .notInitialized
  health : e.health = (.failed .notInitialized, e)
  shutdown : e.shutdown = (.answered ⟨0, 0⟩, e)

section

variable {e : Engine σ} (hclosed : e.isOpen = false)

include hclosed

theorem health_of_closed : e.health = (.failed .notInitialized, e) := by
  have hdepth : e.station.buffer.depth = .error .notInitialized :=
    Buffer.read_of_closed hclosed Buffer.size
  rw [health, onStation, hdepth]

theorem shutdown_of_closed (hidle : e.station.busy = false) :
    e.shutdown = (.answered ⟨0, 0⟩, e) := by
  rcases e.shutdown_exits with ⟨hbusy, -⟩ | ⟨-, -, hs⟩ | ⟨-, hopen, -⟩
  · exact absurd (hidle.symm.trans hbusy) (by decide)
  · exact hs
  · exact absurd (hclosed.symm.trans hopen) (by decide)

theorem process_of_closed (hidle : e.station.busy = false) (hbatch : 0 < e.station.defaultBatch)
    (maxItems : Nat) : e.process maxItems = (.failed .notInitialized, e) := by
  have hfailed := Station.process_of_closed (s := { e.station with busy := true }) hclosed
    (intrude e.config) hbatch maxItems
  have halone : e.station.processAlone (intrude e.config) maxItems =
      (.failed .notInitialized, { e.station with busy := false }) := by
    simp [Station.processAlone, hidle, hfailed]
  rw [process, onStation, halone, ← hidle]

theorem refuses_of_closed (hidle : e.station.busy = false)
    (hbatch : 0 < e.station.defaultBatch) : e.Refuses where
  addLog f hfields := by
    rw [addLog, onStation, Station.addLog_of_closed _ _ hclosed hfields]
  invalid f fault hfault := by
    rw [addLog, onStation, Station.addLog_of_fault _ _ _ hfault]
  process := process_of_closed hclosed hidle hbatch
  pending := by
    rw [pending, Buffer.preview, Buffer.read_of_closed hclosed]
  report := by
    have hsnapshot : e.station.buffer.snapshot = .error .notInitialized :=
      Buffer.read_of_closed hclosed Buffer.metrics
    rw [report, hsnapshot]
    rfl
  health := health_of_closed hclosed
  shutdown := shutdown_of_closed hclosed hidle

end

/-- No operation changes anything about a closed engine, or calls the sink. -/
theorem perform_closed {e : Engine (Traced σ)} (hclosed : e.isOpen = false)
    (hidle : e.station.busy = false) (hbatch : 0 < e.station.defaultBatch) (op : Operation σ) :
    Station.Rests e.station (e.perform (op.lift Traced.onInner)).station ∧
      (e.perform (op.lift Traced.onInner)).station.sink.trace = e.station.sink.trace ∧
      (e.perform (op.lift Traced.onInner)).station.busy = false := by
  have hrefuses := refuses_of_closed hclosed hidle hbatch
  have hsame {e' : Engine (Traced σ)} (h : e' = e) : Station.Rests e.station e'.station ∧
      e'.station.sink.trace = e.station.sink.trace ∧ e'.station.busy = false := by
    rw [h]
    exact ⟨.refl _, rfl, hidle⟩
  cases op with
  | addLog f =>
      cases hfault : f.withDefaults.fault? with
      | none => exact hsame (congrArg Prod.snd (hrefuses.addLog f hfault))
      | some fault =>
          have hinvalid : e.perform (.addLog f) = _ :=
            congrArg Prod.snd (hrefuses.invalid f fault hfault)
          change Station.Rests e.station (e.perform (.addLog f)).station ∧
            (e.perform (.addLog f)).station.sink.trace = e.station.sink.trace ∧
            (e.perform (.addLog f)).station.busy = false
          rw [hinvalid]
          exact ⟨⟨rfl, rfl, rfl, rfl, rfl⟩, rfl, hidle⟩
  | process maxItems => exact hsame (congrArg Prod.snd (hrefuses.process maxItems))
  | health => exact hsame (congrArg Prod.snd hrefuses.health)
  | shutdown => exact hsame (congrArg Prod.snd hrefuses.shutdown)
  | moveClock move => exact ⟨⟨rfl, rfl, rfl, rfl, rfl⟩, rfl, hidle⟩
  | changeSink change => exact ⟨⟨rfl, rfl, rfl, rfl, rfl⟩, rfl, hidle⟩

theorem run_closed {e : Engine (Traced σ)} (hclosed : e.isOpen = false)
    (hidle : e.station.busy = false) (hbatch : 0 < e.station.defaultBatch)
    (ops : List (Operation σ)) :
    Station.Rests e.station (e.run (ops.map (Operation.lift Traced.onInner))).station ∧
      (e.run (ops.map (Operation.lift Traced.onInner))).station.sink.trace =
        e.station.sink.trace ∧
      (e.run (ops.map (Operation.lift Traced.onInner))).station.busy = false := by
  induction ops generalizing e with
  | nil => exact ⟨.refl _, rfl, hidle⟩
  | cons op ops ih =>
      obtain ⟨hfirst, htrace, hidle'⟩ := perform_closed hclosed hidle hbatch op
      have hclosed' : (e.perform (op.lift Traced.onInner)).isOpen = false :=
        (congrArg Buffer.isOpen hfirst.buffer).trans hclosed
      obtain ⟨hrest, htrace', hend⟩ := ih hclosed' hidle' (hfirst.defaultBatch ▸ hbatch)
      exact ⟨hfirst.trans hrest, htrace'.trans htrace, hend⟩

/-- The end of an engine.  Its buffer has been shut, and after every further session nothing has
changed about it, the sink has not been used, and every call is refused. -/
structure Ended (e : Engine σ) : Prop where
  shut : e.station.Shut
  erased : ∀ ops, (e.runTraced ops).map Traced.inner = e.run ops
  rests : ∀ ops, Station.Rests e.station (e.run ops).station
  unused : ∀ ops, e.trace ops = []
  refuses : ∀ ops, (e.run ops).Refuses

theorem ended_of_regular {e : Engine σ} (he : e.station.Regular) (hidle : e.station.busy = false)
    (hclosed : e.isOpen = false) : e.Ended := by
  have hall (ops : List (Operation σ)) : Station.Rests e.station (e.run ops).station ∧
      e.trace ops = [] ∧ (e.run ops).station.busy = false := by
    obtain ⟨hrests, htrace, hbusy⟩ := run_closed (e := e.withTrace) hclosed hidle he.batch ops
    rw [← e.runTraced_inner ops]
    exact ⟨⟨hrests.buffer, hrests.ledger, hrests.durations, hrests.lostIds, hrests.defaultBatch⟩,
      htrace, hbusy⟩
  refine ⟨he.shut hclosed, e.runTraced_inner, fun ops => (hall ops).1, fun ops => (hall ops).2.1,
    fun ops => ?_⟩
  obtain ⟨hrests, -, hbusy⟩ := hall ops
  have hclosed' : (e.run ops).isOpen = false := (congrArg Buffer.isOpen hrests.buffer).trans hclosed
  exact refuses_of_closed hclosed' hbusy (hrests.defaultBatch ▸ he.batch)

end Engine

end LogSpool
