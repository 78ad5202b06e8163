import LogSpool.Proofs.Engine.Outage
import LogSpool.Proofs.Session.Representation

/-!
# Over a healthy sink

This module follows an engine whose sink is healthy from the start: it takes every delivery and
never comes back to the engine that calls it.  Each entry that is handed in can fill the queue up to
the threshold at most, and the batch that is then due takes one entry at least.  So the queue is
below the threshold after every call, and no call ever finds it full.

* `Sink.Healthy` — a sink that is up, and that waits at most while it is pinged.
* `Engine.Below` — the invariant: an engine that is ready, with its queue below the threshold.
* `addLog_healthy`, `process_healthy`, `health_healthy` — the answer of each call, and that the
  invariant is kept.
* `healthy_never_overflows` — every session from the start.
-/

namespace LogSpool

variable {σ : Type} [Sink σ] {P : σ → Prop}

/-- A lasting condition under which a sink is up and leaves the engine alone whenever it is
called. -/
structure Sink.Healthy (P : σ → Prop) : Prop extends Sink.Up P where
  quiet_ping : ∀ {s}, P s → ∀ i ∈ (Sink.receive .ping s).1.intrusions, i.isWait = true
  receive_ping : ∀ {s}, P s → P (Sink.receive .ping s).2
  settle_ping : ∀ {s}, P s → P (Sink.settle .ping s).2

/-- A memory sink is healthy as long as it is up; snapshots it may refuse. -/
theorem MemorySink.healthy :
    Sink.Healthy fun s : MemorySink => s.isDown = false ∧ s.failNextLogs = 0 where
  toUp := MemorySink.up
  quiet_ping _ _ hi := nomatch hi
  receive_ping h := h
  settle_ping h := h

namespace Engine

omit [Sink σ] in
/-- A raw configuration with room for an entry makes an engine. -/
theorem withSink_of_capacity {config : EngineConfig} (hcapacity : 0 < config.bufferCapacity)
    (sink : σ) (clock : Clock) : ∃ e, withSink config sink clock = .ok e := by
  have hpos : config.bufferCapacity ≠ 0 := by omega
  simp [withSink, EngineConfig.normalize, Buffer.create, hpos, bind, Except.bind, pure,
    Except.pure]

/-- An engine that is ready, with its queue below the threshold at which a batch starts, and with a
normalized configuration. -/
structure Below (P : σ → Prop) (e : Engine σ) : Prop where
  ready : Station.Ready P e.config.bufferCapacity e.station
  below : e.station.buffer.size < e.config.autoProcessThreshold
  threshold : e.config.autoProcessThreshold ≤ e.config.bufferCapacity
  batch : 0 < e.config.processBatchSize

variable {e : Engine σ}

/-! ## Calls -/

/-- An entry with admissible fields is accepted. -/
theorem addLog_healthy (hup : Sink.Up P) (he : e.Below P) {f : Fields}
    (hf : f.withDefaults.fault? = none) :
    (e.addLog f).1 = .answered e.station.buffer.nextId ∧ (e.addLog f).2.Below P := by
  obtain ⟨s, hs, hready, hbelow, -⟩ :=
    Station.addLog_within hup hf (Nat.le_refl _) he.threshold he.batch he.ready he.below
  have hcall : e.addLog f = (.answered e.station.buffer.nextId, { e with station := s }) := by
    rw [addLog, onStation, hs]
  rw [hcall]
  exact ⟨rfl, { ready := hready, below := hbelow, threshold := he.threshold, batch := he.batch }⟩

/-- An entry whose fields break a rule is refused, and the queue stays as it is. -/
theorem addLog_invalid (he : e.Below P) {f : Fields} {fault : FieldFault}
    (hf : f.withDefaults.fault? = some fault) :
    (e.addLog f).1 = .failed (.validation fault.reason) ∧ (e.addLog f).2.Below P := by
  obtain ⟨answer, s, henqueue, hb, -, hbeside⟩ := e.station.enqueue_cases f.withDefaults
  rw [Buffer.enqueue_of_fault hf] at hb
  obtain ⟨rfl, hsame⟩ := Prod.mk.inj hb
  have hcall : e.addLog f = (.failed (.validation fault.reason), { e with station := s }) := by
    rw [addLog, onStation, Station.addLog, henqueue]
  have hready : Station.Ready P e.config.bufferCapacity s :=
    { isOpen := hsame ▸ he.ready.isOpen
      idle := hbeside.busy.trans he.ready.idle
      capacity := hsame ▸ he.ready.capacity
      ample := hbeside.ample he.ready.ample
      sink := hbeside.sink ▸ he.ready.sink }
  rw [hcall]
  exact ⟨rfl,
    { ready := hready
      below := hsame ▸ he.below
      threshold := he.threshold
      batch := he.batch }⟩

/-- A batch is answered. -/
theorem process_healthy (hup : Sink.Up P) (he : e.Below P) (maxItems : Nat) :
    (∃ report, (e.process maxItems).1 = .answered report) ∧ (e.process maxItems).2.Below P := by
  obtain ⟨report, s, hs, hready, hleft, -⟩ :=
    Station.processAlone_up e.config hup maxItems he.ready
  have hcall : e.process maxItems = (.answered report, { e with station := s }) := by
    rw [process, onStation]
    exact congrArg (fun r => (r.1, { e with station := r.2 })) hs
  have hbelow := he.below
  have hsize : s.buffer.size < e.config.autoProcessThreshold := by omega
  rw [hcall]
  exact ⟨⟨report, rfl⟩,
    { ready := hready, below := hsize, threshold := he.threshold, batch := he.batch }⟩

/-- A health check is no failure, whatever the ping is answered. -/
theorem health_healthy (hhealthy : Sink.Healthy P) (he : e.Below P) :
    (∀ why, e.health.1 ≠ .failed why) ∧ e.health.2.Below P := by
  have hdepth : e.station.buffer.depth = .ok e.station.buffer.size :=
    Buffer.read_of_open he.ready.isOpen Buffer.size
  obtain ⟨t, hbuffer, hbusy, hstorage, hsink, hcall⟩ :=
    Station.callSink_quiet e.config .ping (hhealthy.quiet_ping he.ready.sink)
  have htsink : P t.sink := by
    rw [hsink]
    exact hhealthy.receive_ping he.ready.sink
  have hready : Station.Ready P e.config.bufferCapacity
      { t with sink := (Sink.settle .ping t.sink).2 } :=
    { isOpen := hbuffer ▸ he.ready.isOpen
      idle := hbusy.trans he.ready.idle
      capacity := hbuffer ▸ he.ready.capacity
      ample := hstorage.trans he.ready.ample
      sink := hhealthy.settle_ping htsink }
  have hbelow : t.buffer.size < e.config.autoProcessThreshold := hbuffer ▸ he.below
  unfold health onStation
  dsimp only
  rw [hdepth]
  dsimp only
  rw [hcall]
  cases (Sink.settle .ping t.sink).1 with
  | accepted => exact ⟨by simp, ⟨hready, hbelow, he.threshold, he.batch⟩⟩
  | stalled => exact ⟨by simp, ⟨hready, hbelow, he.threshold, he.batch⟩⟩
  | refused why =>
      refine ⟨by simp, ⟨?_, hbelow, he.threshold, he.batch⟩⟩
      exact ⟨hready.isOpen, hready.idle, hready.capacity, hready.ample, hready.sink⟩

/-! ## Sessions -/

/-- Any call but a shutdown, and any change around the engine that leaves the sink healthy. -/
def Operation.IsRoutine (P : σ → Prop) : Operation σ → Prop
  | .shutdown => False
  | .changeSink change => ∀ s, P s → P (change s)
  | _ => True

/-- Every routine operation leaves the queue below the threshold. -/
theorem Below.perform (hhealthy : Sink.Healthy P) (he : e.Below P) {op : Operation σ}
    (hop : op.IsRoutine P) : (e.perform op).Below P := by
  cases op with
  | addLog f =>
      cases hf : f.withDefaults.fault? with
      | none => exact (addLog_healthy hhealthy.toUp he hf).2
      | some fault => exact (addLog_invalid he hf).2
  | process maxItems => exact (process_healthy hhealthy.toUp he maxItems).2
  | health => exact (health_healthy hhealthy he).2
  | shutdown => exact absurd hop id
  | moveClock move =>
      exact ⟨⟨he.ready.isOpen, he.ready.idle, he.ready.capacity, he.ready.ample, he.ready.sink⟩,
        he.below, he.threshold, he.batch⟩
  | changeSink change =>
      exact ⟨⟨he.ready.isOpen, he.ready.idle, he.ready.capacity, he.ready.ample,
        hop _ he.ready.sink⟩, he.below, he.threshold, he.batch⟩

theorem Below.run (hhealthy : Sink.Healthy P) (he : e.Below P) {ops : List (Operation σ)}
    (hops : ∀ op ∈ ops, op.IsRoutine P) : (e.run ops).Below P := by
  induction ops generalizing e with
  | nil => exact he
  | cons op ops ih =>
      have hfirst := he.perform hhealthy (hops op List.mem_cons_self)
      exact ih hfirst fun op' hop' => hops op' (List.mem_cons_of_mem op hop')

omit [Sink σ] in
/-- A new engine over a healthy sink is below the threshold, since its queue is empty. -/
theorem below_withSink {config : EngineConfig} {sink : σ} {clock : Clock}
    (he : withSink config sink clock = .ok e) (hsink : P sink) : e.Below P := by
  obtain ⟨hconfig, b, hb, hstation⟩ := withSink_eq he
  obtain ⟨hthreshold, hbatch⟩ := EngineConfig.normalize_spec hconfig
  have hpos := EngineConfig.normalize_threshold_pos hconfig
  obtain rfl := Buffer.create_ok hb
  refine { ready := ?_, below := ?_, threshold := hthreshold, batch := hbatch }
  · rw [hstation]
    exact ⟨rfl, rfl, rfl, rfl, hsink⟩
  · rw [hstation]
    exact hpos

/-- With a healthy sink, and storage enough, the buffer never overflows.  Every raw configuration
with room for an entry makes an engine, and after every session of routine calls its queue is below
the normalized threshold.  Every entry with admissible fields is then accepted under the next
number, one with other fields is refused as invalid, and no other call fails. -/
theorem healthy_never_overflows (hhealthy : Sink.Healthy P) {config : EngineConfig}
    (hcapacity : 0 < config.bufferCapacity) {sink : σ} (hsink : P sink) (clock : Clock) :
    ∃ e, withSink config sink clock = .ok e ∧ config.normalize = .ok e.config ∧
      ∀ ops : List (Operation σ), (∀ op ∈ ops, op.IsRoutine P) →
        let after := e.run ops
        let buffer := after.station.buffer
        (buffer.size < e.config.autoProcessThreshold ∧
          buffer.metrics.queueDepth = buffer.size) ∧
        (∀ f : Fields, f.Admissible →
          (after.addLog f).1 = .answered (buffer.metrics.totalIngested + 1)) ∧
        (∀ f : Fields, ¬ f.Admissible →
          ∃ reason, (after.addLog f).1 = .failed (.validation reason)) ∧
        (∀ maxItems, ∃ report, (after.process maxItems).1 = .answered report) ∧
        (∃ preview, after.pending = .ok preview) ∧ (∃ report, after.report = .ok report) ∧
        ∀ why, after.health.1 ≠ .failed why := by
  obtain ⟨e, he⟩ := withSink_of_capacity hcapacity sink clock
  refine ⟨e, he, (withSink_eq he).1, ?_⟩
  intro ops hops after buffer
  have hbelow : after.Below P := (below_withSink he hsink).run hhealthy hops
  have hconfig : after.config = e.config := e.run_config ops
  have hwellFormed : buffer.WellFormed := run_wellFormed he ops
  have hvalid (f : Fields) : f.withDefaults.fault? = none ↔ f.Admissible :=
    f.withDefaults.fault?_eq_none_iff.trans f.withDefaults_admissible_iff
  have hopen : after.station.buffer.isOpen = true := hbelow.ready.isOpen
  refine ⟨⟨hconfig ▸ hbelow.below, hwellFormed.depth⟩, ?_, ?_, ?_, ?_, ?_, ?_⟩
  · intro f hf
    rw [← hwellFormed.nextId]
    exact (addLog_healthy hhealthy.toUp hbelow ((hvalid f).2 hf)).1
  · intro f hf
    cases hfault : f.withDefaults.fault? with
    | none => exact absurd ((hvalid f).1 hfault) hf
    | some fault => exact ⟨_, (addLog_invalid hbelow hfault).1⟩
  · intro maxItems
    exact (process_healthy hhealthy.toUp hbelow maxItems).1
  · rw [pending, Buffer.preview, Buffer.read_of_open hopen]
    exact ⟨_, rfl⟩
  · rw [Engine.report, Buffer.snapshot, Buffer.read_of_open hopen]
    exact ⟨_, rfl⟩
  · exact (health_healthy hhealthy hbelow).1

/-- The threshold is above the capacity, and snapshots are refused: after three entries and a batch
of one the queue is below the capacity, and the next entry gets the next number. -/
theorem healthy_never_overflows_of_refused_snapshots :
    let fields : Fields := ⟨"", "", "a"⟩
    let sink := { MemorySink.withRetention 1 with failMetrics := true }
    ∃ e, withSink ⟨2, 7, 0, 0⟩ sink ⟨0, 0⟩ = .ok e ∧ e.config.autoProcessThreshold = 2 ∧
      (e.run [.addLog fields, .addLog fields, .addLog fields, .process 1]).station.buffer.size <
        2 ∧
      ((e.run [.addLog fields, .addLog fields, .addLog fields, .process 1]).addLog fields).1 =
        .answered 4 := by
  dsimp only
  obtain ⟨e, he, hconfig, hall⟩ := healthy_never_overflows MemorySink.healthy
    (show 0 < (⟨2, 7, 0, 0⟩ : EngineConfig).bufferCapacity by decide)
    (show ({ MemorySink.withRetention 1 with failMetrics := true } : MemorySink).isDown = false ∧
      ({ MemorySink.withRetention 1 with failMetrics := true } : MemorySink).failNextLogs = 0
      from ⟨rfl, rfl⟩) ⟨0, 0⟩
  obtain ⟨⟨hbelow, -⟩, haccepted, -⟩ := hall
    [.addLog ⟨"", "", "a"⟩, .addLog ⟨"", "", "a"⟩, .addLog ⟨"", "", "a"⟩, .process 1]
    (by simp [Operation.IsRoutine])
  have hthreshold : e.config.autoProcessThreshold = 2 := by
    rw [← Except.ok.inj hconfig]
    rfl
  have hanswer := haccepted ⟨"", "", "a"⟩
    ((Fields.withDefaults_admissible_iff _).1 ((Fields.fault?_eq_none_iff _).1 rfl))
  refine ⟨e, he, hthreshold, hthreshold ▸ hbelow, hanswer.trans ?_⟩
  obtain rfl := Except.ok.inj he
  rfl

end Engine

end LogSpool
