import LogSpool.Proofs.Session.Custody
import LogSpool.Sink.Memory

/-!
# After an outage

This module follows an engine whose sink has come up again, with nobody but producers to call it.
While there is room in the queue every entry that is handed in is accepted, and a batch makes room
before the queue is full.  A full queue, though, refuses an entry before any batch is started, so
that producers alone never get it going again.

* `Sink.Up` — what it means for a sink to be up.
* `callSink_log_up`, `Delivers.up`, `process_up` — over such a sink an entry that is taken out is
  delivered, and a batch delivers all it may.
* `addLog_within`, `addLog_full` — an entry that is handed in when there is room, and when there is
  none.
* `addLog_pair_iff` — two entries one after the other, in every state that a session can lead to.
-/

namespace LogSpool

variable {σ : Type} [Sink σ] {P : σ → Prop}

/-- Whether a call returned an answer. -/
def Outcome.isAnswered {α : Type} : Outcome α → Bool
  | .answered _ => true
  | _ => false

/-- Whether an intrusion only lets time pass. -/
def Intrusion.isWait : Intrusion → Bool
  | .wait _ => true
  | .setWall _ => true
  | _ => false

/-- A lasting condition under which a sink is up: it takes every delivery and answers every
snapshot, and it does not come back to the spool while it is called. -/
structure Sink.Up (P : σ → Prop) : Prop where
  quiet : ∀ {s} (call : Call), call ≠ .ping → P s →
    ∀ i ∈ (Sink.receive call s).1.intrusions, i.isWait = true
  receive : ∀ {s} (call : Call), call ≠ .ping → P s → P (Sink.receive call s).2
  takes : ∀ {s} (d : Delivery), P s →
    (Sink.settle (.log d) s).1 = .accepted ∧ P (Sink.settle (.log d) s).2
  answers : ∀ {s} (m : Metrics), P s →
    (Sink.settle (.snapshot m) s).1 ≠ .stalled ∧ P (Sink.settle (.snapshot m) s).2

/-- A memory sink is up when it is not switched down and has no delivery left to refuse. -/
theorem MemorySink.up :
    Sink.Up fun s : MemorySink => s.isDown = false ∧ s.failNextLogs = 0 where
  quiet _ _ _ i hi := nomatch hi
  receive _ _ h := h
  takes := by
    intro s d ⟨hdown, hfail⟩
    have hinsert : Sink.settle (.log d) s =
        (.accepted, { s with logs := retain s.logs s.retention d }) := by
      change s.insertLog d = _
      simp [insertLog, hdown, hfail]
    rw [hinsert]
    exact ⟨rfl, hdown, hfail⟩
  answers := by
    intro s m ⟨hdown, hfail⟩
    change (s.insertMetrics m).1 ≠ .stalled ∧ (s.insertMetrics m).2.isDown = false ∧
      (s.insertMetrics m).2.failNextLogs = 0
    cases hmetrics : s.failMetrics <;> simp [insertMetrics, hdown, hfail, hmetrics]

namespace Station

/-- `n` entries have left the queue, and the sink is still up.  Nobody has asked for storage. -/
structure Shrunk (P : σ → Prop) (s s' : Station σ) (n : Nat) : Prop where
  isOpen : s'.buffer.isOpen = s.buffer.isOpen
  capacity : s'.buffer.capacity = s.buffer.capacity
  nextId : s'.buffer.nextId = s.buffer.nextId
  size : s'.buffer.size + n = s.buffer.size
  busy : s'.busy = s.busy
  storage : s'.storage = s.storage
  sink : P s'.sink

omit [Sink σ] in
theorem Shrunk.trans {s s' s'' : Station σ} {n m : Nat} (h : Shrunk P s s' n)
    (h' : Shrunk P s' s'' m) : Shrunk P s s'' (n + m) where
  isOpen := h'.isOpen.trans h.isOpen
  capacity := h'.capacity.trans h.capacity
  nextId := h'.nextId.trans h.nextId
  size := by
    have hfirst := h.size
    have hsecond := h'.size
    omega
  busy := h'.busy.trans h.busy
  storage := h'.storage.trans h.storage
  sink := h'.sink

variable {s : Station σ}

/-- A way to intrude in which waiting changes nothing but the clocks. -/
def Lapses (intrude : Station σ → Intrusion → Station σ) : Prop :=
  ∀ s i, i.isWait = true → ∃ move, intrude s i = s.moveClock move

omit [Sink σ] in
theorem intrude_lapses : Lapses (intrude : Station σ → Intrusion → Station σ) := by
  intro s i hi
  cases i with
  | wait micros => exact ⟨(·.advance micros), rfl⟩
  | setWall ms => exact ⟨(·.setWall ms), rfl⟩
  | _ => simp [Intrusion.isWait] at hi

theorem engineIntrude_lapses (config : EngineConfig) :
    Lapses (Engine.intrude config : Station σ → Intrusion → Station σ) := by
  intro s i hi
  cases i with
  | wait micros => exact ⟨(·.advance micros), rfl⟩
  | setWall ms => exact ⟨(·.setWall ms), rfl⟩
  | _ => simp [Intrusion.isWait] at hi

/-- A call to a sink that only waits moves the clocks, and the sink goes on to its answer. -/
theorem callSink_lapse {intrude : Station σ → Intrusion → Station σ} (h : Lapses intrude)
    (call : Call) (hwaits : ∀ i ∈ (Sink.receive call s.sink).1.intrusions, i.isWait = true) :
    ∃ clock, s.callSink intrude call =
      ((Sink.settle call (Sink.receive call s.sink).2).1,
        { s with sink := (Sink.settle call (Sink.receive call s.sink).2).2, clock }) := by
  have hall (is : List Intrusion) (his : ∀ i ∈ is, i.isWait = true) (t : Station σ) :
      ∃ clock, is.foldl intrude t = { t with clock } := by
    induction is generalizing t with
    | nil => exact ⟨t.clock, rfl⟩
    | cons i is ih =>
        obtain ⟨move, hmove⟩ := h t i (his i List.mem_cons_self)
        obtain ⟨clock, hclock⟩ :=
          ih (fun j hj => his j (List.mem_cons_of_mem i hj)) (t.moveClock move)
        exact ⟨clock, by rw [List.foldl_cons, hmove, hclock]; rfl⟩
  let started : Station σ := { s with sink := (Sink.receive call s.sink).2 }
  obtain ⟨clock, hclock⟩ := hall (Sink.receive call s.sink).1.intrusions hwaits
    (started.passTime (Sink.receive call s.sink).1)
  exact ⟨clock, by simp only [callSink]; rw [hclock]; rfl⟩

variable (config : EngineConfig)

/-- While a sink that only waits is called, time passes and nothing else. -/
theorem callSink_quiet (call : Call)
    (hquiet : ∀ i ∈ (Sink.receive call s.sink).1.intrusions, i.isWait = true) :
    ∃ t : Station σ, t.buffer = s.buffer ∧ t.busy = s.busy ∧ t.storage = s.storage ∧
      t.sink = (Sink.receive call s.sink).2 ∧
      s.callSink (Engine.intrude config) call =
        ((Sink.settle call t.sink).1, { t with sink := (Sink.settle call t.sink).2 }) := by
  obtain ⟨clock, hend⟩ := callSink_lapse (engineIntrude_lapses config) call hquiet
  exact ⟨{ s with sink := (Sink.receive call s.sink).2, clock }, rfl, rfl, rfl, rfl, hend⟩

/-- Time passes while a sink that is up is called, and nothing else. -/
theorem callSink_up (hup : Sink.Up P) (call : Call) (hcall : call ≠ .ping) (hs : P s.sink) :
    ∃ t : Station σ, t.buffer = s.buffer ∧ t.busy = s.busy ∧ t.storage = s.storage ∧ P t.sink ∧
      s.callSink (Engine.intrude config) call =
        ((Sink.settle call t.sink).1, { t with sink := (Sink.settle call t.sink).2 }) := by
  obtain ⟨t, hbuffer, hbusy, hstorage, hsink, hend⟩ :=
    callSink_quiet config call (hup.quiet call hcall hs)
  refine ⟨t, hbuffer, hbusy, hstorage, ?_, hend⟩
  rw [hsink]
  exact hup.receive call hcall hs

/-- The entry that was taken out is delivered. -/
theorem callSink_log_up (hup : Sink.Up P) {s₁ : Station σ} {e : Entry} (hs : P s.sink)
    (htaken : s.dequeue = (.ok (some e), s₁)) :
    ∃ t, s₁.callSink (Engine.intrude config) (.log (s₁.deliveryOf e)) = (.accepted, t) ∧
      Shrunk P s (t.delivered (s₁.deliveryOf e)) 1 := by
  obtain ⟨-, ⟨rest, hqueue, hb⟩, hbeside, -, hstorage⟩ := dequeue_taken htaken
  have hs₁ : P s₁.sink := by
    rw [hbeside.sink]
    exact hs
  obtain ⟨t, htbuffer, htbusy, htstorage, htsink, hcall⟩ :=
    callSink_up config hup (.log (s₁.deliveryOf e)) (by simp) hs₁
  obtain ⟨haccepted, hafter⟩ := hup.takes (s₁.deliveryOf e) htsink
  rw [haccepted] at hcall
  refine ⟨_, hcall, ?_⟩
  let ended : Station σ := { t with sink := (Sink.settle (.log (s₁.deliveryOf e)) t.sink).2 }
  have hdelivered := ended.delivered_beside (s₁.deliveryOf e)
  have hbuffer : (ended.delivered (s₁.deliveryOf e)).buffer =
      (s.buffer.withQueue rest).markProcessed (s₁.deliveryOf e).latency t.now := by
    rw [← hb, ← htbuffer]
    exact delivered_buffer _ _
  have hsize : s.buffer.size = rest.length + 1 := by simp [Buffer.size, hqueue]
  exact
    { isOpen := by simp [ended, hbuffer]
      capacity := by simp [ended, hbuffer]
      nextId := by simp [ended, hbuffer]
      size := by simp [ended, hbuffer, hsize]
      busy := hdelivered.busy.trans (htbusy.trans hbeside.busy)
      storage := (delivered_storage _ _).trans (htstorage.trans hstorage)
      sink := hdelivered.sink ▸ hafter }

/-- Over a sink that is up a loop of deliveries goes on until its limit or the end of the queue. -/
theorem Delivers.up (hup : Sink.Up P) {started remaining processed : Nat} {s' : Station σ}
    {outcome : Outcome Nat}
    (hloop : Delivers (Engine.intrude config) started remaining processed s outcome s')
    (hs : P s.sink) (hopen : s.buffer.isOpen = true) :
    outcome = .answered (processed + min remaining s.buffer.size) ∧
      Shrunk P s s' (min remaining s.buffer.size) := by
  induction hloop with
  | limit => exact ⟨by simp, ⟨rfl, rfl, rfl, by simp, rfl, rfl, hs⟩⟩
  | closed hclosed =>
      rw [hopen] at hclosed
      cases hclosed
  | @empty _ _ s _ hempty =>
      have hsize : s.buffer.size = 0 := by simp [Buffer.size, hempty]
      exact ⟨by simp [hsize], ⟨rfl, rfl, rfl, by simp [hsize], rfl, rfl, hs⟩⟩
  | @accepted remaining _ s s₁ _ _ e _ htaken hcall _ ih =>
      obtain ⟨t, hend, hone⟩ := callSink_log_up config hup hs htaken
      obtain ⟨-, rfl⟩ := Prod.mk.inj (hend.symm.trans hcall)
      obtain ⟨houtcome, hrest⟩ := ih hone.sink (hone.isOpen.trans hopen)
      have hleft := hone.size
      have hmin : 1 + min remaining (t.delivered (s₁.deliveryOf e)).buffer.size =
          min (remaining + 1) s.buffer.size := by
        omega
      refine ⟨?_, hmin ▸ hone.trans hrest⟩
      rw [houtcome, ← hmin, Nat.add_assoc]
  | refused htaken hcall _ =>
      obtain ⟨t, hend, -⟩ := callSink_log_up config hup hs htaken
      simp [hcall] at hend
  | stalled htaken hcall =>
      obtain ⟨t, hend, -⟩ := callSink_log_up config hup hs htaken
      simp [hcall] at hend

/-- A snapshot is answered, and nothing moves. -/
theorem persistSnapshot_up (hup : Sink.Up P) (hs : P s.sink) :
    (s.persistSnapshot (Engine.intrude config)).1 ≠ .abandoned ∧
      Shrunk P s (s.persistSnapshot (Engine.intrude config)).2 0 := by
  rw [persistSnapshot]
  cases s.buffer.snapshot with
  | error why => exact ⟨by simp, ⟨rfl, rfl, rfl, rfl, rfl, rfl, hs⟩⟩
  | ok metrics =>
      obtain ⟨t, htbuffer, htbusy, htstorage, htsink, hcall⟩ :=
        callSink_up config hup (.snapshot metrics) (by simp) hs
      obtain ⟨hanswers, hafter⟩ := hup.answers metrics htsink
      dsimp only
      rw [hcall]
      cases hanswer : (Sink.settle (.snapshot metrics) t.sink).1 with
      | accepted =>
          refine ⟨by simp, ⟨?_, ?_, ?_, ?_, htbusy, htstorage, hafter⟩⟩ <;> simp [htbuffer]
      | refused why =>
          have herror :
              t.buffer.markError = s.buffer ∨ t.buffer.markError = s.buffer.countError := by
            rw [htbuffer]
            exact Buffer.markError_eq s.buffer
          refine ⟨by simp, ⟨?_, ?_, ?_, ?_, htbusy, htstorage, hafter⟩⟩ <;>
            simp only [record, markError] <;> rcases herror with h | h <;> simp [h]
      | stalled => exact absurd hanswer hanswers

/-- Over a sink that is up a batch is answered, and it has taken all it may. -/
theorem process_up (hup : Sink.Up P) (maxItems : Nat) (hs : P s.sink)
    (hopen : s.buffer.isOpen = true) :
    ∃ report s', s.process (Engine.intrude config) maxItems = (.answered report, s') ∧
      Shrunk P s s' (min (s.batchLimit maxItems) s.buffer.size) := by
  have hup' := (deliver_delivers s.clock.elapsed (s.batchLimit maxItems) 0 s).up config hup hs hopen
  rcases hdeliver : s.deliver (Engine.intrude config) s.clock.elapsed (s.batchLimit maxItems) 0
    with ⟨outcome, s₁⟩
  rw [hdeliver] at hup'
  obtain ⟨rfl, hshrunk⟩ := hup'
  have hsnapshot := persistSnapshot_up config hup hshrunk.sink
  rcases process_of_answered hdeliver with ⟨-, h⟩ | ⟨-, habandoned, -⟩ | ⟨-, -, h⟩
  · refine ⟨_, _, h, ?_⟩
    exact ⟨hshrunk.isOpen, hshrunk.capacity, hshrunk.nextId, hshrunk.size, hshrunk.busy,
      hshrunk.storage, hshrunk.sink⟩
  · exact absurd habandoned hsnapshot.1
  · have hall := hshrunk.trans hsnapshot.2
    refine ⟨_, _, h, ?_⟩
    exact ⟨hall.isOpen, hall.capacity, hall.nextId, hall.size, hall.busy, hall.storage, hall.sink⟩

/-- An engine that is open, idle and over a sink that is up, with storage enough. -/
structure Ready (P : σ → Prop) (capacity : Nat) (s : Station σ) : Prop where
  isOpen : s.buffer.isOpen = true
  idle : s.busy = false
  capacity : s.buffer.capacity = capacity
  ample : s.storage = .ample
  sink : P s.sink

/-- A batch of an engine that is ready is answered, and the engine is ready again. -/
theorem processAlone_up (hup : Sink.Up P) {capacity : Nat} (maxItems : Nat)
    (hs : Ready P capacity s) :
    ∃ report s', s.processAlone (Engine.intrude config) maxItems = (.answered report, s') ∧
      Ready P capacity s' ∧
      s'.buffer.size + min (s.batchLimit maxItems) s.buffer.size = s.buffer.size ∧
      s'.buffer.nextId = s.buffer.nextId := by
  obtain ⟨report, s', hprocess, hshrunk⟩ :=
    process_up (s := { s with busy := true }) config hup maxItems hs.sink hs.isOpen
  have hnot : ¬ s.busy = true := by simp [hs.idle]
  refine ⟨report, { s' with busy := false }, ?_, ?_, hshrunk.size, hshrunk.nextId⟩
  · rw [processAlone, if_neg hnot, hprocess]
  · exact
      { isOpen := hshrunk.isOpen.trans hs.isOpen
        idle := rfl
        capacity := hshrunk.capacity.trans hs.capacity
        ample := hshrunk.storage.trans hs.ample
        sink := hshrunk.sink }

variable {config}

/-- While the queue is below a limit that is no smaller than the threshold, an entry is accepted,
and the queue is below the limit afterwards. -/
theorem addLog_within (hup : Sink.Up P) {f : Fields} (hf : f.withDefaults.fault? = none)
    {limit : Nat} (hthreshold : config.autoProcessThreshold ≤ limit)
    (hlimit : limit ≤ config.bufferCapacity) (hbatch : 0 < config.processBatchSize)
    (hs : Ready P config.bufferCapacity s) (hbelow : s.buffer.size < limit) :
    ∃ s', s.addLog config (Engine.intrude config) f = (.answered s.buffer.nextId, s') ∧
      Ready P config.bufferCapacity s' ∧ s'.buffer.size < limit ∧
      s'.buffer.nextId = s.buffer.nextId + 1 := by
  -- the entry itself is accepted
  have hroom : s.buffer.size < s.buffer.capacity := by
    rw [hs.capacity]
    omega
  have hrefusal : s.buffer.refusal? f.withDefaults = none :=
    (s.buffer.refusal?_eq_none_iff _).2 ⟨hf, hs.isOpen, hroom⟩
  obtain ⟨hbeside, ⟨why, hwhy, -⟩ | ⟨-, -, haccept, hexit⟩⟩ :=
    s.addLog_exits config (Engine.intrude config) f
  · rw [hs.ample, Storage.shortage?_ample, hrefusal] at hwhy
    cases hwhy
  let s₁ := (s.enqueue f.withDefaults).2
  have hsize : s₁.buffer.size = s.buffer.size + 1 := by simp [s₁, haccept]
  have hnext : s₁.buffer.nextId = s.buffer.nextId + 1 := by simp [s₁, haccept]
  have hs₁ : Ready P config.bufferCapacity s₁ :=
    { isOpen := by simpa [s₁, haccept] using hs.isOpen
      idle := hbeside.busy.trans hs.idle
      capacity := by simpa [s₁, haccept] using hs.capacity
      ample := hbeside.ample hs.ample
      sink := hbeside.sink ▸ hs.sink }
  -- a batch follows if the threshold is reached, and else the queue is below the limit anyway
  rcases hexit with ⟨hunreached, hcall⟩ | ⟨-, hcall⟩
  · exact ⟨s₁, hcall, hs₁, Nat.lt_of_lt_of_le hunreached hthreshold, hnext⟩
  · let t : Station σ := s₁.record (.thresholdReached s₁.buffer.size)
    obtain ⟨report, s₂, hprocess, hs₂, hleft, hnext₂⟩ :=
      processAlone_up (s := t) config hup config.processBatchSize
        ⟨hs₁.isOpen, hs₁.idle, hs₁.capacity, hs₁.ample, hs₁.sink⟩
    have hmost : t.batchLimit config.processBatchSize = config.processBatchSize := if_pos hbatch
    have hbatched : s₁.dueBatch config (Engine.intrude config) = (.answered report, s₂) := hprocess
    refine ⟨s₂, by rw [hcall, hbatched]; rfl, hs₂, ?_, hnext₂.trans hnext⟩
    -- the batch has taken one entry at least
    rw [hmost] at hleft
    change s₂.buffer.size + min config.processBatchSize s₁.buffer.size = s₁.buffer.size at hleft
    omega

/-- While there is room an entry is accepted, and there is room afterwards. -/
theorem addLog_below (hup : Sink.Up P) {f : Fields} (hf : f.withDefaults.fault? = none)
    (hthreshold : config.autoProcessThreshold ≤ config.bufferCapacity)
    (hbatch : 0 < config.processBatchSize) (hs : Ready P config.bufferCapacity s)
    (hroom : s.buffer.size < config.bufferCapacity) :
    ∃ s', s.addLog config (Engine.intrude config) f = (.answered s.buffer.nextId, s') ∧
      Ready P config.bufferCapacity s' ∧ s'.buffer.size < config.bufferCapacity ∧
      s'.buffer.nextId = s.buffer.nextId + 1 :=
  addLog_within hup hf hthreshold (Nat.le_refl _) hbatch hs hroom

/-- When there is no room an entry is refused before a batch could make some. -/
theorem addLog_full {f : Fields} (hf : f.withDefaults.fault? = none)
    (hs : Ready P config.bufferCapacity s) (hfull : config.bufferCapacity ≤ s.buffer.size) :
    ∃ s', s.addLog config (Engine.intrude config) f =
        (.failed (.capacityExceeded config.bufferCapacity), s') ∧
      Ready P config.bufferCapacity s' ∧ s'.buffer.queue = s.buffer.queue := by
  obtain ⟨answer, s₁, henqueue, hb, -, hbeside⟩ := s.enqueue_cases f.withDefaults
  have hfull' : s.buffer.capacity ≤ s.buffer.size := hs.capacity.symm ▸ hfull
  rw [Buffer.enqueue_full hf hs.isOpen hfull', hs.capacity] at hb
  obtain ⟨rfl, hcount⟩ := Prod.mk.inj hb
  refine ⟨s₁, by rw [addLog, henqueue], ?_, by rw [← hcount]; rfl⟩
  exact
    { isOpen := by simpa [← hcount] using hs.isOpen
      idle := hbeside.busy.trans hs.idle
      capacity := by simpa [← hcount] using hs.capacity
      ample := hbeside.ample hs.ample
      sink := hbeside.sink ▸ hs.sink }

end Station

namespace EngineConfig

/-- A normalized configuration starts batches no later than when the queue is full, and each batch
may take an entry. -/
theorem normalize_spec {c c' : EngineConfig} (h : c.normalize = .ok c') :
    c'.autoProcessThreshold ≤ c'.bufferCapacity ∧ 0 < c'.processBatchSize := by
  unfold normalize at h
  split at h
  · simp at h
  · obtain rfl := Except.ok.inj h
    dsimp only
    constructor
    · split <;> omega
    · omega

/-- No batch is started before there is an entry. -/
theorem normalize_threshold_pos {c c' : EngineConfig} (h : c.normalize = .ok c') :
    0 < c'.autoProcessThreshold := by
  unfold normalize at h
  split at h
  · simp at h
  · obtain rfl := Except.ok.inj h
    dsimp only
    split <;> omega

end EngineConfig

namespace Engine

/-- In every state that a session leads to, an engine is idle, has the capacity that it was
configured with, and has storage enough. -/
theorem run_idle {config : EngineConfig} {sink : σ} {clock : Clock} {e : Engine σ}
    (he : withSink config sink clock = .ok e) (ops : List (Operation σ)) :
    (e.run ops).station.busy = false ∧
      (e.run ops).station.buffer.capacity = e.config.bufferCapacity ∧
      (e.run ops).station.storage = .ample := by
  obtain ⟨hidle, hb, acts, -, hdescribes⟩ := run_course he ops
  refine ⟨hidle, ?_, ?_⟩
  · rw [← hdescribes.buffer, Custody.run_capacity, Buffer.create_ok hb]
    rfl
  · rw [← hdescribes.storage]
    exact Custody.run_ample rfl acts

/-- The next two entries that are handed in, with what they leave behind. -/
def addPair (e : Engine σ) (f f' : Fields) : Outcome Nat × Outcome Nat × Engine σ :=
  let first := e.addLog f
  let second := first.2.addLog f'
  (first.1, second.1, second.2)

/-- Two entries that are handed in one after the other, in any state that a session with storage
enough leads to, once the sink is up.  One of them is accepted and room is left afterwards exactly
if there was room before: then both are accepted, and else both are refused and the queue stays
full. -/
theorem addLog_pair_iff {config : EngineConfig} {sink : σ} {clock : Clock} {e : Engine σ}
    (he : withSink config sink clock = .ok e) (ops : List (Operation σ)) (hup : Sink.Up P)
    (hsink : P (e.run ops).station.sink) (hopen : (e.run ops).isOpen = true) {f f' : Fields}
    (hf : f.withDefaults.fault? = none) (hf' : f'.withDefaults.fault? = none) :
    let before := (e.run ops).station.buffer
    let (first, second, after) := (e.run ops).addPair f f'
    let capacity := e.config.bufferCapacity
    ((first.isAnswered = true ∨ second.isAnswered = true) ∧
        after.station.buffer.size < capacity ↔ before.size < capacity) ∧
      (before.size < capacity →
        first = .answered before.nextId ∧ second = .answered (before.nextId + 1)) ∧
      (capacity ≤ before.size →
        first = .failed (.capacityExceeded capacity) ∧
          second = .failed (.capacityExceeded capacity) ∧
          after.station.buffer.queue = before.queue) := by
  obtain ⟨hidle, hcapacity, hample⟩ := run_idle he ops
  have hconfig := e.run_config ops
  obtain ⟨hthreshold, hbatch⟩ := EngineConfig.normalize_spec (withSink_eq he).1
  have hready : Station.Ready P e.config.bufferCapacity (e.run ops).station :=
    ⟨hopen, hidle, hcapacity, hample, hsink⟩
  by_cases hroom : (e.run ops).station.buffer.size < e.config.bufferCapacity
  · -- the first entry leaves room for the second
    obtain ⟨s₁, hfirst, hready₁, hroom₁, hnext⟩ :=
      Station.addLog_below hup hf hthreshold hbatch hready hroom
    obtain ⟨s₂, hsecond, hready₂, hroom₂, -⟩ :=
      Station.addLog_below hup hf' hthreshold hbatch hready₁ hroom₁
    have hpair : (e.run ops).addPair f f' =
        (.answered (e.run ops).station.buffer.nextId, .answered s₁.buffer.nextId,
          { e.run ops with station := s₂ }) := by
      simp only [addPair, addLog, onStation, hconfig, hfirst, hsecond]
    rw [hpair]
    dsimp only
    refine ⟨iff_of_true ⟨Or.inl rfl, hroom₂⟩ hroom, fun _ => ⟨rfl, by rw [hnext]⟩, ?_⟩
    intro hfull
    omega
  · -- the first entry changes nothing that the second could profit from
    obtain ⟨s₁, hfirst, hready₁, hqueue₁⟩ := Station.addLog_full hf hready (by omega)
    have hsize₁ : s₁.buffer.size = (e.run ops).station.buffer.size :=
      congrArg List.length hqueue₁
    obtain ⟨s₂, hsecond, hready₂, hqueue₂⟩ := Station.addLog_full hf' hready₁ (by omega)
    have hpair : (e.run ops).addPair f f' =
        (.failed (.capacityExceeded e.config.bufferCapacity),
          .failed (.capacityExceeded e.config.bufferCapacity),
          { e.run ops with station := s₂ }) := by
      simp only [addPair, addLog, onStation, hconfig, hfirst, hsecond]
    rw [hpair]
    dsimp only
    refine ⟨iff_of_false ?_ hroom, fun h => absurd h hroom, fun _ => ⟨rfl, rfl, ?_⟩⟩
    · rintro ⟨h | h, -⟩ <;> cases h
    · exact hqueue₂.trans hqueue₁

/-- One delivery was refused while there was room: both entries that follow are accepted. -/
theorem addLog_pair_after_refusal :
    let fields : Fields := ⟨"INFO", "app", "a"⟩
    let sink := { MemorySink.withRetention 1 with failNextLogs := 1 }
    ∃ e, withSink ⟨2, 1, 1, 1⟩ sink ⟨0, 0⟩ = .ok e ∧
      ((e.run [.addLog fields]).addPair fields fields).1 = .answered 2 ∧
      ((e.run [.addLog fields]).addPair fields fields).2.1 = .answered 3 := by
  dsimp only
  have he : withSink ⟨2, 1, 1, 1⟩ { MemorySink.withRetention 1 with failNextLogs := 1 } ⟨0, 0⟩ =
    .ok _ := rfl
  have hf : (⟨"INFO", "app", "a"⟩ : Fields).withDefaults.fault? = none := rfl
  have hpair := addLog_pair_iff he [.addLog ⟨"INFO", "app", "a"⟩] MemorySink.up ⟨rfl, rfl⟩ rfl hf hf
  exact ⟨_, he, hpair.2.1 (Nat.lt_succ_self 1)⟩

/-- One delivery was refused and the queue is full: the sink is up again, and both entries that
follow are refused. -/
theorem addLog_pair_stuck :
    let fields : Fields := ⟨"INFO", "app", "a"⟩
    let sink := { MemorySink.withRetention 1 with failNextLogs := 1 }
    ∃ e, withSink ⟨1, 1, 1, 1⟩ sink ⟨0, 0⟩ = .ok e ∧
      (e.run [.addLog fields]).isOpen = true ∧
      (e.run [.addLog fields]).station.sink.isDown = false ∧
      (e.run [.addLog fields]).station.sink.failNextLogs = 0 ∧
      ((e.run [.addLog fields]).addPair fields fields).1 = .failed (.capacityExceeded 1) ∧
      ((e.run [.addLog fields]).addPair fields fields).2.1 = .failed (.capacityExceeded 1) ∧
      ((e.run [.addLog fields]).addPair fields fields).2.2.station.buffer.size = 1 :=
  ⟨_, rfl, rfl, rfl, rfl, rfl, rfl, rfl⟩

end Engine

end LogSpool
