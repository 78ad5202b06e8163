import LogSpool.Proofs.Batch.Continuation
import LogSpool.Proofs.Engine.Shutdown

/-!
# What a final drain takes

This module follows the drain that comes before an engine is closed, over a sink that answers every call
and does not come back to the spool.  All its batches together are one sweep over the queue: they offer
the entries from the oldest on, up to the first that is refused.  Where one batch ends and the next one
begins can be told from the snapshots only.

* `drain_waiting` — over such a sink it makes no difference that the spool is called through an engine.
* `Round.Sweeps`, `Drains.sweeps` — the deliveries of a drain as those of one round.
* `ReportsSweep` — how the report of a shutdown follows from the deliveries.
* `Engine.shutdown_sweeps`, `final_drain_takes_longest_prefix` — every shutdown of an open engine sweeps
  its queue, and the size of the batches makes no difference.
-/

namespace LogSpool

variable {σ : Type} [Sink σ] {P : σ → Prop}

/-! ## Through an engine or not -/

namespace Station

variable {s : Station σ}

/-- A sink that only waits does the same to an engine as to a buffer. -/
theorem callSink_waiting (config : EngineConfig) {call : Call}
    (hwaits : ∀ i ∈ (Sink.receive call s.sink).1.intrusions, i.isWait = true) :
    s.callSink (Engine.intrude config) call = s.callSink intrude call := by
  have hsame : ∀ t : Station σ, ∀ i ∈ (Sink.receive call s.sink).1.intrusions,
      Engine.intrude config t i = t.intrude i := by
    intro t i hi
    have hi := hwaits i hi
    cases i with
    | wait micros => rfl
    | setWall ms => rfl
    | _ => cases hi
  unfold callSink
  dsimp only
  rw [List.foldl_ext _ _ _ hsame]

theorem deliver_waiting (hP : Sink.Confined (fun i => i.isWait = true) P) (config : EngineConfig)
    (hs : P s.sink) (started remaining processed : Nat) :
    s.deliver (Engine.intrude config) started remaining processed =
      s.deliver intrude started remaining processed := by
  induction remaining generalizing processed s with
  | zero => rfl
  | succ remaining ih =>
      rw [deliver, deliver]
      rcases htaken : s.dequeue with ⟨why | _ | e, s₁⟩
      · rfl
      · rfl
      · obtain ⟨-, -, hbeside, -⟩ := dequeue_taken htaken
        have hs₁ : P s₁.sink := hbeside.sink ▸ hs
        have hwaits := hP.intrusions (.log (s₁.deliveryOf e)) hs₁
        dsimp only
        rw [callSink_waiting config hwaits]
        rcases hcall : s₁.callSink intrude (.log (s₁.deliveryOf e)) with ⟨_ | why | _, s₂⟩
        · -- the sink is as confined as before when the next entry is taken out
          rw [callSink_wait hwaits] at hcall
          obtain ⟨-, rfl⟩ := Prod.mk.inj hcall
          refine ih ?_ _
          rw [(delivered_beside _ _).sink]
          exact hP.settle _ (hP.receive _ hs₁)
        · rfl
        · rfl

theorem process_waiting (hP : Sink.Confined (fun i => i.isWait = true) P) (config : EngineConfig)
    (hs : P s.sink) (n : Nat) : s.process (Engine.intrude config) n = s.process intrude n := by
  have hkeeps := keeps_sink hP (intrude_onlyErrands s.busy)
  have hleft := (deliver_delivers s.clock.elapsed (s.batchLimit n) 0 s).keeps hkeeps ⟨rfl, hs, trivial⟩
  unfold process
  dsimp only
  rw [deliver_waiting hP config hs]
  rcases hend : s.deliver intrude s.clock.elapsed (s.batchLimit n) 0 with ⟨m | why | _, t⟩
  · rw [hend] at hleft
    have hpersist : t.persistSnapshot (Engine.intrude config) = t.persistSnapshot intrude := by
      unfold persistSnapshot
      cases t.buffer.snapshot with
      | error why => rfl
      | ok metrics =>
          dsimp only
          rw [callSink_waiting config (hP.intrusions _ hleft.sink)]
    cases m with
    | zero => rfl
    | succ m => simp only [hpersist]
  · rfl
  · rfl

end Station

namespace Engine

/-- Over a sink that only waits a drain is the same as if the sink had the buffer before it. -/
theorem drain_waiting (hP : Sink.Confined (fun i => i.isWait = true) P) (config : EngineConfig)
    {s : Station σ} (hs : P s.sink) (batch fuel drained : Nat) :
    drain (intrude config) batch fuel drained s = drain Station.intrude batch fuel drained s := by
  induction fuel generalizing drained s with
  | zero => rfl
  | succ fuel ih =>
      have hkept := Station.process_keeps
        (Station.keeps_sink hP (Station.intrude_onlyErrands s.busy)) batch ⟨rfl, hs, trivial⟩
      unfold drain
      rw [Station.process_waiting hP config hs]
      rcases hend : s.process Station.intrude batch with ⟨report | why | _, t⟩
      · rw [hend] at hkept
        dsimp only
        split
        · rfl
        · exact ih hkept.sink _
      · rfl
      · rfl

end Engine

/-! ## Sweeps -/

namespace Round

/-- The deliveries of a round sweep an open buffer.  The entries that were taken have left the queue, the
one that was refused is at the head again, and if none was the queue is empty. -/
structure Sweeps (r : Round) (b b' : Buffer) : Prop where
  isOpen : b'.isOpen = true
  queue : b.queue = r.taken.map Delivery.entry ++ b'.queue
  head : ∀ made ∈ r.refused, b'.queue.head? = some made.1.entry
  complete : r.refused = none → b'.queue = []

variable {r : Round} {b b' b'' : Buffer}

/-- A batch that is answered refuses nothing, and reports what it took. -/
theorem of_answered {elapsed : Nat} {report : BatchReport}
    (h : r.outcome elapsed = .answered report) :
    r.refused = none ∧ report.processed = r.taken.length := by
  cases hrefused : r.refused with
  | none =>
      rw [outcome, hrefused] at h
      rw [← Outcome.answered.inj h]
      exact ⟨rfl, rfl⟩
  | some made =>
      rw [outcome, hrefused] at h
      cases h

/-- A batch that fails does so with the entry that was refused, and its error carries what it took. -/
theorem of_failed {elapsed : Nat} {why : EngineError} (h : r.outcome elapsed = .failed why) :
    r.refused ≠ none ∧ why.processed = r.taken.length := by
  cases hrefused : r.refused with
  | none =>
      rw [outcome, hrefused] at h
      cases h
  | some made =>
      rw [outcome, hrefused] at h
      rw [← Outcome.failed.inj h]
      exact ⟨by simp, rfl⟩

/-- Where nothing was refused everything was accepted. -/
theorem accepted_of_refused_none (r : Round) (h : r.refused = none) :
    ∀ made ∈ r.deliveries, made.2 = .accepted := by
  simp [deliveries, h]

/-- A round that refuses nothing leaves what stands behind the entries that it may take. -/
theorem Effect.queue_of_complete {limit : Nat} (h : r.Effect limit b b') (hopen : b.isOpen = true)
    (hrefused : r.refused = none) : b'.queue = b.queue.drop limit := by
  rw [(h.shed hopen).queue, h.complete hrefused]
  rcases Nat.le_total limit b.size with hle | hle
  · rw [Nat.min_eq_left hle]
  · rw [Nat.min_eq_right hle, List.drop_of_length_le hle]
    exact List.drop_length

/-- A batch is never given up where every call is answered. -/
theorem outcome_ne_abandoned (r : Round) (elapsed : Nat) : r.outcome elapsed ≠ .abandoned := by
  unfold outcome
  split <;> simp

/-- A round that refuses nothing, and another one after it. -/
def followedBy (r r' : Round) : Round :=
  ⟨r.taken ++ r'.taken, r'.refused, none⟩

theorem followedBy_deliveries (r' : Round) (hnone : r.refused = none) :
    (r.followedBy r').deliveries = r.deliveries ++ r'.deliveries := by
  simp [followedBy, deliveries, hnone]

namespace Sweeps

theorem followedBy {r' : Round} {limit : Nat} (h : r.Effect limit b b') (h' : r'.Sweeps b' b'') :
    (r.followedBy r').Sweeps b b'' where
  isOpen := h'.isOpen
  queue := by
    rw [h.queue, h'.queue, Round.followedBy, List.map_append, List.append_assoc]
  head := h'.head
  complete := h'.complete

/-- A batch that took nothing and refused nothing has found the queue empty. -/
theorem of_nothing {limit : Nat} (hlimit : 0 < limit) (h : r.Effect limit b b')
    (hrefused : r.refused = none) (htaken : r.taken.length = 0) : r.Sweeps b b' where
  isOpen := h.isOpen
  queue := h.queue
  head := h.head
  complete _ := by
    have hsize : b.size = 0 := by
      have hcomplete := h.complete hrefused
      omega
    have hempty : b.queue = [] := List.eq_nil_of_length_eq_zero hsize
    have hqueue := h.queue
    rw [hempty] at hqueue
    exact (List.append_eq_nil_iff.1 hqueue.symm).2

/-- A batch that fails ends a sweep. -/
theorem of_refused {limit : Nat} (h : r.Effect limit b b') (hrefused : r.refused ≠ none) :
    r.Sweeps b b' where
  isOpen := h.isOpen
  queue := h.queue
  head := h.head
  complete hnone := absurd hnone hrefused

end Sweeps

end Round

namespace Engine

/-- A drain over a sink that answers, with storage enough, sweeps the queue, however many entries its
batches take.  The offers
that it makes are those that a rehearsal of the whole queue tells, if snapshots make no difference. -/
theorem Drains.sweeps (hP : Sink.Answering P) {batch : Nat} (hbatch : 0 < batch)
    {fuel drained : Nat} {s s' : Station (Traced σ)} {outcome : Outcome Nat}
    (hdrain : Drains Station.intrude batch fuel drained s outcome s') (hs : P s.sink.inner)
    (hopen : s.buffer.isOpen = true) (hfits : s.buffer.size ≤ s.buffer.capacity)
    (hample : s.storage = .ample) (hfuel : s.buffer.size < fuel) :
    ∃ r : Round, r.Sweeps s.buffer s'.buffer ∧ outcome = .answered (drained + r.taken.length) ∧
      deliveriesIn s'.sink.trace = deliveriesIn s.sink.trace ++ r.deliveries ∧
      (Sink.Indifferent P → offersOf r.deliveries =
        offersOf (untilFailure (Sink.rehearse s.clock s.sink.inner s.buffer.queue))) := by
  induction hdrain with
  | exhausted => omega
  | @empty fuel drained report s s' hprocess hzero =>
      have hstorage : s.storage.shortage? = none := congrArg Storage.shortage? hample
      obtain ⟨r, heffect, ⟨elapsed, houtcome⟩, hmade, hdeliveries, -⟩ :=
        Station.process_offered hP hs hopen hfits hstorage hbatch
      rw [hprocess] at heffect houtcome hmade
      obtain ⟨hrefused, htaken⟩ := Round.of_answered houtcome.symm
      rw [hzero] at htaken
      have hsweeps := Round.Sweeps.of_nothing hbatch heffect hrefused htaken.symm
      refine ⟨r, hsweeps, by rw [← htaken, Nat.add_zero], hmade, fun _ => ?_⟩
      have hqueue := heffect.queue
      rw [hsweeps.complete hrefused, List.eq_nil_of_length_eq_zero htaken.symm, List.map_nil,
        List.nil_append] at hqueue
      rw [hdeliveries, hqueue, List.take_nil]
  | @more fuel drained report s t s' outcome hprocess hsome _ ih =>
      have hstorage : s.storage.shortage? = none := congrArg Storage.shortage? hample
      obtain ⟨r, heffect, ⟨elapsed, houtcome⟩, hmade, hdeliveries, hsink, hkept⟩ :=
        Station.process_offered hP hs hopen hfits hstorage hbatch
      have hindifferent (h : Sink.Indifferent P) :=
        Station.process_indifferent hP h hs hopen hfits hstorage hprocess hsome
      rw [hprocess] at heffect houtcome hmade hsink hkept
      obtain ⟨hrefused, htaken⟩ := Round.of_answered houtcome.symm
      have hsize : s.buffer.size = r.taken.length + t.buffer.size := by
        simp [Buffer.size, heffect.queue]
      have hcapacity : t.buffer.capacity = s.buffer.capacity := heffect.capacity
      obtain ⟨r', hsweeps, houtcome', hmade', hoffers⟩ := ih hsink heffect.isOpen
        (by omega) (hkept hample) (by omega)
      have hall := r.followedBy_deliveries r' hrefused
      refine ⟨r.followedBy r', .followedBy heffect hsweeps, ?_, ?_, fun h => ?_⟩
      · rw [houtcome', htaken, Round.followedBy, List.length_append, Nat.add_assoc]
      · rw [hmade', hmade, hall, List.append_assoc]
      · -- all of this batch was accepted, so that the first failure comes after it
        have haccepted := accepted_of_untilFailure
          (hdeliveries ▸ r.accepted_of_refused_none hrefused)
        have hleft := heffect.queue_of_complete hopen hrefused
        rw [Station.batchLimit, if_pos hbatch] at hindifferent
        rw [hall, offersOf_append, hoffers h, Sink.rehearse_split s.clock s.sink.inner _ batch,
          untilFailure_append_of_accepted haccepted, offersOf_append, hdeliveries,
          untilFailure_of_accepted haccepted, hleft, offersOf_untilFailure (hindifferent h _)]
  | @stopped fuel drained why s s' hprocess =>
      have hstorage : s.storage.shortage? = none := congrArg Storage.shortage? hample
      obtain ⟨r, heffect, ⟨elapsed, houtcome⟩, hmade, hdeliveries, -⟩ :=
        Station.process_offered hP hs hopen hfits hstorage hbatch
      rw [hprocess] at heffect houtcome hmade
      obtain ⟨hrefused, htaken⟩ := Round.of_failed houtcome.symm
      refine ⟨r, .of_refused heffect hrefused, by rw [htaken], hmade, fun _ => ?_⟩
      -- what was refused is in this batch
      have hfailure : ¬ ∀ one ∈ Sink.rehearse s.clock s.sink.inner (s.buffer.queue.take batch),
          one.2 = .accepted := by
        intro haccepted
        rw [untilFailure_of_accepted haccepted] at hdeliveries
        exact hrefused (Round.of_accepted (hdeliveries ▸ haccepted)).1
      rw [Sink.rehearse_split s.clock s.sink.inner _ batch, untilFailure_append_of_failure hfailure,
        hdeliveries]
  | @abandoned fuel drained s s' hprocess =>
      have hstorage : s.storage.shortage? = none := congrArg Storage.shortage? hample
      obtain ⟨r, -, ⟨elapsed, houtcome⟩, -⟩ := Station.process_offered hP hs hopen hfits hstorage hbatch
      rw [hprocess] at houtcome
      exact absurd houtcome.symm (r.outcome_ne_abandoned elapsed)

end Engine

/-! ## Reports -/

/-- How a shutdown sweeps a queue, as the deliveries tell that it makes.  It offers the entries from the
oldest on, and drains those that are accepted.  If it is refused the one behind `k` others, this is the
last that it offers, and all but the `k` are discarded.  If it is refused none, it drains all. -/
structure ReportsSweep (queue : List Entry) (calls : List (Delivery × Answer)) (report : ShutdownReport) :
    Prop where
  offered : calls.map (·.1.entry) = queue.take calls.length
  delivered : takenOf calls = queue.take report.drained
  total : report.drained + report.discarded = queue.length
  refused : ∀ k d why, calls[k]? = some (d, .refused why) →
    k < queue.length ∧ calls.length = k + 1 ∧ report = ⟨k, queue.length - k⟩
  accepted : (∀ call ∈ calls, call.2 = .accepted) →
    calls.length = queue.length ∧ report = ⟨queue.length, 0⟩

omit [Sink σ] in
/-- The entries that are offered are those at the head of the queue. -/
theorem Round.Sweeps.offered {r : Round} {b b' : Buffer} (h : r.Sweeps b b') :
    r.deliveries.map (·.1.entry) <+: b.queue := by
  have htaken : (r.taken.map (·, Answer.accepted)).map (·.1.entry) = r.taken.map Delivery.entry :=
    List.map_map
  rw [Round.deliveries, List.map_append, htaken, h.queue]
  cases hrefused : r.refused with
  | none => simp
  | some made =>
      obtain ⟨rest, hrest⟩ := List.head?_eq_some_iff.1 (h.head made hrefused)
      simp [hrest]

omit [Sink σ] in
/-- What is left of a round that sweeps the queue is what the report tells. -/
theorem Round.Sweeps.reported {r : Round} {b b' : Buffer} (h : r.Sweeps b b') :
    ReportsSweep b.queue r.deliveries ⟨r.taken.length, b'.size⟩ := by
  have hlength : b.queue.length = r.taken.length + b'.size := by
    simp [Buffer.size, h.queue]
  refine ⟨?_, ?_, hlength.symm, ?_, ?_⟩
  · have hprefix := List.prefix_iff_eq_take.1 h.offered
    rwa [List.length_map] at hprefix
  · rw [r.takenOf_deliveries, h.queue]
    exact (List.take_left' (List.length_map _)).symm
  · intro k d why hk
    cases hrefused : r.refused with
    | none =>
        cases r.accepted_of_refused_none hrefused _ (List.mem_of_getElem? hk)
    | some made =>
        -- all but the last were accepted
        have hnot : ¬ k < r.taken.length := by
          intro hbefore
          rw [Round.deliveries, List.getElem?_append_left (by simpa using hbefore)] at hk
          simp at hk
        have hdeliveries : r.deliveries.length = r.taken.length + 1 := by
          simp [Round.deliveries, hrefused]
        have hbelow := (List.getElem?_eq_some_iff.1 hk).1
        obtain ⟨rest, hrest⟩ := List.head?_eq_some_iff.1 (h.head made hrefused)
        have hpos : 0 < b'.size := by simp [Buffer.size, hrest]
        obtain rfl : k = r.taken.length := by omega
        refine ⟨by omega, hdeliveries, ?_⟩
        rw [hlength, Nat.add_sub_cancel_left]
  · intro haccepted
    obtain ⟨hrefused, htaken⟩ := Round.of_accepted haccepted
    have hzero : b'.size = 0 := by simp [Buffer.size, h.complete hrefused]
    have hall : r.taken.length = b.queue.length := by omega
    rw [← htaken, List.length_map, hall, hzero]
    exact ⟨rfl, rfl⟩

/-- The answers decide about everything else. -/
theorem ReportsSweep.unique {queue : List Entry} {calls calls' : List (Delivery × Answer)}
    {report report' : ShutdownReport} (h : ReportsSweep queue calls report)
    (h' : ReportsSweep queue calls' report') (hanswers : calls.map (·.2) = calls'.map (·.2)) :
    report = report' ∧ offersOf calls = offersOf calls' := by
  have hlength : calls.length = calls'.length := by simpa using congrArg List.length hanswers
  have hentries : calls.map (·.1.entry) = calls'.map (·.1.entry) := by
    rw [h.offered, h'.offered, hlength]
  have hoffers : offersOf calls = offersOf calls' := by
    rw [offersOf_eq_zip, offersOf_eq_zip, hentries, hanswers]
  -- as many were drained as were accepted
  have hdrained : report.drained = report'.drained := by
    have htaken : takenOf calls = takenOf calls' := by
      rw [takenOf_eq_offersOf, takenOf_eq_offersOf, hoffers]
    have hsame := congrArg List.length htaken
    rw [h.delivered, h'.delivered, List.length_take, List.length_take] at hsame
    have htotal := h.total
    have htotal' := h'.total
    omega
  have hdiscarded : report.discarded = report'.discarded := by
    have htotal := h.total.trans h'.total.symm
    omega
  cases report
  cases report'
  exact ⟨congrArg₂ ShutdownReport.mk hdrained hdiscarded, hoffers⟩

namespace Engine

/-- The same engine, where the batches of a drain take another number of entries. -/
def withBatchSize (n : Nat) (e : Engine σ) : Engine σ :=
  { e with config := { e.config with processBatchSize := n } }

/-- A shutdown sweeps the queue. -/
theorem shutdown_sweeps (hP : Sink.Answering P) {e : Engine σ} (hidle : e.station.busy = false)
    (hopen : e.isOpen = true) (hs : P e.station.sink)
    (hfits : e.station.buffer.size ≤ e.station.buffer.capacity)
    (hample : e.station.storage = .ample)
    (hsize : e.station.buffer.size < drainLimit) (hbatch : 0 < e.config.processBatchSize) :
    let calls := deliveriesIn (e.trace [.shutdown])
    ∃ report, e.shutdown.1 = .answered report ∧ ReportsSweep e.station.buffer.queue calls report ∧
      (Sink.Indifferent P → offersOf calls = offersOf (untilFailure
        (Sink.rehearse e.station.clock e.station.sink e.station.buffer.queue))) := by
  intro calls
  let began : Station (Traced σ) := { e.withTrace.station with busy := true }
  have hwaiting : e.withTrace.finalDrain = drain Station.intrude e.config.processBatchSize drainLimit 0
      began := drain_waiting (hP.toConfined.comap Traced.inner_morphism) e.config hs _ _ _
  have hdrains : Drains Station.intrude e.config.processBatchSize drainLimit 0 began _ _ :=
    drain_drains _ _ _
  obtain ⟨r, hsweeps, houtcome, hmade, hoffers⟩ := hdrains.sweeps hP hbatch hs hopen hfits hample hsize
  rw [← hwaiting] at hsweeps houtcome hmade
  rcases shutdown_drains hidle hopen with
    ⟨drained, s, hend, hshutdown, -, htrace⟩ | ⟨s, hend, -, -, -⟩ <;>
    rw [hend] at hsweeps houtcome hmade
  · obtain ⟨hreport, hclosed⟩ := closeAfter_closedAfter hsweeps.isOpen drained
    have hcalls : calls = r.deliveries := by
      have hnone : deliveriesIn [.closed] = [] := rfl
      have hempty : deliveriesIn began.sink.trace = [] := rfl
      show deliveriesIn (e.trace [.shutdown]) = r.deliveries
      rw [htrace, hclosed.trace, deliveriesIn_append, hnone, List.append_nil, hmade, hempty,
        List.nil_append]
    have hdrained : drained = r.taken.length := by
      rw [Outcome.answered.inj houtcome, Nat.zero_add]
    rw [hcalls, hshutdown, hreport, hdrained]
    exact ⟨_, rfl, hsweeps.reported, hoffers⟩
  · cases houtcome

/-- The final drain takes the longest prefix of the queue that the sink accepts, whatever the size of its
batches is.  The engine is open after some session, with storage enough and fewer entries in its queue
than there are numbers for entries, and its sink answers every call and does not come back to the spool;
it may refuse snapshots.  For every size of the batches, the one that was configured among them, the
shutdown sweeps the queue: its report and the entries that it offers follow from the place of the first
delivery that is refused.

So two sizes come to the same if the sink gives the same answers to deliveries, and then the same entries
are offered.  That is so of every sink to which the snapshots between the batches make no difference. -/
theorem final_drain_takes_longest_prefix (hP : Sink.Answering P) {config : EngineConfig} {sink : σ}
    {clock : Clock} {e : Engine σ} (he : withSink config sink clock = .ok e)
    (ops : List (Operation σ)) (hopen : (e.run ops).isOpen = true)
    (hs : P (e.run ops).station.sink) (hsize : (e.run ops).station.buffer.size < 2 ^ 64) :
    let queue := (e.run ops).station.buffer.queue
    let before := fun n => (e.run ops).withBatchSize n
    let calls := fun n => deliveriesIn ((before n).trace [.shutdown])
    (0 < e.config.processBatchSize ∧ before e.config.processBatchSize = e.run ops) ∧
    (∀ n, 0 < n → ∃ report, (before n).shutdown.1 = .answered report ∧
      ReportsSweep queue (calls n) report) ∧
    ∀ n m, 0 < n → 0 < m → (calls n).map (·.2) = (calls m).map (·.2) ∨ Sink.Indifferent P →
      (before n).shutdown.1 = (before m).shutdown.1 ∧ offersOf (calls n) = offersOf (calls m) := by
  intro queue before calls
  obtain ⟨hidle, -⟩ := run_course he ops
  have hwellFormed := run_wellFormed he ops
  have hfits : queue.length ≤ (e.run ops).station.buffer.capacity :=
    Nat.le_trans (Nat.le_of_eq hwellFormed.depth.symm) hwellFormed.depth_le
  obtain ⟨-, -, hample⟩ := run_idle he ops
  have hsweeps {n : Nat} (hn : 0 < n) :=
    shutdown_sweeps (e := before n) hP hidle hopen hs hfits hample hsize hn
  refine ⟨⟨(EngineConfig.normalize_spec (withSink_eq he).1).2, ?_⟩, ?_, ?_⟩
  · rw [← e.run_config ops]
    rfl
  · intro n hn
    obtain ⟨report, hshutdown, hreport, -⟩ := hsweeps hn
    exact ⟨report, hshutdown, hreport⟩
  · intro n m hn hm hsame
    obtain ⟨report, hshutdown, hreport, hoffers⟩ := hsweeps hn
    obtain ⟨report', hshutdown', hreport', hoffers'⟩ := hsweeps hm
    have hanswers : (calls n).map (·.2) = (calls m).map (·.2) := by
      rcases hsame with hanswers | hindifferent
      · exact hanswers
      · have hboth : offersOf (calls n) = offersOf (calls m) :=
          (hoffers hindifferent).trans (hoffers' hindifferent).symm
        have hsnd := congrArg (List.map Prod.snd) hboth
        simpa [offersOf, Function.comp_def] using hsnd
    obtain ⟨rfl, hall⟩ := hreport.unique hreport' hanswers
    exact ⟨hshutdown.trans hshutdown'.symm, hall⟩

/-- Three entries are queued.  The sink takes two of them, refuses the snapshot after these, and then the
third one.  The drain takes two entries where its batches are of that size, so that the refusal stands at
the edge of a batch; and so it does with batches of three. -/
theorem final_drain_takes_longest_prefix_of_third_refusal :
    let fields : Fields := ⟨"INFO", "app", "a"⟩
    let down : SinkError := .unavailable "down"
    let sink : Scripted MemorySink :=
      ⟨[⟨.none, .passOn⟩, ⟨.none, .passOn⟩, ⟨.none, .refuse down⟩], [⟨.none, .refuse down⟩], [], [],
        .withRetention 4⟩
    let e : Engine (Scripted MemorySink) := ⟨⟨4, 4, 2, 50⟩,
      (Station.around ⟨4, [], 1, .initial 4 0, true⟩ sink ⟨0, 0⟩ 2).record (.initialized 4 4 2)⟩
    let before := e.run [.addLog fields, .addLog fields, .addLog fields]
    withSink ⟨4, 4, 2, 0⟩ sink ⟨0, 0⟩ = .ok e ∧ before.shutdown.1 = .answered ⟨2, 1⟩ ∧
      (before.withBatchSize 3).shutdown.1 = .answered ⟨2, 1⟩ ∧
      takenIn ((before.withBatchSize 3).trace [.shutdown]) = before.station.buffer.queue.take 2 := by
  intro fields down sink e before
  have he : withSink ⟨4, 4, 2, 0⟩ sink ⟨0, 0⟩ = .ok e := rfl
  have hsink : before.station.sink.Harmless := ⟨by decide, by decide, by decide⟩
  have hreport : before.shutdown.1 = .answered ⟨2, 1⟩ := by decide
  obtain ⟨-, hsweeps, hsame⟩ := final_drain_takes_longest_prefix
    (Scripted.answering MemorySink.answers) he [.addLog fields, .addLog fields, .addLog fields]
    (by decide) hsink (by decide)
  have hthree := (hsame 3 2 (by decide) (by decide) (Or.inr Scripted.indifferent)).1.trans hreport
  obtain ⟨report, hanswer, hswept⟩ := hsweeps 3 (by decide)
  obtain rfl := Outcome.answered.inj (hanswer.symm.trans hthree)
  exact ⟨he, hreport, hthree, hswept.delivered⟩

end Engine

end LogSpool
