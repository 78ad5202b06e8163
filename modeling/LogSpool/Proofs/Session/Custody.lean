import LogSpool.Proofs.Custody.Closed
import LogSpool.Proofs.Custody.Order
import LogSpool.Proofs.Session.Pending
import LogSpool.Sink.Memory
import LogSpool.Sink.Scripted

/-!
# Where entries are, and in which order they are delivered

This module holds the two results on the custody of entries over whole sessions.

* `every_entry_in_one_place` — at each moment every number that was given out is in exactly one
  place, once.
* `deliveries_in_ingestion_order` — while nobody but the processor takes entries out, the calls of
  the sink follow the numbers, and the counts add up.

Both are stated for every course of acts, so at every moment and under every interleaving, and for
every session that is run, with any sink and any storage.  A session is the course that its
chronicle gives: the custody that follows the chronicle tells where the session has left the
entries, and a beginning of it tells where they are while a call to the sink is pending.
-/

namespace LogSpool

/-- A desk with a buffer of which nothing has been taken out. -/
def Desk.opened {σ : Type} (b : Buffer) (sink : σ) (clock : Clock) (batch : Nat)
    (storage : Storage := .ample) : Desk σ :=
  ⟨Station.around b sink clock batch storage, .empty⟩

theorem Custody.around_describes {σ : Type} (b : Buffer) (sink : σ) (clock : Clock)
    (batch : Nat) (storage : Storage) : (Custody.around b storage).Describes Recorded.track
      (Station.around b sink clock batch storage).withRecord :=
  ⟨rfl, rfl, rfl, rfl, rfl⟩

/-- What a new engine is made of. -/
theorem Engine.withSink_eq {σ : Type} {config : EngineConfig} {sink : σ} {clock : Clock}
    {storage : Storage} {e : Engine σ} (he : Engine.withSink config sink clock storage = .ok e) :
    config.normalize = .ok e.config ∧
      ∃ b, Buffer.create e.config.bufferCapacity clock.now = .ok b ∧
        e.station = (Station.around b sink clock e.config.processBatchSize storage).record
          (.initialized e.config.bufferCapacity e.config.autoProcessThreshold
            e.config.processBatchSize) := by
  cases hconfig : config.normalize with
  | error why => simp [withSink, hconfig, bind, Except.bind] at he
  | ok normal =>
      cases hb : Buffer.create normal.bufferCapacity clock.now with
      | error why => simp [withSink, hconfig, hb, bind, Except.bind] at he
      | ok b =>
          simp only [withSink, hconfig, hb, bind, Except.bind, pure, Except.pure,
            Except.ok.injEq] at he
          subst he
          exact ⟨rfl, b, hb, rfl⟩

/-- The custody around the buffer of a new engine describes it. -/
theorem Engine.withSink_describes {σ : Type} {config : EngineConfig} {sink : σ} {clock : Clock}
    {storage : Storage} {e : Engine σ} (he : Engine.withSink config sink clock storage = .ok e) :
    e.station.busy = false ∧
      Buffer.create e.config.bufferCapacity clock.now = .ok e.station.buffer ∧
      (Custody.around e.station.buffer storage).Describes Recorded.track e.withRecord.station := by
  obtain ⟨-, b, hb, hstation⟩ := withSink_eq he
  have hbuffer : e.station.buffer = b := by
    rw [hstation]
    rfl
  refine ⟨by rw [hstation]; rfl, hbuffer ▸ hb, ?_⟩
  rw [withRecord, hstation]
  exact ⟨rfl, rfl, rfl, rfl, rfl⟩

/-- A session of an engine is a course of acts of the spool itself over a new buffer, and leaves the
engine idle. -/
theorem Engine.run_course {σ : Type} [Sink σ] {config : EngineConfig} {sink : σ} {clock : Clock}
    {storage : Storage} {e : Engine σ} (he : Engine.withSink config sink clock storage = .ok e)
    (ops : List (Engine.Operation σ)) :
    (e.run ops).station.busy = false ∧
      Buffer.create e.config.bufferCapacity clock.now = .ok e.station.buffer ∧
      ∃ acts : List Act, (∀ a ∈ acts, a.isInternal = true) ∧
        ((Custody.around e.station.buffer storage).run acts).Describes (fun _ _ => True)
          (e.run ops).station := by
  obtain ⟨hidle, hb, hdescribes⟩ := withSink_describes he
  have hfollows := e.run_keeps ops
  obtain ⟨acts, hcourse⟩ := hfollows.course
  exact ⟨hfollows.busy.trans hidle, hb, acts, hcourse.internal, hcourse.run _
    ⟨hdescribes.buffer, hdescribes.storage, hdescribes.flight, hdescribes.lost, trivial⟩⟩

/-! ## Places -/

/-- A custody says of each number that was given out where its entry is.  The queue is that of the
station.  In hands is what these hands hold, or what was thrown away from them; in flight is this
delivery, or none; delivered is what the sink has taken by its record.  Exactly one error of the
journal names each entry that is lost, and none names another one.  While the buffer is open nothing
is discarded. -/
structure Custody.Locates {σ : Type} (w : Custody) (hands : Hands) (pending : Option Delivery)
    (s : Station (Recorded σ)) : Prop where
  partitioned : w.Partitioned
  buffer : w.buffer = s.buffer
  hands : w.hands = hands
  flight : w.inFlight = pending
  delivered : w.entriesAt .delivered = takenOf s.sink.record
  dropped : ∀ id ∈ (w.entriesAt .lost).map Entry.id, s.DropsOnce id
  kept : ∀ id, id ∉ (w.entriesAt .lost).map Entry.id → ∀ e ∈ s.journal, ¬ e.Drops id
  discarded : s.buffer.isOpen = true → w.entriesAt .discarded = []

/-- Where the losses are different ones, exactly one event tells of each. -/
theorem Station.dropsOnce_of_nodup {σ : Type} {s : Station σ} (hs : s.lostIds.Nodup) {id : Nat}
    (hid : id ∈ s.lostIds) : s.DropsOnce id := by
  obtain ⟨e, he, hdrops⟩ := mem_lostIds.1 hid
  obtain ⟨later, earlier, hjournal⟩ := List.append_of_mem he
  refine ⟨later, e, earlier, hjournal, hdrops, fun other hother hagain => ?_⟩
  have hlost : e.lostId? = some id := (e.lostId?_eq_some_iff id).2 hdrops
  have hlost' : other.lostId? = some id := (other.lostId?_eq_some_iff id).2 hagain
  rw [lostIds, hjournal, List.filterMap_reverse, List.nodup_reverse, List.filterMap_append,
    List.filterMap_cons_some hlost, List.nodup_middle, ← List.filterMap_append] at hs
  exact (List.nodup_cons.1 hs).1 (List.mem_filterMap.2 ⟨other, hother, hlost'⟩)

theorem Custody.takenOf_calls (w : Custody) :
    takenOf (w.attempts.map Attempt.call) = w.entriesAt .delivered := by
  rw [takenOf, List.filter_map, List.map_map]
  rfl

theorem Custody.Conserved.locates {σ : Type} {w : Custody} (hw : w.Conserved)
    (hdiscarded : w.buffer.isOpen = true → w.discarded = []) {pending : Option Delivery}
    {s : Station (Recorded σ)} (h : w.Shows Recorded.track pending s) :
    w.Locates w.hands pending s := by
  have hlost : (w.entriesAt .lost).map Entry.id = s.lostIds := h.lost
  have hrecord : s.sink.record = w.attempts.map Attempt.call := h.calls
  refine ⟨hw.partitioned, h.buffer, rfl, h.flight, ?_, ?_, ?_, h.buffer ▸ hdiscarded⟩
  · rw [hrecord, w.takenOf_calls]
  · intro id hid
    have honce := hw.partitioned.once .lost
    rw [hlost] at honce hid
    exact Station.dropsOnce_of_nodup honce hid
  · intro id hid e he hdrops
    rw [hlost] at hid
    exact hid (Station.mem_lostIds.2 ⟨e, he, hdrops⟩)

/-- No entry vanishes and none is doubled.  At each moment of each course every number from 1 to
the last one given out is in the queue, in a hand, in flight, delivered, lost or discarded, in one
of these only and there once.

Every session at a desk is the course that its chronicle gives, and the custody that follows the
chronicle locates the entries where the desk has left them.  It does so at each moment of an
operation that comes next, too, at which a call to the sink is pending: there the custody has
followed the chronicle of that operation so far.  To keep a record of the calls does not change the
session. -/
theorem every_entry_in_one_place {capacity : Nat} {now : Int} {b : Buffer}
    (hb : Buffer.create capacity now = .ok b) (storage : Storage) :
    (∀ acts : List Act, ((Custody.around b storage).run acts).Partitioned) ∧
      ∀ (σ : Type) [Sink σ] (sink : σ) (clock : Clock) (batch : Nat)
        (ops : List (Desk.Operation σ)),
        let opened := Desk.opened b sink clock batch storage
        let d := opened.runRecorded ops
        let w := (Custody.around b storage).run
          (opened.withRecord.chronicle (ops.map Desk.Operation.recorded))
        d.plain = opened.run ops ∧ w.Locates d.hands none d.station ∧
          ∀ op call t, d.station.AmidRun op call t → ∃ before, before <+: d.station.performActs op ∧
            (w.run before).Locates d.hands call.delivery? t := by
  have hconserved := Custody.conserved_around hb storage
  constructor
  · intro acts
    exact (Custody.conserved_run hconserved acts).partitioned
  · intro σ _ sink clock batch ops opened d w
    have hdescribed : Desk.Described w d :=
      Desk.run_described ⟨Custody.around_describes b sink clock batch storage, rfl⟩ ops
    have hw : w.Conserved := Custody.conserved_run hconserved _
    have hdiscarded (acts : List Act) (hopen : (w.run acts).buffer.isOpen = true) :
        (w.run acts).discarded = [] :=
      (Custody.run_discarded hopen).trans (Custody.run_discarded (Custody.isOpen_of_run hopen))
    refine ⟨Desk.runRecorded_plain opened ops, ?_, ?_⟩
    · rw [← hdescribed.hands]
      exact hw.locates (hdiscarded []) hdescribed.station
    · intro op call t hamid
      obtain ⟨before, hbefore, hcourse⟩ := hamid.course Recorded.tracks
      refine ⟨before, hbefore, ?_⟩
      rw [← hdescribed.hands, ← Custody.run_hands hcourse.internal w]
      exact (Custody.conserved_run hw before).locates (hdiscarded before)
        (hcourse.run w hdescribed.station)

/-- One entry is in a hand.  While the sink is called with the next one a third one comes in and the
buffer is closed, and the call never ends: the entry in flight is lost, and the third one discarded. -/
theorem every_entry_in_one_place_of_lost_entry :
    let fields : Fields := ⟨"INFO", "app", "a"⟩
    let b : Buffer := ⟨2, [], 1, .initial 2 0, true⟩
    let sink : Scripted MemorySink :=
      ⟨[⟨⟨0, none, [.add fields, .close]⟩, .stall⟩], [], [], [], .withRetention 1⟩
    let opened := Desk.opened b sink ⟨0, 0⟩ 1
    let before : List (Desk.Operation (Scripted MemorySink)) :=
      [.station (.enqueue fields), .take "left", .station (.enqueue fields)]
    let custody (ops : List (Desk.Operation (Scripted MemorySink))) :=
      (Custody.around b).run (opened.withRecord.chronicle (ops.map Desk.Operation.recorded))
    let after := custody (before ++ [.station (.process 1)])
    Buffer.create 2 0 = .ok b ∧ after.Partitioned ∧
      (after.entriesAt .hand).map Entry.id = [1] ∧ (after.entriesAt .lost).map Entry.id = [2] ∧
      (after.entriesAt .discarded).map Entry.id = [3] ∧
      (opened.runRecorded (before ++ [.station (.process 1)])).station.DropsOnce 2 ∧
      ∃ (call : Call) (t : Station (Recorded (Scripted MemorySink))) (acts : List Act),
        (call.delivery?.map fun d => d.entry.id) = some 2 ∧
          ((custody before).run acts).Locates (opened.runRecorded before).hands call.delivery? t := by
  intro fields b sink opened before custody after
  have hb : Buffer.create 2 0 = .ok b := rfl
  obtain ⟨-, hsessions⟩ := every_entry_in_one_place hb .ample
  obtain ⟨-, hafter, -⟩ := hsessions _ sink ⟨0, 0⟩ 1 (before ++ [.station (.process 1)])
  obtain ⟨-, -, hduring⟩ := hsessions _ sink ⟨0, 0⟩ 1 before
  have hlost : (after.entriesAt .lost).map Entry.id = [2] := by decide
  let s := (opened.runRecorded before).station
  have htaken : s.dequeue = (.ok (some ⟨2, "INFO", "app", "a", 0⟩), s.dequeue.2) := by
    dsimp only [s, opened, before, sink, b, fields]
    rfl
  have hoffers : Station.Offers Station.intrude (s.batchLimit 1) s _ s.dequeue.2 := .first htaken
  obtain ⟨acts, -, hlocates⟩ :=
    hduring _ _ _ (.process (.entry hoffers (List.append_nil _).symm))
  refine ⟨hb, hafter.partitioned, by decide, hlost, by decide, hafter.dropped 2 ?_, _, _, acts, rfl,
    hlocates⟩
  exact hlost ▸ List.mem_singleton_self 2

/-! ## Order -/

/-- The entry that a station accepts when these fields are handed in. -/
def Station.acceptance {σ : Type} (s : Station σ) (f : Fields) : List Entry :=
  match (s.enqueue f).1 with
  | .ok id => [Entry.ofFields id f s.now]
  | .error _ => []

/-- What a custody has accepted grows with what the station accepts that it shows. -/
theorem Custody.accepted_enqueue {σ : Type} {w : Custody} {s : Station σ}
    (hbuffer : w.buffer = s.buffer) (hstorage : w.storage = s.storage) (f : Fields) :
    (w.perform (.enqueue f s.now)).accepted = w.accepted ++ s.acceptance f := by
  obtain ⟨answer, t, hs, hb, -, -⟩ := s.enqueue_cases f
  rw [← hbuffer, ← hstorage] at hb
  rw [Station.acceptance, hs]
  cases answer <;> simp [Custody.perform, hb]

/-- A custody puts the calls of a sink in order, with this delivery pending. -/
structure Custody.Orders {σ : Type} (w : Custody) (pending : Option Delivery)
    (s : Station (Recorded σ)) : Prop where
  orderly : w.Orderly
  shows : w.Shows Recorded.track pending s

/-- Delivery order is ingestion order.  At each moment of each course in which only the processor
takes entries out the calls are orderly.  What was accepted under a number is never changed: it is
what a producer handed in when the buffer accepted it, and no other act accepts anything.

Every session of a processor, and every session of an engine, is the course that its chronicle
gives, and the custody that follows the chronicle has made the calls that the sink has a record of.
So it has at each moment of an operation that comes next at which a call to the sink is pending.  To
keep a record of the calls does not change the session. -/
theorem deliveries_in_ingestion_order {capacity : Nat} {now : Int} {b : Buffer}
    (hb : Buffer.create capacity now = .ok b) (storage : Storage) :
    (∀ acts : List Act, (∀ a ∈ acts, a.isInternal = true) →
      ((Custody.around b storage).run acts).Orderly) ∧
    (∀ acts acts' : List Act, ((Custody.around b storage).run acts).accepted <+:
      ((Custody.around b storage).run (acts ++ acts')).accepted) ∧
    (∀ (σ : Type) (s : Station σ) (w : Custody), w.buffer = s.buffer → w.storage = s.storage →
      ∀ f, (w.perform (.enqueue f s.now)).accepted = w.accepted ++ s.acceptance f) ∧
    (∀ (w : Custody) (a : Act), (∀ f now, a ≠ .enqueue f now) →
      (w.perform a).accepted = w.accepted) ∧
    (∀ (σ : Type) [Sink σ] (sink : σ) (clock : Clock) (batch : Nat)
      (ops : List (Station.Operation σ)),
      let opened := Station.around b sink clock batch storage
      let s := opened.runRecorded ops
      let w := (Custody.around b storage).run
        (opened.withRecord.chronicle (ops.map Station.Operation.recorded))
      s.plain = opened.run ops ∧ w.Orders none s ∧
        ∀ op call t, s.AmidRun op call t → ∃ before, before <+: s.performActs op ∧
          (w.run before).Orders call.delivery? t) ∧
    (∀ (σ : Type) [Sink σ] (config : EngineConfig) (sink : σ) (clock : Clock) (opened : Engine σ),
      Engine.withSink config sink clock storage = .ok opened →
      ∀ ops : List (Engine.Operation σ),
      let e := opened.runRecorded ops
      let w := (Custody.around opened.station.buffer storage).run
        (opened.withRecord.chronicle (ops.map Engine.Operation.recorded))
      e.plain = opened.run ops ∧ w.Orders none e.station ∧
        ∀ op call t, e.AmidRun op call t → ∃ before, before <+: e.performActs op ∧
          (w.run before).Orders call.delivery? t) := by
  have hnew := Custody.inOrder_around hb storage
  refine ⟨?_, ?_, ?_, ?_, ?_, ?_⟩
  · intro acts hacts
    exact (Custody.inOrder_run hacts hnew).orderly
  · intro acts acts'
    rw [Custody.run_append]
    exact Custody.accepted_prefix_run _ acts'
  · intro σ s w hbuffer hstorage f
    exact Custody.accepted_enqueue hbuffer hstorage f
  · intro w a hother
    exact w.perform_accepted hother
  · intro σ _ sink clock batch ops opened s w
    have hfollows := opened.withRecord.run_recorded_followsBy ops
    have hw : w.InOrder := Custody.inOrder_run hfollows.course.internal hnew
    have hdescribes : w.Describes Recorded.track s :=
      hfollows.course.run _ (Custody.around_describes b sink clock batch storage)
    refine ⟨Station.runRecorded_plain opened ops, ⟨hw.orderly, hdescribes⟩, ?_⟩
    intro op call t hamid
    obtain ⟨before, hbefore, hcourse⟩ := hamid.course Recorded.tracks
    exact ⟨before, hbefore, (Custody.inOrder_run hcourse.internal hw).orderly,
      hcourse.run w hdescribes⟩
  · intro σ _ config sink clock opened he ops e w
    obtain ⟨-, hb', hopened⟩ := Engine.withSink_describes he
    have hfollows := opened.withRecord.run_recorded_followsBy ops
    have hw : w.InOrder :=
      Custody.inOrder_run hfollows.course.internal (Custody.inOrder_around hb' storage)
    have hdescribes : w.Describes Recorded.track e.station := hfollows.course.run _ hopened
    refine ⟨Engine.runRecorded_plain opened ops, ⟨hw.orderly, hdescribes⟩, ?_⟩
    intro op call t hamid
    obtain ⟨before, hbefore, hcourse⟩ := hamid.course Recorded.tracks
    exact ⟨before, hbefore, (Custody.inOrder_run hcourse.internal hw).orderly,
      hcourse.run w hdescribes⟩

/-- An entry comes in while another one is in flight, which is refused and delivered later: by a
processor, and by an engine whose threshold is one entry. -/
theorem deliveries_in_ingestion_order_of_retry :
    let fields : Fields := ⟨"INFO", "app", "a"⟩
    let b : Buffer := ⟨2, [], 1, .initial 2 0, true⟩
    let sink : Scripted MemorySink :=
      ⟨[⟨⟨0, none, [.add fields]⟩, .refuse (.unavailable "")⟩], [], [], [], .withRetention 2⟩
    let opened := Station.around b sink ⟨0, 0⟩ 1
    let custody (ops : List (Station.Operation (Scripted MemorySink))) :=
      (Custody.around b).run (opened.withRecord.chronicle (ops.map Station.Operation.recorded))
    let after := custody [.enqueue fields, .process 1, .process 2]
    let engine : Engine (Scripted MemorySink) := ⟨⟨2, 1, 1, 50⟩, opened.record (.initialized 2 1 1)⟩
    Buffer.create 2 0 = .ok b ∧ after.Orderly ∧
      after.attempts.map (fun a => (a.entry.id, a.isDelivered)) =
        [(1, false), (1, true), (2, true)] ∧
      Engine.withSink ⟨2, 1, 1, 0⟩ sink ⟨0, 0⟩ = .ok engine ∧
      ∃ (call : Call) (t : Station (Recorded (Scripted MemorySink))) (acts : List Act),
        (call.delivery?.map fun d => d.entry.id) = some 1 ∧
          t.buffer.queue.map Entry.id = [2] ∧
          ((Custody.around b).run acts).Orders call.delivery? t := by
  intro fields b sink opened custody after engine
  have hb : Buffer.create 2 0 = .ok b := rfl
  have he : Engine.withSink ⟨2, 1, 1, 0⟩ sink ⟨0, 0⟩ = .ok engine := rfl
  obtain ⟨-, -, -, -, hprocessor, hengine⟩ := deliveries_in_ingestion_order hb .ample
  obtain ⟨-, hafter, -⟩ :=
    hprocessor _ sink ⟨0, 0⟩ 1 [.enqueue fields, .process 1, .process 2]
  obtain ⟨-, -, hduring⟩ := hengine _ _ sink ⟨0, 0⟩ engine he []
  -- the entry that is handed in to the engine is delivered at once
  let handed := (engine.runRecorded []).station.enqueue fields.withDefaults
  have hhanded : handed = (.ok 1, handed.2) := by
    dsimp only [handed, engine, opened, sink, b, fields]
    rfl
  let begun : Station (Recorded (Scripted MemorySink)) :=
    { handed.2.record (.thresholdReached handed.2.buffer.size) with busy := true }
  have hbegins : (engine.runRecorded []).Begins (.addLog fields) begun 1 :=
    .addLog rfl hhanded (by dsimp only [handed, engine, opened, sink, b, fields]; decide)
  have htaken : begun.dequeue = (.ok (some ⟨1, "INFO", "app", "a", 0⟩), begun.dequeue.2) := by
    dsimp only [begun, handed, engine, opened, sink, b, fields]
    rfl
  have hoffers : Station.Offers (Engine.intrude (engine.runRecorded []).config)
      (begun.batchLimit 1) begun _ begun.dequeue.2 := .first htaken
  obtain ⟨acts, -, horders⟩ :=
    hduring _ _ _ (.batch hbegins (.entry hoffers (List.append_nil _).symm))
  exact ⟨hb, hafter.orderly, by decide, he, _, _, acts, rfl, by decide, horders⟩

end LogSpool
