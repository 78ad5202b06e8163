import LogSpool.Proofs.Session.Basic

/-!
# Sessions seen through a map of sinks

This module compares sessions over two sinks, of which one is an image of the other: every call is
disturbed in the same way and answered in the same way.  Then everything that is done over the first
sink looks the same over the second.  A sink that keeps a record of its calls, whatever it records,
has the sink without the record as such an image, so that a record changes nothing.

* `Station.map`, `Engine.map`, `Desk.map` — a station, an engine and a desk over the image.
* `process_map`, `addLog_map`, `shutdown_map` — each call, over the sink and over its image.
* `Station.run_map`, `Engine.run_map`, `Desk.run_map` — whole sessions.
-/

namespace LogSpool

variable {σ τ : Type}

namespace Station

/-- A station over the image of its sink. -/
def map (g : σ → τ) (s : Station σ) : Station τ :=
  { s with sink := g s.sink }

variable (g : σ → τ) (s : Station σ)

@[simp] theorem map_buffer : (s.map g).buffer = s.buffer := rfl
@[simp] theorem map_sink : (s.map g).sink = g s.sink := rfl
@[simp] theorem map_now : (s.map g).now = s.now := rfl
@[simp] theorem map_clock : (s.map g).clock = s.clock := rfl
@[simp] theorem map_busy : (s.map g).busy = s.busy := rfl
@[simp] theorem map_storage : (s.map g).storage = s.storage := rfl

/-! ## Operations of the buffer -/

theorem enqueue_map (f : Fields) :
    (s.map g).enqueue f = ((s.enqueue f).1, (s.enqueue f).2.map g) := by
  simp only [enqueue, map_buffer, map_now, map_storage]
  rcases s.buffer.enqueue f s.now s.storage.shortage? with ⟨why | id, b⟩
  · cases why <;> rfl
  · rfl

theorem dequeue_map : (s.map g).dequeue = (s.dequeue.1, s.dequeue.2.map g) := by
  simp only [dequeue, map_buffer]
  rcases s.buffer.dequeue with ⟨why | _ | e, b⟩ <;> rfl

theorem requeueFront_map (entry : Entry) :
    (s.map g).requeueFront entry =
      ((s.requeueFront entry).1, (s.requeueFront entry).2.map g) := by
  simp only [requeueFront, map_buffer, map_storage]
  rcases s.buffer.requeueFront entry s.storage.shortage? with ⟨why | u, b⟩ <;> rfl

theorem close_map : (s.map g).close = (s.close.1, s.close.2.map g) := by
  cases hopen : s.buffer.isOpen <;>
    simp only [close, map_buffer, hopen, Bool.false_eq_true, if_false, if_true] <;> rfl

theorem markProcessed_map (latency : Float) :
    (s.map g).markProcessed latency = (s.markProcessed latency).map g := by
  cases hopen : s.buffer.isOpen <;>
    simp only [markProcessed, map_buffer, map_now, hopen, Bool.false_eq_true, if_false,
      if_true] <;> rfl

theorem delivered_map (d : Delivery) : (s.map g).delivered d = (s.delivered d).map g :=
  s.markProcessed_map g d.latency

theorem recover_map (entry : Entry) (processed : Nat) (why : SinkError) :
    (s.map g).recover entry processed why =
      ((s.recover entry processed why).1, (s.recover entry processed why).2.map g) := by
  simp only [recover, requeueFront_map]
  rcases s.requeueFront entry with ⟨refusal | u, s'⟩ <;> rfl

theorem abandon_map (entry : Entry) : (s.map g).abandon entry = (s.abandon entry).map g := by
  simp only [abandon, requeueFront_map]
  rcases s.requeueFront entry with ⟨refusal | u, s'⟩ <;> rfl

theorem fillLoop_map (f : Fields) (fuel : Nat) :
    (s.map g).fillLoop f fuel = (s.fillLoop f fuel).map g := by
  induction fuel generalizing s with
  | zero => rfl
  | succ fuel ih =>
      simp only [fillLoop, enqueue_map]
      rcases s.enqueue f with ⟨why | id, s'⟩
      · rfl
      · exact ih s'

/-- Intrusions that do the same over a sink and over its image. -/
def SameIntrusions (g : σ → τ) (intrude : Station σ → Intrusion → Station σ)
    (intrude' : Station τ → Intrusion → Station τ) : Prop :=
  ∀ s i, intrude' (s.map g) i = (intrude s i).map g

theorem sameIntrusions_intrude : SameIntrusions g intrude intrude := by
  intro s i
  cases i with
  | add f => exact congrArg Prod.snd (s.enqueue_map g f)
  | fill f => exact fillLoop_map g s f _
  | close => exact congrArg Prod.snd (s.close_map g)
  | wait micros => rfl
  | setWall ms => rfl

/-! ## Batches -/

section Batch

variable {g} [Sink σ] [Sink τ] {intrude : Station σ → Intrusion → Station σ}
  {intrude' : Station τ → Intrusion → Station τ}

theorem callSink_map_of_preserves {call : Call} (hg : Sink.Preserves g call)
    (h : SameIntrusions g intrude intrude') : (s.map g).callSink intrude' call =
      ((s.callSink intrude call).1, (s.callSink intrude call).2.map g) := by
  let started : Station σ := { s with sink := (Sink.receive call s.sink).2 }
  have hpending : (Sink.receive call s.sink).1.intrusions.foldl intrude'
      ((started.passTime (Sink.receive call s.sink).1).map g) =
        ((Sink.receive call s.sink).1.intrusions.foldl intrude
          (started.passTime (Sink.receive call s.sink).1)).map g :=
    List.foldl_hom (map g) h
  have hstarted : ({ s.map g with sink := g (Sink.receive call s.sink).2 } : Station τ).passTime
      (Sink.receive call s.sink).1 = (started.passTime (Sink.receive call s.sink).1).map g := rfl
  simp only [callSink, map_sink, hg.receive]
  rw [hstarted, hpending, map_sink, hg.settle]
  rfl

theorem callSink_map (hg : Sink.Morphism g) (h : SameIntrusions g intrude intrude') (call : Call) :
    (s.map g).callSink intrude' call =
      ((s.callSink intrude call).1, (s.callSink intrude call).2.map g) :=
  callSink_map_of_preserves s (hg.preserves call) h

/-- A loop of deliveries makes no other calls. -/
theorem deliver_map_of_preserves (hg : ∀ d, Sink.Preserves g (.log d))
    (h : SameIntrusions g intrude intrude') (started remaining processed : Nat) :
    (s.map g).deliver intrude' started remaining processed =
      ((s.deliver intrude started remaining processed).1,
        (s.deliver intrude started remaining processed).2.map g) := by
  -- both loops take the same entry out and get the same answer, so they go on or end together
  induction remaining generalizing processed s with
  | zero => rfl
  | succ remaining ih =>
      simp only [deliver, dequeue_map]
      rcases s.dequeue with ⟨why | _ | e, s₁⟩
      · rfl
      · rfl
      · have hdelivery : (s₁.map g).deliveryOf e = s₁.deliveryOf e := rfl
        simp only [hdelivery, callSink_map_of_preserves _ (hg _) h]
        rcases s₁.callSink intrude (.log (s₁.deliveryOf e)) with ⟨_ | why | _, s₂⟩
        · simp only [delivered_map]
          exact ih _ (processed + 1)
        · have hcounted : (s₂.map g).markError.observeBatch started =
              (s₂.markError.observeBatch started).map g := rfl
          simp only [hcounted, recover_map]
        · simp only [abandon_map]

theorem deliver_map (hg : Sink.Morphism g) (h : SameIntrusions g intrude intrude')
    (started remaining processed : Nat) : (s.map g).deliver intrude' started remaining processed =
      ((s.deliver intrude started remaining processed).1,
        (s.deliver intrude started remaining processed).2.map g) :=
  deliver_map_of_preserves s (fun d => hg.preserves (.log d)) h started remaining processed

theorem persistSnapshot_map (hg : Sink.Morphism g) (h : SameIntrusions g intrude intrude') :
    (s.map g).persistSnapshot intrude' =
      ((s.persistSnapshot intrude).1, (s.persistSnapshot intrude).2.map g) := by
  simp only [persistSnapshot, map_buffer]
  cases s.buffer.snapshot with
  | error why => rfl
  | ok metrics =>
      simp only [callSink_map _ hg h]
      rcases s.callSink intrude (.snapshot metrics) with ⟨_ | why | _, s'⟩ <;> rfl

theorem process_map (hg : Sink.Morphism g) (h : SameIntrusions g intrude intrude')
    (maxItems : Nat) : (s.map g).process intrude' maxItems =
      ((s.process intrude maxItems).1, (s.process intrude maxItems).2.map g) := by
  have hlimit : (s.map g).batchLimit maxItems = s.batchLimit maxItems := rfl
  simp only [process, map_clock, hlimit, deliver_map _ hg h]
  rcases s.deliver intrude s.clock.elapsed (s.batchLimit maxItems) 0 with ⟨n | why | _, s₁⟩
  · cases n with
    | zero => rfl
    | succ n =>
        simp only [persistSnapshot_map _ hg h]
        rcases s₁.persistSnapshot intrude with ⟨u | why | _, s₂⟩ <;> rfl
  · rfl
  · rfl

/-! ## Calls of an engine -/

theorem processAlone_map (hg : Sink.Morphism g) (h : SameIntrusions g intrude intrude')
    (maxItems : Nat) : (s.map g).processAlone intrude' maxItems =
      ((s.processAlone intrude maxItems).1, (s.processAlone intrude maxItems).2.map g) := by
  have hmark : ({ s.map g with busy := true } : Station τ) =
      ({ s with busy := true } : Station σ).map g := rfl
  cases hbusy : s.busy with
  | true => simp only [processAlone, map_busy, hbusy, if_true]
  | false =>
      simp only [processAlone, map_busy, hmark, process_map _ hg h, hbusy, Bool.false_eq_true,
        if_false]
      rfl

theorem addLog_map (hg : Sink.Morphism g) (config : EngineConfig)
    (h : SameIntrusions g intrude intrude') (f : Fields) : (s.map g).addLog config intrude' f =
      ((s.addLog config intrude f).1, (s.addLog config intrude f).2.map g) := by
  simp only [addLog, enqueue_map]
  rcases s.enqueue f.withDefaults with ⟨why | id, s₁⟩
  · rfl
  · simp only [map_buffer]
    cases s₁.buffer.depth with
    | error why => rfl
    | ok depth =>
        have hrecord : (s₁.map g).record (.thresholdReached depth) =
            (s₁.record (.thresholdReached depth)).map g := rfl
        simp only [hrecord, processAlone_map _ hg h]
        split
        · rcases (s₁.record (.thresholdReached depth)).processAlone intrude
            config.processBatchSize with ⟨report | why | _, s₂⟩ <;> rfl
        · rfl

theorem fillThrough_map (hg : Sink.Morphism g) (config : EngineConfig)
    (h : SameIntrusions g intrude intrude') (f : Fields) (fuel : Nat) :
    (s.map g).fillThrough config intrude' f fuel =
      (s.fillThrough config intrude f fuel).map g := by
  induction fuel generalizing s with
  | zero => rfl
  | succ fuel ih =>
      simp only [fillThrough, addLog_map _ hg config h]
      rcases s.addLog config intrude f with ⟨id | why | _, s₁⟩
      · exact ih s₁
      · dsimp only
        split
        · rfl
        · exact ih s₁
      · exact ih s₁

/-- What a sink does to its own engine is the same over its image. -/
theorem sameIntrusions_intrudeThrough (hg : Sink.Morphism g) (config : EngineConfig)
    (depth : Nat) :
    SameIntrusions g (intrudeThrough config depth) (intrudeThrough config depth) := by
  induction depth with
  | zero => exact fun _ _ => rfl
  | succ depth ih =>
      intro s i
      cases i with
      | add f => exact congrArg Prod.snd (addLog_map s hg config ih f)
      | fill f => exact fillThrough_map s hg config ih f _
      | close => exact congrArg Prod.snd (s.close_map g)
      | wait micros => rfl
      | setWall ms => rfl

end Batch

/-! ## Sessions of a buffer with its processor -/

/-- The same operation over another sink, where the changes of the sink are carried over. -/
def Operation.lift (up : (τ → τ) → σ → σ) : Operation τ → Operation σ
  | .enqueue f => .enqueue f
  | .process maxItems => .process maxItems
  | .close => .close
  | .moveClock move => .moveClock move
  | .changeSink change => .changeSink (up change)

variable {g} [Sink σ] [Sink τ] {up : (τ → τ) → σ → σ}

theorem perform_map (hg : Sink.Morphism g) (hup : ∀ change x, g (up change x) = change (g x))
    (op : Operation τ) : (s.map g).perform op = (s.perform (op.lift up)).map g := by
  cases op with
  | enqueue f => exact congrArg Prod.snd (s.enqueue_map g f)
  | process maxItems =>
      exact congrArg Prod.snd (process_map s hg (sameIntrusions_intrude g) maxItems)
  | close => exact congrArg Prod.snd (s.close_map g)
  | moveClock move => rfl
  | changeSink change =>
      exact congrArg (fun x => ({ s with sink := x } : Station τ)) (hup change s.sink).symm

theorem run_map (hg : Sink.Morphism g) (hup : ∀ change x, g (up change x) = change (g x))
    (ops : List (Operation τ)) :
    (s.map g).run ops = (s.run (ops.map (Operation.lift up))).map g := by
  rw [run, run, List.foldl_map]
  exact List.foldl_hom (map g) fun t op => perform_map t hg hup op

end Station

/-! ## Sessions of an engine -/

namespace Engine

/-- An engine over the image of its sink. -/
def map (g : σ → τ) (e : Engine σ) : Engine τ :=
  { e with station := e.station.map g }

variable {g : σ → τ} [Sink σ] [Sink τ] (e : Engine σ)

theorem health_map (hg : Sink.Morphism g) :
    (e.map g).health = (e.health.1, e.health.2.map g) := by
  have hsame := Station.sameIntrusions_intrudeThrough hg e.config nesting
  have hconfig : (e.map g).config = e.config := rfl
  have hstation : (e.map g).station = e.station.map g := rfl
  simp only [health, onStation, hconfig, hstation, Station.map_buffer]
  cases e.station.buffer.depth with
  | error why => rfl
  | ok depth =>
      simp only [Engine.intrude, Station.callSink_map _ hg hsame]
      rcases e.station.callSink (Station.intrudeThrough e.config nesting) .ping with
        ⟨_ | why | _, s⟩ <;> rfl

theorem drain_map (hg : Sink.Morphism g) {intrude : Station σ → Intrusion → Station σ}
    {intrude' : Station τ → Intrusion → Station τ} (h : Station.SameIntrusions g intrude intrude')
    (batch fuel drained : Nat) (s : Station σ) : drain intrude' batch fuel drained (s.map g) =
      ((drain intrude batch fuel drained s).1, (drain intrude batch fuel drained s).2.map g) := by
  induction fuel generalizing drained s with
  | zero => rfl
  | succ fuel ih =>
      simp only [drain, Station.process_map _ hg h]
      rcases s.process intrude batch with ⟨report | why | _, s₁⟩
      · dsimp only
        split
        · rfl
        · exact ih _ s₁
      · rfl
      · rfl

theorem closeAfter_map (hg : Sink.Morphism g) (drained : Nat) (s : Station σ) :
    closeAfter drained (s.map g) =
      ((closeAfter drained s).1, (closeAfter drained s).2.map g) := by
  have hsink (t : Station σ) : (t.map g).closeSink = t.closeSink.map g :=
    congrArg (fun x => ({ t with sink := x } : Station τ)) (hg.close t.sink)
  simp only [closeAfter, Station.close_map, hsink]
  rfl

theorem shutdown_map (hg : Sink.Morphism g) :
    (e.map g).shutdown = (e.shutdown.1, e.shutdown.2.map g) := by
  have hdrain : drain (Engine.intrude (e.map g).config) (e.map g).config.processBatchSize
      drainLimit 0 { (e.map g).station with busy := true } =
        ((drain (Engine.intrude e.config) e.config.processBatchSize drainLimit 0
            { e.station with busy := true }).1,
          (drain (Engine.intrude e.config) e.config.processBatchSize drainLimit 0
            { e.station with busy := true }).2.map g) :=
    drain_map hg (Station.sameIntrusions_intrudeThrough hg e.config nesting)
      e.config.processBatchSize drainLimit 0 { e.station with busy := true }
  dsimp only at hdrain
  -- the image is busy, or closed, exactly if the engine is
  by_cases hbusy : e.station.busy = true
  · have hbusy' : (e.map g).station.busy = true := hbusy
    simp only [shutdown, onStation, if_pos hbusy, if_pos hbusy']
  · have hbusy' : ¬ (e.map g).station.busy = true := hbusy
    by_cases hclosed : (!e.station.buffer.isOpen) = true
    · have hclosed' : (!(e.map g).station.buffer.isOpen) = true := hclosed
      simp only [shutdown, onStation, if_neg hbusy, if_neg hbusy', if_pos hclosed, if_pos hclosed']
    · have hclosed' : ¬ (!(e.map g).station.buffer.isOpen) = true := hclosed
      simp only [shutdown, onStation, if_neg hbusy, if_neg hbusy', if_neg hclosed, if_neg hclosed',
        hdrain]
      rcases drain (Engine.intrude e.config) e.config.processBatchSize drainLimit 0
        { e.station with busy := true } with ⟨drained | why | _, s⟩
      · simp only [closeAfter_map hg]
        rfl
      · rfl
      · rfl

/-- The same operation over another sink, where the changes of the sink are carried over. -/
def Operation.lift (up : (τ → τ) → σ → σ) : Operation τ → Operation σ
  | .addLog f => .addLog f
  | .process maxItems => .process maxItems
  | .health => .health
  | .shutdown => .shutdown
  | .moveClock move => .moveClock move
  | .changeSink change => .changeSink (up change)

variable {up : (τ → τ) → σ → σ}

theorem perform_map (hg : Sink.Morphism g) (hup : ∀ change x, g (up change x) = change (g x))
    (op : Operation τ) : (e.map g).perform op = (e.perform (op.lift up)).map g := by
  have hsame := Station.sameIntrusions_intrudeThrough hg e.config nesting
  cases op with
  | addLog f =>
      exact congrArg (fun s => { e with station := s.2 })
        (Station.addLog_map e.station hg e.config hsame f)
  | process maxItems =>
      exact congrArg (fun s => { e with station := s.2 })
        (Station.processAlone_map e.station hg hsame maxItems)
  | health => exact congrArg Prod.snd (e.health_map hg)
  | shutdown => exact congrArg Prod.snd (e.shutdown_map hg)
  | moveClock move => rfl
  | changeSink change =>
      exact congrArg (fun x => { e with station := { e.station with sink := x } })
        (hup change e.station.sink).symm

theorem run_map (hg : Sink.Morphism g) (hup : ∀ change x, g (up change x) = change (g x))
    (ops : List (Operation τ)) :
    (e.map g).run ops = (e.run (ops.map (Operation.lift up))).map g := by
  rw [run, run, List.foldl_map]
  exact List.foldl_hom (map g) fun e op => perform_map e hg hup op

end Engine

/-! ## Sessions at a desk -/

namespace Desk

/-- A desk over the image of its sink. -/
def map (g : σ → τ) (d : Desk σ) : Desk τ :=
  { d with station := d.station.map g }

variable (g : σ → τ) (d : Desk σ)

theorem take_map (hand : String) : (d.map g).take hand = ((d.take hand).1, (d.take hand).2.map g) := by
  have hstation : (d.map g).station = d.station.map g := rfl
  simp only [take, hstation, Station.dequeue_map]
  rcases d.station.dequeue with ⟨why | _ | e, s⟩ <;> rfl

theorem giveBack_map (hand : String) :
    (d.map g).giveBack hand = ((d.giveBack hand).1, (d.giveBack hand).2.map g) := by
  have hstation : (d.map g).station = d.station.map g := rfl
  have hhands : (d.map g).hands = d.hands := rfl
  simp only [giveBack, hstation, hhands, Station.requeueFront_map]
  cases d.hands.get? hand with
  | none => rfl
  | some e =>
      dsimp only
      rcases d.station.requeueFront e with ⟨why | u, s⟩ <;> rfl

/-- The same operation over another sink, where the changes of the sink are carried over. -/
def Operation.lift (up : (τ → τ) → σ → σ) : Operation τ → Operation σ
  | .take hand => .take hand
  | .giveBack hand => .giveBack hand
  | .discard hand => .discard hand
  | .station op => .station (op.lift up)

variable {g} [Sink σ] [Sink τ] {up : (τ → τ) → σ → σ}

theorem perform_map (hg : Sink.Morphism g) (hup : ∀ change x, g (up change x) = change (g x))
    (op : Operation τ) : (d.map g).perform op = (d.perform (op.lift up)).map g := by
  cases op with
  | take hand => exact congrArg Prod.snd (d.take_map g hand)
  | giveBack hand => exact congrArg Prod.snd (d.giveBack_map g hand)
  | discard hand => rfl
  | station op => exact congrArg (Desk.mk · d.hands) (d.station.perform_map hg hup op)

theorem run_map (hg : Sink.Morphism g) (hup : ∀ change x, g (up change x) = change (g x))
    (ops : List (Operation τ)) :
    (d.map g).run ops = (d.run (ops.map (Operation.lift up))).map g := by
  rw [run, run, List.foldl_map]
  exact List.foldl_hom (map g) fun d op => perform_map d hg hup op

end Desk

end LogSpool
