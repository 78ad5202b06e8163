import LogSpool.Proofs.Custody.Closed
import LogSpool.Proofs.Session.Closed
import LogSpool.Sink.Memory
import LogSpool.Sink.Scripted

/-!
# Closing is final

This module holds the result that closing a buffer is final, whoever has closed it and whatever was
under way then: a call from outside, or a producer that came while a batch was waiting for the sink.

* `History.leads`, `History.regular` — the batches of an engine begin in the custody of its entries,
  and at a buffer that is open or has been shut.
* `Station.ClosedDuring`, `Station.Finishes` — a batch in whose midst the buffer is closed, and what
  is left of it.
* `closed_is_final` — for every course of acts, every session, and every batch that is under way.
-/

namespace LogSpool

variable {σ : Type}

namespace Station

/-! ## Histories -/

section

variable [Sink σ] {s s' : Station (Traced σ)}

theorem Quiet.leads (h : Quiet s s') :
    Custody.Leads (·.Describes (fun _ _ => True) s) (·.Describes (fun _ _ => True) s') := by
  -- most quiet steps leave alone what a custody describes
  have hsame {s' : Station (Traced σ)} (hbuffer : s'.buffer = s.buffer)
      (hstorage : s'.storage = s.storage) (hlost : s'.lostIds = s.lostIds) :
      Custody.Leads (·.Describes (fun _ _ => True) s) (·.Describes (fun _ _ => True) s') :=
    ⟨[], .of_imp fun _ hw => ⟨hw.buffer.trans hbuffer.symm, hw.storage.trans hstorage.symm,
      hw.flight, hw.lost.trans hlost.symm, trivial⟩⟩
  cases h with
  | errand herrand => exact herrand.produces.follows.course
  | mark busy => exact hsame rfl rfl rfl
  | @note event hevent =>
      refine hsame rfl rfl ((Beside.refl s).record ?_).lostIds
      cases event <;> simp_all [Event.component, Event.lostId?]
  | pingStarted => exact hsame rfl rfl rfl
  | pingEnded => exact hsame rfl rfl rfl
  | sinkClosed => exact hsame rfl rfl rfl
  | sinkChanged change => exact hsame rfl rfl rfl

theorem Quiet.regular (h : Quiet s s') (hs : s.Regular) : s'.Regular := by
  cases h with
  | errand herrand => exact herrand.regular hs
  | _ => exact ⟨fun hclosed => (hs.shut hclosed).of_same rfl rfl, hs.batch⟩

namespace History

variable {locked : Bool} {calls : List (Outcome BatchReport)}

/-- A history is a course of acts. -/
theorem leads (h : History locked s calls s') :
    Custody.Leads (·.Describes (fun _ _ => True) s) (·.Describes (fun _ _ => True) s') := by
  induction h with
  | refl => exact ⟨[], .of_imp fun _ hw => hw⟩
  | quiet _ hquiet ih => exact ih.trans hquiet.leads
  | batch maxItems _ hbusy herrands ih =>
      exact ih.trans
        (process_follows Sink.tracks_true maxItems (herrands.of_eq hbusy).produces).course

/-- Whatever has happened, a closed buffer has been shut. -/
theorem regular (h : History locked s calls s') (hs : s.Regular) : s'.Regular := by
  induction h with
  | refl => exact hs
  | quiet _ hquiet ih => exact hquiet.regular ih
  | batch maxItems _ hbusy herrands ih =>
      exact (process_moves maxItems (herrands.of_eq hbusy)).regular ih

end History

end

/-! ## A batch in whose midst the buffer is closed -/

section

variable [Sink σ] {intrude : Station σ → Intrusion → Station σ} {maxItems : Nat}
  {s t closed : Station σ} {e : Entry}

/-- A batch of the station `s` calls the sink with an entry at `t`, and while this call is pending
somebody comes and leaves the buffer closed. -/
structure ClosedDuring (intrude : Station σ → Intrusion → Station σ) (maxItems : Nat)
    (s : Station σ) (e : Entry) (t closed : Station σ) : Prop where
  offers : Offers intrude (s.batchLimit maxItems) s e t
  intruded : ∃ before after,
    (Sink.receive (.log (t.deliveryOf e)) t.sink).1.intrusions = before ++ after ∧
      before.foldl intrude (t.calling (.log (t.deliveryOf e))) = closed
  closed : closed.buffer.isOpen = false

/-- What is left of a batch when its buffer is closed.  The entry in flight has not been lost
before; whoever else comes while its call is pending finds the buffer shut, and is refused; and the
batch ends with this call. -/
structure Finishes (intrude : Station σ → Intrusion → Station σ) (maxItems : Nat)
    (s : Station σ) (e : Entry) (t closed : Station σ) : Prop where
  shut : closed.Shut
  not_lost : e.id ∉ closed.lostIds
  rests : ∀ intrusions : List Intrusion, Rests closed (intrusions.foldl intrude closed)
  refuses : ∀ (intrusions : List Intrusion) (hands : Hands),
    Desk.Refuses ⟨intrusions.foldl intrude closed, hands⟩
  ends : WindsUp (t.deliveryOf e) closed (s.process intrude maxItems).2

/-- Every batch in whose midst the buffer is closed finishes. -/
theorem ClosedDuring.finishes {capacity : Nat} {now : Int} {b : Buffer}
    (hb : Buffer.create capacity now = .ok b) {w : Custody} (hw : Custody.Reachable b w)
    (hdescribes : w.Describes (fun _ _ => True) s) (hs : s.Regular)
    (h : OnlyErrands intrude s.busy) (hduring : ClosedDuring intrude maxItems s e t closed) :
    Finishes intrude maxItems s e t closed := by
  obtain ⟨hoffers, ⟨before, after, hsplit, hclosed⟩, hisOpen⟩ := hduring
  -- the entry is in flight when the sink is called with it
  obtain ⟨acts, hacts⟩ := h.produces.named
  obtain ⟨hbusy, taken, -, hcourse⟩ := hoffers.course Sink.tracks_true hacts
  have hoffered := hcourse.run w hdescribes
  have herrands : Errands (t.calling (.log (t.deliveryOf e))) closed := by
    rw [← hclosed]
    exact h.foldl before hbusy
  have hlost : closed.lostIds = t.lostIds := herrands.produces.beside.lostIds
  have ht := hoffers.regular h hs
  have hregular : closed.Regular :=
    herrands.regular ⟨fun hshut => (ht.shut hshut).of_same rfl rfl, ht.batch⟩
  have hbusy' : closed.busy = s.busy := herrands.aside.busy.trans hbusy
  have hrests (intrusions : List Intrusion) : Rests closed (intrusions.foldl intrude closed) :=
    ((h.of_eq hbusy').foldl intrusions rfl).rests hisOpen
  refine ⟨hregular.shut hisOpen, ?_, hrests, ?_, process_windsUp h hoffers hsplit hclosed hisOpen⟩
  · rw [hlost, ← hoffered.lost]
    exact ((hw.run taken).conserved hb).flight_not_lost hoffered.flight
  · intro intrusions hands
    exact Desk.refuses_of_closed (d := ⟨intrusions.foldl intrude closed, hands⟩)
      ((hrests intrusions).buffer ▸ hisOpen) ((hrests intrusions).defaultBatch ▸ hregular.batch)

end

end Station

/-! ## Sessions -/

/-- The station of every session at a new desk is described by a custody that acts and records have
led to. -/
theorem Desk.serveAll_describes [Sink σ] (b : Buffer) (sink : σ) (clock : Clock) (batch : Nat)
    (storage : Storage) (requests : List (Desk.Request σ)) : ∃ w, Custody.Reachable b w ∧
      w.Describes (fun _ _ => True)
        ((Desk.opened b sink clock batch storage).serveAll requests).station := by
  have hplain : (Desk.opened b sink clock batch storage).serveAll requests = _ :=
    Desk.serveAll_plain (Desk.opened b sink clock batch storage).withRecord requests
  have hopened : Desk.Reached b (Desk.opened b sink clock batch storage).withRecord :=
    ⟨_, .opened storage, Custody.around_describes b sink clock batch storage, rfl⟩
  obtain ⟨w, hw, hstation, -⟩ := hopened.serveAll requests
  rw [hplain]
  exact ⟨w, hw, hstation.buffer, hstation.storage, hstation.flight, hstation.lost, trivial⟩

/-- A new buffer is open, and a batch may take at least one entry by default. -/
theorem Station.around_regular {capacity : Nat} {now : Int} {b : Buffer}
    (hb : Buffer.create capacity now = .ok b) (sink : σ) (clock : Clock) (batch : Nat)
    (storage : Storage) : (Station.around b sink clock batch storage).Regular where
  shut hclosed := by
    have hopen : b.isOpen = true := congrArg Buffer.isOpen (Buffer.create_ok hb)
    exact absurd (hopen.symm.trans hclosed) (by decide)
  batch := Nat.le_max_right batch 1

theorem Engine.withTrace_regular {config : EngineConfig} {sink : σ} {clock : Clock}
    {storage : Storage} {e : Engine σ} (he : Engine.withSink config sink clock storage = .ok e) :
    e.withTrace.station.Regular := by
  obtain ⟨-, b, hb, hstation⟩ := Engine.withSink_eq he
  have haround := Station.around_regular hb sink clock e.config.processBatchSize storage
  rw [Engine.withTrace, hstation]
  exact ⟨fun hclosed => (haround.shut hclosed).of_same rfl rfl, haround.batch⟩

/-- A session of an engine that leaves it closed leaves it at its end. -/
theorem Engine.run_ended [Sink σ] {config : EngineConfig} {sink : σ} {clock : Clock}
    {storage : Storage} {e : Engine σ} (he : Engine.withSink config sink clock storage = .ok e)
    {ops : List (Engine.Operation σ)} (hclosed : (e.run ops).isOpen = false) : (e.run ops).Ended := by
  obtain ⟨calls, hhistory⟩ := e.run_history ops
  have hregular := hhistory.regular (Engine.withTrace_regular he)
  have hinner : (e.run ops).station.Regular := by
    rw [← e.runTraced_inner ops]
    exact ⟨fun hclosed => (hregular.shut hclosed).of_same rfl rfl, hregular.batch⟩
  obtain ⟨hidle, -⟩ := Engine.run_course he ops
  exact Engine.ended_of_regular hinner hidle hclosed

/-- Closed is final.  Once the buffer has been closed no act moves it any more, and an entry that is
in flight then is delivered or lost once, and does not go back.  So it is

* in every course of acts;
* in every session at a desk, after which nothing more happens, and in a batch in whose midst a
  producer closes the buffer;
* in every session of an engine likewise, and in every batch of its history, whoever has started it:
  also one that is handed in through the threshold, and those of a shutdown. -/
theorem closed_is_final {capacity : Nat} {now : Int} {b : Buffer}
    (hb : Buffer.create capacity now = .ok b) :
    (∀ w, Custody.Reachable b w → w.buffer.isOpen = false →
      w.buffer.queue = [] ∧ w.buffer.metrics.queueDepth = 0 ∧ w.buffer.metrics.memoryBytes = 0 ∧
        (∀ d, w.inFlight = some d → d.entry.id ∉ w.lost.map Entry.id) ∧
        ∀ acts, w.Closes (w.run acts)) ∧
    (∀ (σ : Type) [Sink σ] (sink : σ) (clock : Clock) (batch : Nat) (storage : Storage)
      (requests : List (Desk.Request σ)),
      let d := (Desk.opened b sink clock batch storage).serveAll requests
      (d.station.buffer.isOpen = false → d.Ended) ∧
        ∀ maxItems e t closed,
          Station.ClosedDuring Station.intrude maxItems d.station e t closed →
          Station.Finishes Station.intrude maxItems d.station e t closed) ∧
    (∀ (σ : Type) [Sink σ] (config : EngineConfig) (sink : σ) (clock : Clock) (storage : Storage)
      (e : Engine σ), Engine.withSink config sink clock storage = .ok e →
      (∀ ops : List (Engine.Operation σ), ((e.run ops).isOpen = false → (e.run ops).Ended) ∧
        ∃ calls, Station.History true e.withTrace.station calls (e.runTraced ops).station) ∧
      ∀ calls s, Station.History true e.withTrace.station calls s →
        (s.buffer.isOpen = false → s.Shut ∧ ∀ hands, Desk.Refuses ⟨s, hands⟩) ∧
        ∀ depth maxItems entry t closed, s.busy = true →
          Station.ClosedDuring (Station.intrudeThrough e.config depth) maxItems s entry t closed →
          Station.Finishes (Station.intrudeThrough e.config depth) maxItems s entry t closed) := by
  refine ⟨?_, ?_, ?_⟩
  · intro w hw hclosed
    obtain ⟨hqueue, hdepth, hmemory⟩ := (hw.sound hb).1.buffer.closed hclosed
    exact ⟨hqueue, hdepth, hmemory, fun _ => (hw.conserved hb).flight_not_lost,
      Custody.closes_run hclosed⟩
  · intro σ _ sink clock batch storage requests d
    have hd : d.station.Regular := Desk.serveAll_regular (Station.around_regular hb ..) requests
    obtain ⟨w, hw, hdescribes⟩ := Desk.serveAll_describes b sink clock batch storage requests
    refine ⟨Desk.ended_of_regular hd, fun maxItems e t closed hduring => ?_⟩
    exact hduring.finishes hb hw hdescribes hd (Station.intrude_onlyErrands _)
  · intro σ _ config sink clock storage e he
    obtain ⟨-, b', hb', hstation⟩ := Engine.withSink_eq he
    have hnew := Engine.withTrace_regular he
    have hopened : (Custody.around b' storage).Describes (fun _ _ => True) e.withTrace.station := by
      rw [Engine.withTrace, hstation]
      exact ⟨rfl, rfl, rfl, rfl, trivial⟩
    constructor
    · exact fun ops => ⟨Engine.run_ended he, e.run_history ops⟩
    · intro calls s hhistory
      have hregular := hhistory.regular hnew
      refine ⟨fun hclosed => ⟨hregular.shut hclosed, fun hands => ?_⟩, ?_⟩
      · exact Desk.refuses_of_closed (d := ⟨s, hands⟩) hclosed hregular.batch
      · intro depth maxItems entry t closed hbusy hduring
        obtain ⟨acts, hcourse⟩ := hhistory.leads
        have herrands := Station.intrudeThrough_onlyErrands (σ := Traced σ) e.config depth
        exact hduring.finishes hb' ((Custody.Reachable.opened storage).run acts)
          (hcourse.run _ hopened) hregular (herrands.of_eq hbusy)

/-- While the sink is called with an entry another one is handed in and then the buffer is closed, and
the sink refuses the call: the first entry is lost, the other one was discarded, and that is all that
ever happens. -/
theorem closed_is_final_of_refused_delivery :
    let fields : Fields := ⟨"INFO", "app", "a"⟩
    let b : Buffer := ⟨2, [], 1, .initial 2 0, true⟩
    let sink : Scripted MemorySink :=
      ⟨[⟨⟨0, none, [.add fields, .close, .add fields]⟩, .refuse (.unavailable "")⟩], [], [], [],
        .withRetention 1⟩
    let handedIn := (Desk.opened b sink ⟨0, 0⟩ 1).serveAll [.operation (.station (.enqueue fields))]
    let e : Entry := ⟨1, "INFO", "app", "a", 0⟩
    let t := handedIn.station.dequeue.2
    let closed := [.add fields, .close].foldl Station.intrude (t.calling (.log (t.deliveryOf e)))
    let after := (Desk.opened b sink ⟨0, 0⟩ 1).serveAll
      [.operation (.station (.enqueue fields)), .operation (.station (.process 2))]
    Buffer.create 2 0 = .ok b ∧
      Station.ClosedDuring Station.intrude 2 handedIn.station e t closed ∧
      Station.Finishes Station.intrude 2 handedIn.station e t closed ∧
      after.station.lostIds = [1] ∧ after.Ended := by
  intro fields b sink handedIn e t closed after
  have hb : Buffer.create 2 0 = .ok b := rfl
  obtain ⟨-, hdesk, -⟩ := closed_is_final hb
  obtain ⟨-, hfinishes⟩ := hdesk _ sink ⟨0, 0⟩ 1 .ample [.operation (.station (.enqueue fields))]
  obtain ⟨hended, -⟩ := hdesk _ sink ⟨0, 0⟩ 1 .ample
    [.operation (.station (.enqueue fields)), .operation (.station (.process 2))]
  have hduring : Station.ClosedDuring Station.intrude 2 handedIn.station e t closed :=
    ⟨.first (Prod.ext (by decide) rfl), ⟨[.add fields, .close], [.add fields], by decide, rfl⟩, by decide⟩
  exact ⟨hb, hduring, hfinishes 2 e t closed hduring, by decide, hended (by decide)⟩

end LogSpool
