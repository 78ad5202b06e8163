import LogSpool.Proofs.Custody.Representation
import LogSpool.Proofs.Session.Custody
import LogSpool.Proofs.Station.Offer
import LogSpool.Sink.Memory
import LogSpool.Sink.Scripted

/-!
# Every buffer is well-formed at every moment

This module carries the representation of a buffer over to sessions.  Here a session may ask for
anything that the buffer can do, also that a delivery or a failure is recorded on behalf of nobody;
and besides the states that it leaves behind, the moments in the midst of a batch count, when the
sink acts on the buffer.

* `Desk.Request`, `Desk.serveAll` — sessions in which everything may be asked for.
* `Station.Sound` — a buffer is well-formed now, and at each moment of a batch that begins now.
* `representation_invariant` — every session leads to such states only.
-/

namespace LogSpool

variable {σ : Type}

/-! ## Requests -/

namespace Desk

/-- What can be asked for at a desk: an operation, or that a delivery or a failure is recorded. -/
inductive Request (σ : Type) where
  | operation (op : Operation σ)
  | markProcessed (latency : Float)
  | markError

/-- The same request, where the sink has a record. -/
def Request.recorded : Request σ → Request (Recorded σ)
  | .operation op => .operation op.recorded
  | .markProcessed latency => .markProcessed latency
  | .markError => .markError

variable [Sink σ]

/-- Serves a request; the answer is not kept. -/
def serve (d : Desk σ) : Request σ → Desk σ
  | .operation op => d.perform op
  | .markProcessed latency => { d with station := d.station.markProcessed latency }
  | .markError => { d with station := d.station.markError }

/-- Serves requests one after the other. -/
def serveAll (d : Desk σ) (requests : List (Request σ)) : Desk σ :=
  requests.foldl serve d

/-- The same request over another sink, where the changes of the sink are carried over. -/
def Request.lift {τ : Type} (up : (σ → σ) → τ → τ) : Request σ → Request τ
  | .operation op => .operation (op.lift up)
  | .markProcessed latency => .markProcessed latency
  | .markError => .markError

theorem serve_map {τ : Type} [Sink τ] {g : τ → σ} {up : (σ → σ) → τ → τ} (hg : Sink.Morphism g)
    (hup : ∀ change x, g (up change x) = change (g x)) (d : Desk τ) (r : Request σ) :
    (d.map g).serve r = (d.serve (r.lift up)).map g := by
  cases r with
  | operation op => exact d.perform_map hg hup op
  | markProcessed latency =>
      exact congrArg (Desk.mk · d.hands) (d.station.markProcessed_map g latency)
  | markError => rfl

theorem serveAll_map {τ : Type} [Sink τ] {g : τ → σ} {up : (σ → σ) → τ → τ}
    (hg : Sink.Morphism g) (hup : ∀ change x, g (up change x) = change (g x)) (d : Desk τ)
    (requests : List (Request σ)) :
    (d.map g).serveAll requests = (d.serveAll (requests.map (Request.lift up))).map g := by
  rw [serveAll, serveAll, List.foldl_map]
  exact List.foldl_hom (map g) fun d r => serve_map hg hup d r

theorem serveAll_plain (d : Desk (Recorded σ)) (requests : List (Request σ)) :
    d.plain.serveAll requests = (d.serveAll (requests.map Request.recorded)).plain := by
  have hlift : requests.map Request.recorded = requests.map (Request.lift Recorded.onInner) := by
    refine List.map_congr_left fun r _ => ?_
    cases r with
    | operation op => exact congrArg Request.operation op.recorded_eq_lift
    | markProcessed latency => rfl
    | markError => rfl
  rw [hlift]
  exact serveAll_map Recorded.morphism (fun _ _ => rfl) d requests

/-- A desk that is described by a custody which acts and records have led to. -/
def Reached (b : Buffer) (d : Desk (Recorded σ)) : Prop :=
  ∃ w, Custody.Reachable b w ∧ Described w d

theorem Reached.serve {b : Buffer} {d : Desk (Recorded σ)} (h : Reached b d) (r : Request σ) :
    Reached b (d.serve r.recorded) := by
  obtain ⟨w, hw, hdescribed⟩ := h
  cases r with
  | operation op =>
      exact ⟨_, hw.run _, perform_described hdescribed op⟩
  | markProcessed latency =>
      have hbeside := d.station.markProcessed_beside latency
      have hbuffer : w.buffer.markProcessed latency d.station.now =
          (d.station.markProcessed latency).buffer := by
        rw [d.station.markProcessed_buffer latency, hdescribed.station.buffer]
      have hstorage : w.storage = (d.station.markProcessed latency).storage := by
        rw [d.station.markProcessed_storage latency, hdescribed.station.storage]
      exact ⟨_, hw.record latency d.station.now,
        hdescribed.station.of_beside hbeside hbuffer hstorage rfl rfl, hdescribed.hands⟩
  | markError =>
      have hbeside : d.station.Beside d.station.markError := ⟨rfl, rfl, rfl, id⟩
      have hbuffer : w.buffer.markError = d.station.markError.buffer :=
        congrArg Buffer.markError hdescribed.station.buffer
      exact ⟨_, hw.act .countError,
        hdescribed.station.of_beside hbeside hbuffer hdescribed.station.storage rfl rfl,
        hdescribed.hands⟩

theorem Reached.serveAll {b : Buffer} {d : Desk (Recorded σ)} (h : Reached b d)
    (requests : List (Request σ)) : Reached b (d.serveAll (requests.map Request.recorded)) := by
  induction requests generalizing d with
  | nil => exact h
  | cons r requests ih => exact ih (h.serve r)

end Desk

/-! ## Moments -/

namespace Station

variable [Sink σ]

/-- The buffer of a station is well-formed now, and at each moment of a batch that begins now: when
the sink is called with an entry, and after anything that it does before it answers; and again when
the loop of deliveries has ended and the sink is called with a snapshot.  The entry that it is
called with has admissible fields. -/
structure Sound (intrude : Station σ → Intrusion → Station σ) (s : Station σ) : Prop where
  buffer : s.buffer.WellFormed
  entry : ∀ {limit e t}, Offers intrude limit s e t → e.fields.Admissible
  batch : ∀ {limit e t}, Offers intrude limit s e t → ∀ intrusions : List Intrusion,
    (intrusions.foldl intrude t).buffer.WellFormed
  snapshot : ∀ (started limit : Nat) (intrusions : List Intrusion),
    (intrusions.foldl intrude (s.deliver intrude started limit 0).2).buffer.WellFormed

/-- A station is sound if it is described by a custody that acts and records have led to. -/
theorem sound_of_describes {capacity : Nat} {now : Int} {b : Buffer}
    (hb : Buffer.create capacity now = .ok b) {w : Custody} (hw : Custody.Reachable b w)
    {intrude : Station σ → Intrusion → Station σ} {s : Station σ}
    (hdescribes : w.Describes (fun _ _ => True) s) (h : OnlyProduces intrude s.busy) :
    s.Sound intrude := by
  -- producers lead from one well-formed buffer to the next
  have hintrusions {w' : Custody} (hw' : Custody.Reachable b w') {pending : Option Delivery}
      {t : Station σ} (hshows : w'.Shows (fun _ _ => True) pending t) (hbusy : t.busy = s.busy)
      (intrusions : List Intrusion) : (intrusions.foldl intrude t).buffer.WellFormed := by
    obtain ⟨acts, hacts⟩ := h.foldl intrusions hbusy
    rw [← (hshows.of_produces hacts).buffer]
    exact ((hw'.run acts).sound hb).1.buffer
  obtain ⟨_, hnamed⟩ := h.named
  constructor
  · exact hintrusions hw hdescribes rfl []
  · intro limit e t hoffers
    obtain ⟨-, acts, -, hcourse⟩ := hoffers.course Sink.tracks_true hnamed
    have hpending := hcourse.run w hdescribes
    apply ((hw.run acts).sound hb).1.entries .flight
    simp [Custody.entriesAt, hpending.flight, deliveryOf]
  · intro limit e t hoffers intrusions
    obtain ⟨hbusy, acts, -, hcourse⟩ := hoffers.course Sink.tracks_true hnamed
    exact hintrusions (hw.run acts) (hcourse.run w hdescribes) hbusy intrusions
  · intro started limit intrusions
    have hfollows := deliver_follows Sink.tracks_true started limit 0 h
    obtain ⟨acts, hcourse⟩ := hfollows.course
    exact hintrusions (hw.run acts) (hcourse.run w hdescribes) hfollows.busy intrusions

end Station

/-- Every session of an engine leaves a well-formed buffer. -/
theorem Engine.run_wellFormed [Sink σ] {config : EngineConfig} {sink : σ} {clock : Clock}
    {storage : Storage} {e : Engine σ} (he : Engine.withSink config sink clock storage = .ok e)
    (ops : List (Engine.Operation σ)) : (e.run ops).station.buffer.WellFormed := by
  obtain ⟨-, hb, acts, -, hdescribes⟩ := Engine.run_course he ops
  rw [← hdescribes.buffer]
  exact (((Custody.Reachable.opened storage).run acts).sound hb).1.buffer

/-- The representation of a buffer.  Whatever anybody does, in whatever order and under every
interleaving, the buffer is well-formed, its capacity is the one that it was made with, and every
entry has admissible fields wherever it is.  So it is after every session at a desk, after every
session of an engine, and at each moment of a batch that follows. -/
theorem representation_invariant {capacity : Nat} {now : Int} {b : Buffer}
    (hb : Buffer.create capacity now = .ok b) :
    (∀ w, Custody.Reachable b w → w.Sound ∧ w.buffer.capacity = capacity) ∧
    (∀ (σ : Type) [Sink σ] (sink : σ) (clock : Clock) (batch : Nat) (storage : Storage)
      (requests : List (Desk.Request σ)),
      let d := (Desk.opened b sink clock batch storage).serveAll requests
      d.station.Sound Station.intrude ∧ d.station.buffer.capacity = capacity ∧
        ∀ e ∈ d.hands.entries, e.fields.Admissible) ∧
    (∀ (σ : Type) [Sink σ] (config : EngineConfig) (sink : σ) (clock : Clock) (storage : Storage)
      (e : Engine σ), Engine.withSink config sink clock storage = .ok e →
      ∀ ops : List (Engine.Operation σ),
      let after := (e.run ops).station
      Station.Sound (Engine.intrude e.config) { after with busy := true } ∧
        after.buffer.capacity = e.config.bufferCapacity) := by
  refine ⟨fun w hw => hw.sound hb, ?_, ?_⟩
  · intro σ _ sink clock batch storage requests d
    let recorded := (Desk.opened b sink clock batch storage).withRecord.serveAll
      (requests.map Desk.Request.recorded)
    have hplain : d = recorded.plain :=
      Desk.serveAll_plain (Desk.opened b sink clock batch storage).withRecord requests
    have hopened : Desk.Reached b (Desk.opened b sink clock batch storage).withRecord :=
      ⟨_, .opened storage, Custody.around_describes b sink clock batch storage, rfl⟩
    obtain ⟨w, hw, hstation, hhands⟩ := hopened.serveAll requests
    obtain ⟨hsound, hcapacity⟩ := hw.sound hb
    have hdescribes : w.Describes (fun _ _ => True) recorded.plain.station :=
      ⟨hstation.buffer, hstation.storage, hstation.flight, hstation.lost, trivial⟩
    rw [hplain]
    refine ⟨?_, ?_, ?_⟩
    · exact Station.sound_of_describes hb hw hdescribes (Station.intrude_onlyProduces _)
    · rw [← hdescribes.buffer]
      exact hcapacity
    · intro e he
      apply hsound.entries .hand
      have hheld : e ∈ w.hands.entries := hhands ▸ he
      exact List.mem_append_left _ hheld
  · intro σ _ config sink clock storage e he ops after
    obtain ⟨-, hb', acts, -, hrun⟩ := Engine.run_course he ops
    have hw := (Custody.Reachable.opened (b := e.station.buffer) storage).run acts
    constructor
    · exact Station.sound_of_describes hb' hw (hrun.mark true)
        (Engine.intrude_onlyProduces e.config)
    · rw [← hrun.buffer]
      exact (hw.sound hb').2

/-- A caller holds an entry.  While the sink is called with the next one it fills the buffer, and
then it refuses, so that the entry is lost: the buffer is full and well-formed. -/
theorem representation_invariant_of_full_buffer :
    let fields : Fields := ⟨"INFO", "app", "a"⟩
    let b : Buffer := ⟨2, [], 1, .initial 2 0, true⟩
    let sink : Scripted MemorySink :=
      ⟨[⟨⟨0, none, [.fill fields]⟩, .refuse (.unavailable "")⟩], [], [], [], .withRetention 1⟩
    let d := (Desk.opened b sink ⟨0, 0⟩ 1).serveAll
      [.operation (.station (.enqueue fields)), .operation (.take "left"),
        .operation (.station (.enqueue fields)), .operation (.station (.process 1)),
        .markProcessed 0.0]
    Buffer.create 2 0 = .ok b ∧ d.station.lostIds = [2] ∧ d.station.buffer.size = 2 ∧
      d.station.Sound Station.intrude :=
  ⟨rfl, rfl, rfl,
    ((representation_invariant (show Buffer.create 2 0 = .ok _ from rfl)).2.1 _ _ _ _ .ample _).1⟩

end LogSpool
