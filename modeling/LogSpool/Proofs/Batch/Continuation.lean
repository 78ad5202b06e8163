import LogSpool.Proofs.Batch.Cancellation

/-!
# Batches one after the other

This module says what a batch leaves for the next one.  As long as every delivery is accepted, a batch
leaves the sink and the clocks as a rehearsal does, and then calls the sink with a snapshot.  To most
sinks a snapshot makes no difference: then the answers to all entries that follow are known before the
first batch, however the entries are put into batches.

* `Sink.rehearsed` — the clocks and the sink after a rehearsal; `rehearse_append` puts two together.
* `Sink.Indifferent` — a sink whose answers to deliveries do not depend on snapshots;
  `Scripted.indifferent` for a memory sink behind a script.
* `Delivers.rehearsed_of_answered`, `process_continues` — what a loop of deliveries and a batch leave.
* `process_offered`, `process_indifferent` — a batch as a round of deliveries that a rehearsal tells, and
  what is left to tell of the entries after it.
-/

namespace LogSpool

variable {σ τ : Type}

/-! ## Rehearsals that go on -/

/-- The clocks and the sink after the deliveries of some entries, one after the other, if nobody else
does anything. -/
def Sink.rehearsed [Sink σ] : Clock → σ → List Entry → Clock × σ
  | clock, x, [] => (clock, x)
  | clock, x, e :: later =>
    let d := e.deliveryAt clock.now
    rehearsed ((Sink.receive (.log d) x).1.lapse clock) (Sink.ask (.log d) x).2 later

namespace Sink

variable [Sink σ] [Sink τ]

/-- A rehearsal goes on where its first part has ended. -/
theorem rehearse_append (clock : Clock) (x : σ) (entries more : List Entry) :
    rehearse clock x (entries ++ more) = rehearse clock x entries ++
      rehearse (rehearsed clock x entries).1 (rehearsed clock x entries).2 more := by
  induction entries generalizing clock x with
  | nil => rfl
  | cons e later ih => rw [List.cons_append, rehearse, ih, rehearse, rehearsed, List.cons_append]

/-- A rehearsal, cut behind a number of entries. -/
theorem rehearse_split (clock : Clock) (x : σ) (entries : List Entry) (n : Nat) :
    rehearse clock x entries = rehearse clock x (entries.take n) ++
      rehearse (rehearsed clock x (entries.take n)).1 (rehearsed clock x (entries.take n)).2
        (entries.drop n) := by
  rw [← rehearse_append, List.take_append_drop]

/-- A condition that lasts while a sink is called lasts through a rehearsal. -/
theorem rehearsed_lasts {P : σ → Prop} (h : ∀ {x} (call : Call), P x → P (ask call x).2)
    (clock : Clock) {x : σ} (hx : P x) (entries : List Entry) :
    P (rehearsed clock x entries).2 := by
  induction entries generalizing clock x with
  | nil => exact hx
  | cons e later ih => exact ih _ (h _ hx)

/-- A sink under which deliveries look the same is left in the same way. -/
theorem rehearsed_map {g : σ → τ} (hg : ∀ d, Sink.Preserves g (.log d)) (clock : Clock) (x : σ)
    (entries : List Entry) : rehearsed clock (g x) entries =
      ((rehearsed clock x entries).1, g (rehearsed clock x entries).2) := by
  induction entries generalizing clock x with
  | nil => rfl
  | cons e later ih =>
      have hask : (ask (.log (e.deliveryAt clock.now)) (g x)).2 =
          g (ask (.log (e.deliveryAt clock.now)) x).2 := by
        rw [ask, (hg _).receive, (hg _).settle]
        rfl
      rw [rehearsed, rehearsed, hask, (hg _).receive, ih]

end Sink

/-! ## Offers -/

/-- Which entries were offered, and with which answers: what is left of deliveries without their times. -/
def offersOf (made : List (Delivery × Answer)) : List (Entry × Answer) :=
  made.map fun one => (one.1.entry, one.2)

theorem offersOf_append (made made' : List (Delivery × Answer)) :
    offersOf (made ++ made') = offersOf made ++ offersOf made' :=
  List.map_append

theorem offersOf_eq_zip (made : List (Delivery × Answer)) :
    offersOf made = (made.map (·.1.entry)).zip (made.map (·.2)) :=
  List.zip_map'.symm

/-- The entries that were taken are those that were offered and accepted. -/
theorem takenOf_eq_offersOf (made : List (Delivery × Answer)) :
    takenOf made = ((offersOf made).filter fun offer => offer.2 = .accepted).map (·.1) := by
  rw [offersOf, List.filter_map, List.map_map]
  rfl

/-- Where the first failure stands depends on the answers only. -/
theorem offersOf_untilFailure {made made' : List (Delivery × Answer)}
    (h : offersOf made = offersOf made') :
    offersOf (untilFailure made) = offersOf (untilFailure made') := by
  induction made generalizing made' with
  | nil =>
      obtain rfl : made' = [] := List.map_eq_nil_iff.1 h.symm
      rfl
  | cons one later ih =>
      cases made' with
      | nil => simp [offersOf] at h
      | cons one' later' =>
          obtain ⟨hfirst, hlater⟩ := List.cons.inj h
          have hanswer : one.2 = one'.2 := (Prod.mk.inj hfirst).2
          rw [untilFailure, untilFailure, hanswer]
          split
          · exact congrArg₂ List.cons hfirst (ih hlater)
          · exact congrArg (· :: []) hfirst

/-- If the first part is accepted the first failure comes after it. -/
theorem untilFailure_append_of_accepted {made : List (Delivery × Answer)}
    (h : ∀ one ∈ made, one.2 = .accepted) (made' : List (Delivery × Answer)) :
    untilFailure (made ++ made') = made ++ untilFailure made' := by
  induction made with
  | nil => rfl
  | cons one later ih =>
      rw [List.cons_append, untilFailure, if_pos (h one List.mem_cons_self),
        ih fun other hother => h other (List.mem_cons_of_mem one hother), List.cons_append]

/-- If the first part is not accepted nothing is made after it. -/
theorem untilFailure_append_of_failure {made : List (Delivery × Answer)}
    (h : ¬ ∀ one ∈ made, one.2 = .accepted) (made' : List (Delivery × Answer)) :
    untilFailure (made ++ made') = untilFailure made := by
  induction made with
  | nil => exact absurd (fun _ hnone => nomatch hnone) h
  | cons one later ih =>
      rw [List.cons_append, untilFailure, untilFailure]
      split
      · next hone =>
          rw [ih fun hlater => h (List.forall_mem_cons.2 ⟨hone, hlater⟩)]
      · rfl

/-! ## Sinks that do not care for snapshots -/

/-- A sink whose answers to deliveries do not depend on a snapshot that it is called with before, nor on
the time that this call takes. -/
def Sink.Indifferent [Sink σ] (P : σ → Prop) : Prop :=
  ∀ {x} (m : Metrics) (clock : Clock) (entries : List Entry), P x →
    offersOf (rehearse ((receive (.snapshot m) x).1.lapse clock) (ask (.snapshot m) x).2 entries) =
      offersOf (rehearse clock x entries)

/-- Two memory sinks behind scripts that will give the same answers to deliveries. -/
structure Scripted.SameAnswers (x y : Scripted MemorySink) : Prop where
  logs : y.logs = x.logs
  isDown : y.inner.isDown = x.inner.isDown
  failNextLogs : y.inner.failNextLogs = x.inner.failNextLogs

namespace Scripted.SameAnswers

variable {x y : Scripted MemorySink}

/-- A snapshot changes nothing about the answers. -/
theorem ask_snapshot (m : Metrics) (x : Scripted MemorySink) :
    SameAnswers x (Sink.ask (.snapshot m) x).2 := by
  have hinner : (x.inner.insertMetrics m).2.isDown = x.inner.isDown ∧
      (x.inner.insertMetrics m).2.failNextLogs = x.inner.failNextLogs := by
    unfold MemorySink.insertMetrics
    split
    · exact ⟨rfl, rfl⟩
    · split <;> exact ⟨rfl, rfl⟩
  change SameAnswers x (Scripted.settle (.snapshot m) (Scripted.receive (.snapshot m) x).2).2
  rw [settle]
  split
  · exact ⟨rfl, rfl, rfl⟩
  · exact ⟨rfl, rfl, rfl⟩
  · exact ⟨rfl, hinner.1, hinner.2⟩

/-- Two deliveries of one entry are answered in the same way. -/
theorem ask_log (h : SameAnswers x y) (d d' : Delivery) (hentry : d'.entry = d.entry) :
    (Sink.ask (.log d') y).1 = (Sink.ask (.log d) x).1 ∧
      SameAnswers (Sink.ask (.log d) x).2 (Sink.ask (.log d') y).2 := by
  have haction : nextAction y.logs = nextAction x.logs := by rw [h.logs]
  have hinner : (y.inner.insertLog d').1 = (x.inner.insertLog d).1 ∧
      (y.inner.insertLog d').2.isDown = (x.inner.insertLog d).2.isDown ∧
      (y.inner.insertLog d').2.failNextLogs = (x.inner.insertLog d).2.failNextLogs := by
    unfold MemorySink.insertLog
    rw [h.isDown, h.failNextLogs, hentry]
    split
    · exact ⟨rfl, h.isDown, h.failNextLogs⟩
    · split <;> exact ⟨rfl, rfl, rfl⟩
  change (settle (.log d') (receive (.log d') y).2).1 = (settle (.log d) (receive (.log d) x).2).1 ∧
    SameAnswers (settle (.log d) (receive (.log d) x).2).2 (settle (.log d') (receive (.log d') y).2).2
  simp only [receive, take, settle, haction, List.head?_cons]
  cases (nextAction x.logs).1.verdict with
  | passOn => exact ⟨hinner.1, rfl, hinner.2.1, hinner.2.2⟩
  | stall => exact ⟨rfl, rfl, h.isDown, h.failNextLogs⟩
  | refuse why => exact ⟨rfl, rfl, h.isDown, h.failNextLogs⟩

theorem offersOf_rehearse (h : SameAnswers x y) (clock clock' : Clock) (entries : List Entry) :
    offersOf (Sink.rehearse clock' y entries) = offersOf (Sink.rehearse clock x entries) := by
  induction entries generalizing clock clock' x y with
  | nil => rfl
  | cons e later ih =>
      obtain ⟨hanswer, hafter⟩ := h.ask_log (e.deliveryAt clock.now)
        (e.deliveryAt clock'.now) rfl
      have hlater := ih hafter
        ((Sink.receive (.log (e.deliveryAt clock.now)) x).1.lapse clock)
        ((Sink.receive (.log (e.deliveryAt clock'.now)) y).1.lapse clock')
      rw [Sink.rehearse, Sink.rehearse, hanswer]
      exact congrArg ((e, _) :: ·) hlater

end Scripted.SameAnswers

/-- A memory sink behind a script does not care for snapshots. -/
theorem Scripted.indifferent {P : Scripted MemorySink → Prop} : Sink.Indifferent P :=
  fun m _ _ _ => (SameAnswers.ask_snapshot m _).offersOf_rehearse _ _ _

/-! ## Loops and batches -/

namespace Station

variable [Sink σ] {P : σ → Prop} {notes : σ → List (Call × Answer)} {s s' : Station σ}

/-- A loop of deliveries that were all accepted leaves the clocks and the sink as a rehearsal does. -/
theorem Delivers.rehearsed_of_answered (h : Sink.Answers P notes id)
    {started remaining processed n : Nat} {outcome : Outcome Nat}
    (hloop : Delivers intrude started remaining processed s outcome s') (hs : P s.sink)
    (hanswered : outcome = .answered n) :
    (s'.clock, s'.sink) = Sink.rehearsed s.clock s.sink (s.buffer.queue.take remaining) := by
  induction hloop with
  | limit => rfl
  | closed _ => cases hanswered
  | empty _ hempty => rw [hempty]; rfl
  | @accepted remaining processed s s₁ s₂ s' e outcome htaken hcall _ ih =>
      obtain ⟨-, ⟨rest, hqueue, hb⟩, -, -⟩ := dequeue_taken htaken
      obtain ⟨hdelivery, -, rfl⟩ := callSink_rehearsed h hs htaken hcall
      rw [hdelivery] at ih
      have hlater := ih (by rw [(delivered_beside _ _).sink]; exact h.lasts _ hs) hanswered
      rw [(delivered_beside _ _).sink, delivered_clock, delivered_buffer,
        Buffer.markProcessed_queue, hb] at hlater
      rw [hlater, hqueue]
      rfl
  | refused _ _ _ => cases hanswered
  | stalled _ _ => cases hanswered

/-- Whoever hands a snapshot over to a sink that only waits leaves the sink and the clocks behind that
call. -/
theorem persistSnapshot_waits (h : Sink.Answers P notes id) (hs : P s.sink)
    (hopen : s.buffer.isOpen = true) :
    (s.persistSnapshot intrude).2.sink = (Sink.ask (.snapshot s.buffer.metrics) s.sink).2 ∧
      (s.persistSnapshot intrude).2.clock =
        (Sink.receive (.snapshot s.buffer.metrics) s.sink).1.lapse s.clock := by
  have hsnapshot : s.buffer.snapshot = .ok s.buffer.metrics := Buffer.read_of_open hopen _
  rw [persistSnapshot, hsnapshot]
  dsimp only
  rw [callSink_wait (h.waits _ hs)]
  cases (Sink.ask (.snapshot s.buffer.metrics) s.sink).1 <;> exact ⟨rfl, rfl⟩

/-- A batch that is answered after some deliveries leaves the sink and the clocks behind these and behind
a snapshot. -/
theorem process_continues (h : Sink.Answers P notes id) (hs : P s.sink)
    (hopen : s.buffer.isOpen = true) (hfits : s.buffer.size ≤ s.buffer.capacity)
    (hstorage : s.storage.shortage? = none) {maxItems : Nat} {report : BatchReport}
    (hprocess : s.process intrude maxItems = (.answered report, s')) (hsome : report.processed ≠ 0) :
    ∃ m, let last := Sink.rehearsed s.clock s.sink (s.buffer.queue.take (s.batchLimit maxItems))
      s'.sink = (Sink.ask (.snapshot m) last.2).2 ∧
        s'.clock = (Sink.receive (.snapshot m) last.2).1.lapse last.1 := by
  rcases hend : s.deliver intrude s.clock.elapsed (s.batchLimit maxItems) 0 with ⟨n | why | _, t⟩
  · have hloop := delivers_of_deliver hend
    obtain ⟨r, -, heffect, -, hhears, -⟩ := hloop.round intrude_lapses h hs hopen hfits hstorage
    have hlast := hloop.rehearsed_of_answered h hs rfl
    obtain ⟨hsink, hclock⟩ := persistSnapshot_waits h hhears.lasts heffect.isOpen
    rcases process_of_answered hend with ⟨rfl, hs'⟩ | ⟨-, -, hs'⟩ | ⟨-, -, hs'⟩ <;>
      rw [hs'] at hprocess
    · obtain ⟨hreport, -⟩ := Prod.mk.inj hprocess
      obtain rfl := Outcome.answered.inj hreport
      exact absurd rfl hsome
    · cases hprocess
    · obtain ⟨-, rfl⟩ := Prod.mk.inj hprocess
      refine ⟨t.buffer.metrics, ?_⟩
      rw [← hlast]
      exact ⟨hsink, hclock⟩
  · rw [process_of_failed hend] at hprocess
    cases hprocess
  · rw [process_of_abandoned hend] at hprocess
    cases hprocess

end Station

/-- A sink that is confined stays so during a batch. -/
theorem Station.keeps_sink [Sink σ] {allowed : Intrusion → Prop} {P : σ → Prop}
    {intrude : Station σ → Intrusion → Station σ} {busy : Bool}
    (hconfined : Sink.Confined allowed P) (h : OnlyErrands intrude busy) :
    Keeps intrude busy allowed P fun _ => True where
  produces := h.produces
  confined := hconfined
  kept := ⟨fun _ => trivial, fun _ _ _ => trivial, fun _ _ _ => trivial, fun _ => trivial⟩
  intrude _ _ _ := trivial

/-- A batch for which there is storage is a round, and its deliveries are those of a rehearsal, up to the
first failure. -/
theorem Station.process_offered [Sink σ] {P : σ → Prop} (hP : Sink.Answering P)
    {s : Station (Traced σ)} (hs : P s.sink.inner) (hopen : s.buffer.isOpen = true)
    (hfits : s.buffer.size ≤ s.buffer.capacity) (hstorage : s.storage.shortage? = none) {n : Nat}
    (hn : 0 < n) :
    let result := s.process intrude n
    ∃ r : Round, r.Effect n s.buffer result.2.buffer ∧ (∃ elapsed, result.1 = r.outcome elapsed) ∧
      deliveriesIn result.2.sink.trace = deliveriesIn s.sink.trace ++ r.deliveries ∧
      r.deliveries = untilFailure (Sink.rehearse s.clock s.sink.inner (s.buffer.queue.take n)) ∧
      P result.2.sink.inner ∧ (s.storage = .ample → result.2.storage = .ample) := by
  intro result
  obtain ⟨r, htells, hcalls, hdeliveries⟩ := process_deliveries hP n hs hopen hfits hstorage
  have hlimit : s.batchLimit n = n := if_pos hn
  have hkeeps := keeps_sink (hP.toConfined.comap Traced.inner_morphism)
    (intrude_onlyErrands (σ := Traced σ) s.busy)
  have hkept := process_keeps hkeeps n ⟨rfl, hs, trivial⟩
  rw [hlimit] at htells hdeliveries
  obtain ⟨-, -, -, hample⟩ :=
    process_round intrude_lapses (Traced.answers hP) n hs hopen hfits hstorage
  refine ⟨r, htells.effect, htells.outcome, ?_, hdeliveries, hkept.sink, hample⟩
  rw [deliveriesIn_eq, hcalls, deliveriesOf_append, r.deliveriesOf_calls, ← deliveriesIn_eq]

/-- Over a sink that does not care for snapshots, a batch that is answered leaves the answers to all further
entries as they were known before it. -/
theorem Station.process_indifferent [Sink σ] {P : σ → Prop} (hP : Sink.Answering P)
    (hindifferent : Sink.Indifferent P) {s s' : Station (Traced σ)} (hs : P s.sink.inner)
    (hopen : s.buffer.isOpen = true) (hfits : s.buffer.size ≤ s.buffer.capacity)
    (hstorage : s.storage.shortage? = none) {n : Nat} {report : BatchReport}
    (hprocess : s.process intrude n = (.answered report, s')) (hsome : report.processed ≠ 0)
    (entries : List Entry) :
    let last := Sink.rehearsed s.clock s.sink.inner (s.buffer.queue.take (s.batchLimit n))
    offersOf (Sink.rehearse s'.clock s'.sink.inner entries) =
      offersOf (Sink.rehearse last.1 last.2 entries) := by
  intro last
  obtain ⟨m, hsink, hclock⟩ :=
    process_continues (Traced.answers hP) hs hopen hfits hstorage hprocess hsome
  have hlast : last = _ := Sink.rehearsed_map
    (fun d => Traced.inner_morphism.preserves (.log d)) s.clock s.sink _
  have hlasts : P last.2 :=
    Sink.rehearsed_lasts (fun call hx => hP.settle call (hP.receive call hx)) s.clock hs _
  have hinner : s'.sink.inner = (Sink.ask (.snapshot m) last.2).2 := by
    rw [hsink, hlast]
    rfl
  have hlapse : s'.clock = (Sink.receive (.snapshot m) last.2).1.lapse last.1 := by
    rw [hclock, hlast]
    rfl
  rw [hinner, hlapse]
  exact hindifferent m last.1 entries hlasts

end LogSpool
