import LogSpool.Proofs.Buffer.Invariant
import LogSpool.Proofs.Batch.Split
import LogSpool.Proofs.Station.Errand

/-!
# Deliveries that come to nothing

This module compares a spool that tries to deliver its oldest entry, and gets it back, with one that
never tries.  While the entry is away its place is free, so that a producer might find room where it
would else find none; but then the entry cannot get back.  If it does get back, there was room for
everybody all the time, and nobody but the count of errors can tell that it has been away.

* `told` — what the producers are told that come meanwhile.
* `StillHas` — two spools of which only the second still has the entry.
* `Buffer.enqueue_withHead`, `StillHas.foldl` — what is handed in while the entry is away, one entry
  and any number.
* `failed_delivery_unseen` — the comparison, for every delivery of a batch.
-/

namespace LogSpool

/-- Whether an intrusion hands in one entry or lets time pass. -/
def Intrusion.isVisit : Intrusion → Bool
  | .add _ | .wait _ | .setWall _ => true
  | _ => false

namespace Buffer

variable {b : Buffer}

/-- The gauges of a buffer already show its queue. -/
theorem Gauged.withQueue_queue (h : b.Gauged) : b.withQueue b.queue = b := by
  have hmetrics : b.metrics.setDepth b.queue.length = b.metrics := by
    rw [Metrics.setDepth]
    congr
    · exact h.depth.symm
    · exact h.memory.symm
  rw [Buffer.withQueue, hmetrics]

/-- Handing in an entry frees no place. -/
theorem room_of_enqueue {f : Fields} {now : Int} {shortage : Option Shortage}
    (hroom : (b.enqueue f now shortage).2.size < (b.enqueue f now shortage).2.capacity) :
    b.size < b.capacity := by
  rcases h : b.enqueue f now shortage with ⟨why | id, b'⟩ <;> rw [h] at hroom
  · obtain ⟨-, rfl | rfl⟩ := enqueue_refused h
    · exact hroom
    · exact hroom
  · obtain ⟨-, -, -, rfl⟩ := enqueue_accepted h
    simp only [accept_size, accept_capacity] at hroom
    omega

/-- Handing in an entry is the same with one entry more at the head, as long as room for that entry
is left. -/
theorem enqueue_withHead (e : Entry) {f : Fields} {now : Int}
    (hroom : (b.enqueue f now).2.size < (b.enqueue f now).2.capacity) :
    (b.withQueue (e :: b.queue)).enqueue f now =
      ((b.enqueue f now).1,
        (b.enqueue f now).2.withQueue (e :: (b.enqueue f now).2.queue)) := by
  cases hfault : f.fault? with
  | some fault => rw [enqueue_of_fault hfault, enqueue_of_fault hfault]
  | none =>
      cases hopen : b.isOpen with
      | false =>
          have hclosed : (b.withQueue (e :: b.queue)).isOpen = false := hopen
          rw [enqueue_of_closed hopen hfault, enqueue_of_closed hclosed hfault]
      | true =>
          have hbefore := room_of_enqueue hroom
          have haccepted : b.enqueue f now = (.ok b.nextId, b.accept f now) := by
            rw [enqueue, (b.refusal?_eq_none_iff f).2 ⟨hfault, hopen, hbefore⟩]
          rw [haccepted] at hroom ⊢
          simp only [accept_size, accept_capacity] at hroom
          have hafter : (b.withQueue (e :: b.queue)).refusal? f = none := by
            refine ((b.withQueue (e :: b.queue)).refusal?_eq_none_iff f).2 ⟨hfault, hopen, ?_⟩
            simpa [size] using hroom
          rw [enqueue, hafter]
          rfl

end Buffer

namespace Station

variable {σ : Type} {e : Entry} {s s' : Station σ}

/-- What the producers are told that come to a station one after the other. -/
def told : List Intrusion → Station σ → List (Except EngineError Nat)
  | [], _ => []
  | .add f :: later, s => (s.enqueue f).1 :: told later (s.enqueue f).2
  | i :: later, s => told later (s.intrude i)

/-- Two stations at the same time, both with ample storage, of which the second still has an entry
that has left the queue of the first. -/
structure StillHas (e : Entry) (s s' : Station σ) : Prop where
  buffer : s'.buffer = s.buffer.withQueue (e :: s.buffer.queue)
  clock : s'.clock = s.clock
  ample : s.storage = .ample
  ample' : s'.storage = .ample

/-- Visits free no place. -/
theorem room_of_visits {intrusions : List Intrusion}
    (hvisits : ∀ i ∈ intrusions, i.isVisit = true) {s : Station σ}
    (hroom : (intrusions.foldl intrude s).buffer.size <
      (intrusions.foldl intrude s).buffer.capacity) : s.buffer.size < s.buffer.capacity := by
  induction intrusions generalizing s with
  | nil => exact hroom
  | cons i intrusions ih =>
      have hnext := ih (fun j hj => hvisits j (List.mem_cons_of_mem i hj)) hroom
      have hvisit := hvisits i List.mem_cons_self
      cases i with
      | add f =>
          apply Buffer.room_of_enqueue
          rw [← (s.enqueue_buffer f).2]
          exact hnext
      | wait micros => exact hnext
      | setWall ms => exact hnext
      | fill f => cases hvisit
      | close => cases hvisit

namespace StillHas

/-- One entry is handed in while the other one is away. -/
theorem enqueue (h : StillHas e s s') {f : Fields}
    (hroom : (s.enqueue f).2.buffer.size < (s.enqueue f).2.buffer.capacity) :
    (s'.enqueue f).1 = (s.enqueue f).1 ∧ StillHas e (s.enqueue f).2 (s'.enqueue f).2 := by
  obtain ⟨hanswer, hbuffer⟩ := s.enqueue_buffer f
  obtain ⟨hanswer', hbuffer'⟩ := s'.enqueue_buffer f
  rw [h.ample, Storage.shortage?_ample] at hanswer hbuffer
  rw [h.ample', Storage.shortage?_ample] at hanswer' hbuffer'
  have hnow : s'.now = s.now := congrArg Clock.now h.clock
  rw [hbuffer] at hroom
  rw [hnow, h.buffer, Buffer.enqueue_withHead e hroom] at hanswer' hbuffer'
  refine ⟨hanswer'.trans hanswer.symm, ⟨?_, ?_, (s.enqueue_beside f).ample h.ample,
    (s'.enqueue_beside f).ample h.ample'⟩⟩
  · rw [hbuffer', hbuffer]
  · rw [enqueue_clock, enqueue_clock, h.clock]

/-- Any number of visits while the entry is away: as long as it can get back, everybody is told the
same. -/
theorem foldl {intrusions : List Intrusion} (hvisits : ∀ i ∈ intrusions, i.isVisit = true)
    (h : StillHas e s s')
    (hroom : (intrusions.foldl intrude s).buffer.size <
      (intrusions.foldl intrude s).buffer.capacity) :
    told intrusions s' = told intrusions s ∧
      StillHas e (intrusions.foldl intrude s) (intrusions.foldl intrude s') := by
  induction intrusions generalizing s s' with
  | nil => exact ⟨rfl, h⟩
  | cons i intrusions ih =>
      have hlater := fun j hj => hvisits j (List.mem_cons_of_mem i hj)
      have hvisit := hvisits i List.mem_cons_self
      cases i with
      | add f =>
          obtain ⟨hanswer, hnext⟩ := h.enqueue (room_of_visits hlater hroom)
          obtain ⟨htold, hend⟩ := ih hlater hnext hroom
          refine ⟨?_, hend⟩
          rw [told, told, hanswer, htold]
      | wait micros =>
          have hnext : StillHas e (s.intrude (.wait micros)) (s'.intrude (.wait micros)) :=
            ⟨h.buffer, congrArg (·.advance micros) h.clock, h.ample, h.ample'⟩
          exact ih hlater hnext hroom
      | setWall ms =>
          have hnext : StillHas e (s.intrude (.setWall ms)) (s'.intrude (.setWall ms)) :=
            ⟨h.buffer, congrArg (·.setWall ms) h.clock, h.ample, h.ample'⟩
          exact ih hlater hnext hroom
      | fill f => cases hvisit
      | close => cases hvisit

end StillHas

/-! ## An attempt and its end -/

/-- What happens while the sink is called with an entry. -/
def disturbance [Sink σ] (s : Station σ) (e : Entry) : Disturbance :=
  (Sink.receive (.log (s.deliveryOf e)) s.sink).1

/-- The station that an entry has left, when the sink has been called with it and before anybody comes. -/
def attempted [Sink σ] (s : Station σ) (e : Entry) : Station σ :=
  { s.dequeue.2 with sink := (Sink.receive (.log (s.deliveryOf e)) s.sink).2 }.passTime
    (s.disturbance e)

/-- How the attempt ends to deliver an entry, before the entry is settled. -/
def attempt [Sink σ] (s : Station σ) (e : Entry) : Answer × Station σ :=
  s.dequeue.2.callSink intrude (.log (s.deliveryOf e))

/-- The station where no delivery is attempted, after the same visits at the same times. -/
def unattempted [Sink σ] (s : Station σ) (e : Entry) : Station σ :=
  (s.disturbance e).intrusions.foldl intrude (s.passTime (s.disturbance e))

variable [Sink σ] {rest : List Entry}

/-- An attempt whose entry can get back: the station is then the one without the attempt, but for the
entry, and nobody has been told anything else. -/
theorem attempt_stillHas (hopen : s.buffer.isOpen = true) (hgauged : s.buffer.Gauged)
    (hample : s.storage = .ample)
    (hqueue : s.buffer.queue = e :: rest)
    (hvisits : ∀ i ∈ (s.disturbance e).intrusions, i.isVisit = true)
    (hroom : (s.attempt e).2.buffer.size < (s.attempt e).2.buffer.capacity) :
    told (s.disturbance e).intrusions (s.passTime (s.disturbance e)) =
        told (s.disturbance e).intrusions (s.attempted e) ∧
      (s.unattempted e).buffer =
        (s.attempt e).2.buffer.withQueue (e :: (s.attempt e).2.buffer.queue) := by
  have htaken := dequeue_of_queue hopen hqueue
  have hbuffer : s.dequeue.2.buffer = s.buffer.withQueue rest := by
    rw [htaken]
    rfl
  have hsink : s.dequeue.2.sink = s.sink := by
    rw [htaken]
    rfl
  have hclock : s.dequeue.2.clock = s.clock := by
    rw [htaken]
    rfl
  have hstart : StillHas e (s.attempted e) (s.passTime (s.disturbance e)) := by
    refine ⟨?_, ?_, ?_, hample⟩
    · have hback : (s.buffer.withQueue rest).withQueue (e :: rest) = s.buffer := by
        have hself := hgauged.withQueue_queue
        rw [hqueue] at hself
        exact hself
      show s.buffer = s.dequeue.2.buffer.withQueue (e :: s.dequeue.2.buffer.queue)
      rw [hbuffer]
      exact hback.symm
    · unfold attempted passTime moveClock
      rw [hclock]
    · rw [← hample, attempted, htaken]
      rfl
  have hend : (s.attempt e).2.buffer =
      ((s.disturbance e).intrusions.foldl intrude (s.attempted e)).buffer := by
    unfold attempt callSink attempted disturbance
    rw [hsink]
  rw [hend] at hroom ⊢
  obtain ⟨htold, hstill⟩ := hstart.foldl hvisits hroom
  exact ⟨htold, hstill.buffer⟩

/-- The loop of deliveries goes on with the attempt to deliver the oldest entry. -/
theorem deliver_attempt (hopen : s.buffer.isOpen = true) (hqueue : s.buffer.queue = e :: rest)
    (started remaining processed : Nat) :
    s.deliver intrude started (remaining + 1) processed =
      match s.attempt e with
      | (.accepted, t) =>
        (t.delivered (s.deliveryOf e)).deliver intrude started remaining (processed + 1)
      | (.refused why, t) =>
        let (error, t) := (t.markError.observeBatch started).recover e processed why
        (.failed error, t)
      | (.stalled, t) => (.abandoned, t.abandon e) := by
  obtain ⟨s₁, htaken, hdelivery⟩ :
      ∃ s₁, s.dequeue = (.ok (some e), s₁) ∧ s₁.deliveryOf e = s.deliveryOf e :=
    ⟨_, dequeue_of_queue hopen hqueue, rfl⟩
  rcases hcall : s₁.callSink intrude (.log (s.deliveryOf e)) with ⟨answer, t⟩
  have hattempt : s.attempt e = (answer, t) := by
    rw [attempt, htaken]
    exact hcall
  cases answer <;> simp only [deliver, htaken, hdelivery, hcall, hattempt]

end Station

section

variable {σ : Type} [Sink σ]

open Station

/-- A delivery that fails is not seen where the entry gets back.  A batch has delivered `n` entries and
calls the sink with the next one; meanwhile producers come and time passes, in any order.  If the sink
refuses the entry or the batch is given up, and the entry gets back to the queue, then the batch has
left the buffer that the same visits at the same times would have left with no attempt at all, and every
producer was told the same.  One more error is counted if the sink refused.  There is storage enough
all the time. -/
theorem failed_delivery_unseen {before s : Station σ} {maxItems n : Nat}
    (hloop : before.deliver Station.intrude before.clock.elapsed n 0 = (.answered n, s))
    (hlimit : n < before.batchLimit maxItems) (hopen : s.buffer.isOpen = true)
    (hgauged : s.buffer.Gauged) (hample : s.storage = .ample) {e : Entry} {rest : List Entry}
    (hqueue : s.buffer.queue = e :: rest)
    (hvisits : ∀ i ∈ (s.disturbance e).intrusions, i.isVisit = true)
    (hback : ((s.attempt e).2.requeueFront e).1 = .ok ()) :
    let result := before.process Station.intrude maxItems
    told (s.disturbance e).intrusions (s.attempted e) =
        told (s.disturbance e).intrusions (s.passTime (s.disturbance e)) ∧
      (∀ why, (s.attempt e).1 = .refused why →
        result.1 = .failed (.persistence e.id n why) ∧
          result.2.buffer = (s.unattempted e).buffer.countError) ∧
      ((s.attempt e).1 = .stalled →
        result.1 = .abandoned ∧ result.2.buffer = (s.unattempted e).buffer) := by
  intro result
  rcases hattempt : s.attempt e with ⟨answer, t⟩
  rw [hattempt] at hback
  -- there is room for the entry when the call has ended
  obtain ⟨hopen', hroom, hstorage⟩ : t.buffer.isOpen = true ∧ t.buffer.size < t.buffer.capacity ∧
      t.storage.shortage? = none := by
    obtain ⟨answer, t', hexit, hrequeues⟩ := t.requeueFront_exits e
    rw [hexit] at hback
    cases hrequeues with
    | accepted hopen' hroom hstorage => exact ⟨hopen', hroom, hstorage⟩
    | closed _ => cases hback
    | full _ _ => cases hback
    | short _ _ _ => cases hback
  obtain ⟨htold, halone⟩ :=
    attempt_stillHas hopen hgauged hample hqueue hvisits (by rw [hattempt]; exact hroom)
  rw [hattempt] at halone
  refine ⟨htold.symm, ?_⟩
  -- the loop of the whole batch goes on with the attempt
  obtain ⟨remaining, hremaining⟩ : ∃ remaining, before.batchLimit maxItems = n + (remaining + 1) :=
    ⟨before.batchLimit maxItems - n - 1, by omega⟩
  have hrest : before.deliver Station.intrude before.clock.elapsed (before.batchLimit maxItems) 0 =
      s.deliver Station.intrude before.clock.elapsed (remaining + 1) n := by
    rw [hremaining, deliver_add_of_answered hloop]
  rw [deliver_attempt hopen hqueue, hattempt] at hrest
  constructor
  · rintro why rfl
    have hcounted : (t.markError.observeBatch before.clock.elapsed).buffer =
        t.buffer.countError := if_pos hopen'
    obtain ⟨herror, hbuffer⟩ := recover_of_room (s := t.markError.observeBatch before.clock.elapsed)
      (by rw [hcounted]; exact hopen') (by rw [hcounted]; exact hroom) hstorage e n why
    rcases hrecover : (t.markError.observeBatch before.clock.elapsed).recover e n why with ⟨error, u⟩
    rw [hrecover] at herror hbuffer
    simp only [hrecover] at hrest
    obtain rfl : error = .persistence e.id n why := herror
    have hfailed : result = _ := process_of_failed hrest
    rw [hfailed, halone]
    refine ⟨rfl, hbuffer.trans ?_⟩
    rw [hcounted]
    rfl
  · rintro rfl
    have habandoned : result = _ := process_of_abandoned hrest
    rw [habandoned, halone]
    exact ⟨rfl, abandon_of_room hopen' hroom hstorage e⟩

/-- While the only entry is away one entry is handed in that is accepted and one that is not, and then
the sink refuses.  Both entries are queued in their order, and one error is counted. -/
theorem failed_delivery_unseen_of_refusal :
    let fields : Fields := ⟨"INFO", "app", "a"⟩
    let down : SinkError := .unavailable "down"
    let visits : List Intrusion := [.add fields, .wait 5, .add ⟨"", "", ""⟩]
    let sink : Scripted MemorySink :=
      { Scripted.ofSink (MemorySink.withRetention 8) with
        logs := [⟨⟨0, none, visits⟩, .refuse down⟩] }
    ∃ buffer, Buffer.create 3 0 = .ok buffer ∧
      let s := ((Station.around buffer sink ⟨0, 0⟩ 1).enqueue fields).2
      (s.process Station.intrude 0).1 = .failed (.persistence 1 0 down) ∧
        (s.process Station.intrude 0).2.buffer.queue.map Entry.id = [1, 2] ∧
        (s.process Station.intrude 0).2.buffer.metrics.totalErrors = 1 := by
  intro fields down visits sink
  have hb : Buffer.create 3 0 = .ok _ := rfl
  refine ⟨_, hb, ?_⟩
  intro s
  have hgauged : s.buffer.Gauged := by
    dsimp only [s, fields]
    exact (Buffer.gauged_create hb).accept rfl
  have hopen : s.buffer.isOpen = true := by
    dsimp only [s, fields]
    rfl
  have hample : s.storage = .ample := by
    dsimp only [s, fields]
    rfl
  have hqueue : s.buffer.queue = [⟨1, "INFO", "app", "a", 0⟩] := by
    dsimp only [s, fields]
    rfl
  have hvisits : ∀ i ∈ (s.disturbance ⟨1, "INFO", "app", "a", 0⟩).intrusions, i.isVisit = true := by
    dsimp only [s, sink, visits, fields]
    decide
  have hback : ((s.attempt ⟨1, "INFO", "app", "a", 0⟩).2.requeueFront
      ⟨1, "INFO", "app", "a", 0⟩).1 = .ok () := by
    dsimp only [s, sink, visits, fields]
    rfl
  have hrefused : (s.attempt ⟨1, "INFO", "app", "a", 0⟩).1 = .refused down := by
    dsimp only [s, sink, visits, fields]
    rfl
  have hloop : s.deliver Station.intrude s.clock.elapsed 0 0 = (.answered 0, s) := rfl
  have hlimit : 0 < s.batchLimit 0 := by
    dsimp only [s, fields]
    exact Nat.zero_lt_one
  obtain ⟨-, hseen, -⟩ :=
    failed_delivery_unseen hloop hlimit hopen hgauged hample hqueue hvisits hback
  obtain ⟨hfailed, hbuffer⟩ := hseen down hrefused
  refine ⟨hfailed, ?_, ?_⟩
  · rw [hbuffer]
    dsimp only [s, sink, visits, fields]
    rfl
  · rw [hbuffer]
    dsimp only [s, sink, visits, fields]
    rfl

end

end LogSpool
