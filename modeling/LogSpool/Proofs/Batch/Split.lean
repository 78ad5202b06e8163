import LogSpool.Proofs.Sink.Obliging
import LogSpool.Proofs.Station.Kept
import LogSpool.Sink.Memory

/-!
# A batch in two parts

This module compares one batch with two shorter ones that follow each other.  A loop of deliveries can
be cut at any number: what is left of it is the loop that goes on from there.  The second batch, though,
counts from zero again and starts at another time, and in between the books of the process are kept;
so its loop is followed beside the rest of the first one, step by step.

* `deliver_add` — a loop of deliveries, cut in two.
* `Alike` — two stations that differ in the books of the process at most.  No operation tells them
  apart; `Alike.deliver` says so of a whole loop.
* `process_obliging` — over a sink that obliges, a batch ends where its loop of deliveries does.
* `splitting_unobservable` — one batch of `a + b` entries, or a batch of `a` and a batch of `b`.
-/

namespace LogSpool

/-- The same error in a batch that had delivered `n` entries more before. -/
def EngineError.later (n : Nat) : EngineError → EngineError
  | .persistence id processed why => .persistence id (n + processed) why
  | .requeueLoss id processed reason why => .requeueLoss id (n + processed) reason why
  | why => why

/-- The error of a delivery tells the larger count. -/
theorem EngineError.processed_later (n : Nat) {why : EngineError} (h : why.isRefusal = false) :
    (why.later n).processed = n + why.processed := by
  cases why with
  | persistence id processed why => rfl
  | requeueLoss id processed reason why => rfl
  | _ => cases h

/-- The outcome of a batch whose loop of deliveries ended in some way. -/
def Outcome.timed (elapsed : Nat) : Outcome Nat → Outcome BatchReport
  | .answered processed => .answered ⟨processed, elapsed⟩
  | .failed why => .failed why
  | .abandoned => .abandoned

/-- The same outcome of a loop that had delivered `n` entries more before. -/
def Outcome.later (n : Nat) : Outcome Nat → Outcome Nat
  | .answered processed => .answered (n + processed)
  | .failed why => .failed (why.later n)
  | .abandoned => .abandoned

section

variable {outcome : Outcome Nat} {elapsed : Nat} (elapsed' n : Nat)

theorem Outcome.answered_later {r : BatchReport} (h : outcome.timed elapsed = .answered r) :
    (outcome.later n).timed elapsed' = .answered ⟨n + r.processed, elapsed'⟩ := by
  cases outcome with
  | answered processed =>
      obtain rfl := Outcome.answered.inj h
      rfl
  | failed why => cases h
  | abandoned => cases h

theorem Outcome.failed_later {why : EngineError} (h : outcome.timed elapsed = .failed why) :
    outcome = .failed why ∧ (outcome.later n).timed elapsed' = .failed (why.later n) := by
  cases outcome with
  | answered processed => cases h
  | failed why' =>
      obtain rfl := Outcome.failed.inj h
      exact ⟨rfl, rfl⟩
  | abandoned => cases h

theorem Outcome.abandoned_later (h : outcome.timed elapsed = .abandoned) :
    (outcome.later n).timed elapsed' = .abandoned := by
  cases outcome with
  | answered processed => cases h
  | failed why => cases h
  | abandoned => rfl

end

namespace Station

variable {σ : Type}

/-! ## Loops that are cut in two -/

section

variable [Sink σ] {intrude : Station σ → Intrusion → Station σ}

/-- A loop of deliveries, cut in two: the second part goes on where the first has come to an answer,
and else there is none. -/
theorem deliver_add (started a b processed : Nat) (s : Station σ) :
    s.deliver intrude started (a + b) processed =
      match s.deliver intrude started a processed with
      | (.answered n, t) => t.deliver intrude started b n
      | ended => ended := by
  induction a generalizing processed s with
  | zero => rw [Nat.zero_add, deliver]
  | succ a ih =>
      rw [Nat.add_right_comm, deliver, deliver]
      rcases htaken : s.dequeue with ⟨why | _ | e, s₁⟩
      · rfl
      · -- the queue is empty, and it is so for the second part too
        obtain ⟨-, -, rfl⟩ := dequeue_nothing htaken
        cases b with
        | zero => rfl
        | succ b => simp only [deliver, htaken]
      · dsimp only
        rcases s₁.callSink intrude (.log (s₁.deliveryOf e)) with ⟨_ | why | _, s₂⟩
        · exact ih _ _
        · rfl
        · rfl

/-- The second part of a loop whose first part was answered. -/
theorem deliver_add_of_answered {started a b processed n : Nat} {s t : Station σ}
    (h : s.deliver intrude started a processed = (.answered n, t)) :
    s.deliver intrude started (a + b) processed = t.deliver intrude started b n := by
  rw [deliver_add, h]

end

/-! ## Stations that are alike -/

/-- Two stations with the same buffer, the same sink, the same clocks and the same storage.  Their
counters and their journals may differ. -/
structure Alike (s s' : Station σ) : Prop where
  buffer : s'.buffer = s.buffer
  sink : s'.sink = s.sink
  clock : s'.clock = s.clock
  storage : s'.storage = s.storage

/-- Two ends with the same answer, at stations that are alike. -/
structure EndAlike {α : Type} (r r' : α × Station σ) : Prop where
  answer : r'.1 = r.1
  station : Alike r.2 r'.2

theorem EndAlike.exits {α : Type} {r r' : α × Station σ} (h : EndAlike r r') :
    ∃ answer t t', r = (answer, t) ∧ r' = (answer, t') ∧ Alike t t' :=
  ⟨r.1, r.2, r'.2, rfl, Prod.ext h.answer rfl, h.station⟩

namespace Alike

variable {s s' s'' : Station σ}

theorem refl (s : Station σ) : Alike s s :=
  ⟨rfl, rfl, rfl, rfl⟩

theorem symm (h : Alike s s') : Alike s' s :=
  ⟨h.buffer.symm, h.sink.symm, h.clock.symm, h.storage.symm⟩

theorem trans (h : Alike s s') (h' : Alike s' s'') : Alike s s'' :=
  ⟨h'.buffer.trans h.buffer, h'.sink.trans h.sink, h'.clock.trans h.clock,
    h'.storage.trans h.storage⟩

theorem now (h : Alike s s') : s'.now = s.now :=
  congrArg Clock.now h.clock

theorem deliveryOf (h : Alike s s') (e : Entry) : s'.deliveryOf e = s.deliveryOf e := by
  rw [Station.deliveryOf, Station.deliveryOf, h.now]

/-! ### Operations of the buffer -/

theorem enqueue (h : Alike s s') (f : Fields) : EndAlike (s.enqueue f) (s'.enqueue f) := by
  unfold Station.enqueue
  rw [h.buffer, h.now, h.storage]
  rcases s.buffer.enqueue f s.now s.storage.shortage? with ⟨why | id, b⟩
  · cases why <;> exact ⟨rfl, rfl, h.sink, h.clock, rfl⟩
  · exact ⟨rfl, rfl, h.sink, h.clock, rfl⟩

theorem dequeue (h : Alike s s') : EndAlike s.dequeue s'.dequeue := by
  unfold Station.dequeue
  rw [h.buffer]
  rcases s.buffer.dequeue with ⟨why | _ | e, b⟩ <;> exact ⟨rfl, rfl, h.sink, h.clock, h.storage⟩

theorem requeueFront (h : Alike s s') (e : Entry) :
    EndAlike (s.requeueFront e) (s'.requeueFront e) := by
  unfold Station.requeueFront
  rw [h.buffer, h.storage]
  rcases s.buffer.requeueFront e s.storage.shortage? with ⟨why | u, b⟩ <;>
    exact ⟨rfl, rfl, h.sink, h.clock, rfl⟩

theorem delivered (h : Alike s s') (d : Delivery) : Alike (s.delivered d) (s'.delivered d) := by
  unfold Station.delivered Station.markProcessed
  rw [h.buffer, h.now]
  dsimp only
  split <;> exact ⟨rfl, h.sink, h.clock, h.storage⟩

theorem markError (h : Alike s s') : Alike s.markError s'.markError :=
  ⟨congrArg Buffer.markError h.buffer, h.sink, h.clock, h.storage⟩

theorem close (h : Alike s s') : EndAlike s.close s'.close := by
  unfold Station.close
  rw [h.buffer]
  dsimp only
  split <;> exact ⟨rfl, rfl, h.sink, h.clock, h.storage⟩

theorem moveClock (h : Alike s s') (move : Clock → Clock) :
    Alike (s.moveClock move) (s'.moveClock move) :=
  ⟨h.buffer, h.sink, congrArg move h.clock, h.storage⟩

theorem passTime (h : Alike s s') (d : Disturbance) : Alike (s.passTime d) (s'.passTime d) :=
  h.moveClock _

/-! ### Calls to the sink -/

theorem fillLoop (h : Alike s s') (f : Fields) (fuel : Nat) :
    Alike (s.fillLoop f fuel) (s'.fillLoop f fuel) := by
  induction fuel generalizing s s' with
  | zero => exact h
  | succ fuel ih =>
      obtain ⟨answer, t, t', hs, hs', hstation⟩ := (h.enqueue f).exits
      rw [Station.fillLoop, Station.fillLoop, hs, hs']
      cases answer with
      | ok id => exact ih hstation
      | error why => exact hstation

theorem intrude (h : Alike s s') (i : Intrusion) : Alike (s.intrude i) (s'.intrude i) := by
  cases i with
  | add f => exact (h.enqueue f).station
  | fill f =>
      have hloop := h.fillLoop f (s.buffer.capacity - s.buffer.size + 1)
      unfold Station.intrude Station.fill
      rw [h.buffer]
      exact hloop
  | close => exact h.close.station
  | wait micros => exact h.moveClock (·.advance micros)
  | setWall ms => exact h.moveClock (·.setWall ms)

theorem foldl_intrude (h : Alike s s') (intrusions : List Intrusion) :
    Alike (intrusions.foldl Station.intrude s) (intrusions.foldl Station.intrude s') := by
  induction intrusions generalizing s s' with
  | nil => exact h
  | cons i intrusions ih => exact ih (h.intrude i)

variable [Sink σ]

theorem callSink (h : Alike s s') (call : Call) :
    EndAlike (s.callSink Station.intrude call) (s'.callSink Station.intrude call) := by
  let pending := Sink.receive call s.sink
  have hstarted : Alike { s with sink := pending.2 } { s' with sink := pending.2 } :=
    ⟨h.buffer, rfl, h.clock, h.storage⟩
  have hdisturbed := (hstarted.passTime pending.1).foldl_intrude pending.1.intrusions
  unfold Station.callSink
  rw [h.sink]
  refine ⟨?_, hdisturbed.buffer, ?_, hdisturbed.clock, hdisturbed.storage⟩
  · exact congrArg (fun x => (Sink.settle call x).1) hdisturbed.sink
  · exact congrArg (fun x => (Sink.settle call x).2) hdisturbed.sink

/-! ### Deliveries -/

omit [Sink σ] in
/-- A refused delivery is settled in the same way, whatever was delivered before. -/
theorem recover (h : Alike s s') (e : Entry) (n processed : Nat) (why : SinkError) :
    (s'.recover e (n + processed) why).1 = (s.recover e processed why).1.later n ∧
      Alike (s.recover e processed why).2 (s'.recover e (n + processed) why).2 := by
  obtain ⟨answer, t, t', hs, hs', hstation⟩ := (h.requeueFront e).exits
  rw [Station.recover, Station.recover, hs, hs']
  cases answer with
  | ok u => exact ⟨rfl, hstation.buffer, hstation.sink, hstation.clock, hstation.storage⟩
  | error refusal => exact ⟨rfl, hstation.buffer, hstation.sink, hstation.clock, hstation.storage⟩

omit [Sink σ] in
theorem abandon (h : Alike s s') (e : Entry) : Alike (s.abandon e) (s'.abandon e) := by
  obtain ⟨answer, t, t', hs, hs', hstation⟩ := (h.requeueFront e).exits
  rw [Station.abandon, Station.abandon, hs, hs']
  cases answer with
  | ok u => exact ⟨hstation.buffer, hstation.sink, hstation.clock, hstation.storage⟩
  | error refusal =>
      exact ⟨hstation.markError.buffer, hstation.sink, hstation.clock, hstation.storage⟩

/-- The same loop at stations that are alike, once where nothing was delivered before and once where
`n` entries were: both end in the same way, but for the count. -/
theorem deliver (h : Alike s s') (started started' remaining n processed : Nat) :
    (s'.deliver Station.intrude started' remaining (n + processed)).1 =
        (s.deliver Station.intrude started remaining processed).1.later n ∧
      Alike (s.deliver Station.intrude started remaining processed).2
        (s'.deliver Station.intrude started' remaining (n + processed)).2 := by
  induction remaining generalizing processed s s' with
  | zero => exact ⟨rfl, h⟩
  | succ remaining ih =>
      obtain ⟨taken, s₁, s₁', hs, hs', hrest⟩ := h.dequeue.exits
      rw [Station.deliver, Station.deliver, hs, hs']
      rcases taken with why | _ | e
      · obtain ⟨-, rfl, -⟩ := dequeue_refused hs
        exact ⟨rfl, hrest⟩
      · exact ⟨rfl, hrest⟩
      · -- both loops call the sink with the same delivery
        obtain ⟨answer, s₂, s₂', hcall, hcall', hended⟩ :=
          (hrest.callSink (.log (s₁.deliveryOf e))).exits
        dsimp only
        rw [hrest.deliveryOf e, hcall, hcall']
        cases answer with
        | accepted => exact ih (hended.delivered (s₁.deliveryOf e)) (processed + 1)
        | refused why =>
            have hcounted : Alike (s₂.markError.observeBatch started)
                (s₂'.markError.observeBatch started') :=
              ⟨hended.markError.buffer, hended.sink, hended.clock, hended.storage⟩
            obtain ⟨herror, hback⟩ := hcounted.recover e n processed why
            exact ⟨congrArg Outcome.failed herror, hback⟩
        | stalled => exact ⟨rfl, hended.abandon e⟩

end Alike

/-! ## Batches over a sink that obliges -/

section

variable [Sink σ] {s t : Station σ}

/-- A sink that obliges takes the snapshot, and only the journal may tell. -/
theorem persistSnapshot_obliging (hσ : Sink.Obliges σ) (s : Station σ) :
    ∃ t, s.persistSnapshot intrude = (.answered (), t) ∧ Alike s t := by
  unfold persistSnapshot
  cases s.buffer.snapshot with
  | error why => exact ⟨_, rfl, rfl, rfl, rfl, rfl⟩
  | ok metrics =>
      have hcall : s.callSink intrude (.snapshot metrics) =
          (.accepted, s.moveClock (·.advance 0)) := by
        simp only [callSink, hσ.receive, hσ.settle]
        rfl
      have hclock : (s.moveClock (·.advance 0)).clock = s.clock := by
        simp [moveClock, Clock.advance]
      dsimp only
      rw [hcall]
      exact ⟨_, rfl, rfl, rfl, hclock, rfl⟩

/-- Over a sink that obliges a batch ends as its loop of deliveries does, and where that ends. -/
theorem process_obliging (hσ : Sink.Obliges σ) {n : Nat} (hn : 0 < n) {outcome : Outcome Nat}
    (h : s.deliver intrude s.clock.elapsed n 0 = (outcome, t)) :
    ∃ elapsed u, s.process intrude n = (outcome.timed elapsed, u) ∧ Alike t u := by
  have hlimit : s.batchLimit n = n := if_pos hn
  rw [← hlimit] at h
  cases outcome with
  | answered processed =>
      obtain ⟨t', hpersist, ht'⟩ := persistSnapshot_obliging hσ t
      rcases process_of_answered h with ⟨rfl, hs⟩ | ⟨-, hgone, -⟩ | ⟨-, -, hs⟩
      · exact ⟨_, _, hs, rfl, rfl, rfl, rfl⟩
      · simp [hpersist] at hgone
      · rw [hpersist] at hs
        exact ⟨_, _, hs, ht'.buffer, ht'.sink, ht'.clock, ht'.storage⟩
  | failed why => exact ⟨0, t, process_of_failed h, Alike.refl t⟩
  | abandoned => exact ⟨0, t, process_of_abandoned h, Alike.refl t⟩

end

end Station

/-! ## The comparison -/

section

variable {σ : Type} [Sink σ]

open Station

/-- To split a batch cannot be observed.  One batch of at most `a + b` entries is compared with a batch
of `a` and, if that is answered, a batch of `b` after it, over any sink that has no use for snapshots:
whatever it answers to each delivery, and whatever it does to the buffer and the clocks meanwhile.  The
same deliveries are made with the same answers, which are part of the state of the sink, and the buffers
are the same in the end.  The counts add up; a failure of the first batch is that of the whole; and a
failure of the second one is that of the whole, but for the count, which is larger by the count of the
first unless the buffer was closed.  Over a sink that does not close it an open buffer stays open. -/
theorem splitting_unobservable (hσ : Sink.Obliges σ) (s : Station (Recorded σ)) {a b : Nat}
    (ha : 0 < a) (hb : 0 < b) :
    let whole := s.process Station.intrude (a + b)
    let first := s.process Station.intrude a
    let second := first.2.process Station.intrude b
    (∀ r, first.1 = .answered r →
      Alike second.2 whole.2 ∧
        (∀ r', second.1 = .answered r' →
          ∃ elapsed, whole.1 = .answered ⟨r.processed + r'.processed, elapsed⟩) ∧
        (∀ why, second.1 = .failed why → whole.1 = .failed (why.later r.processed) ∧
          (second.2.buffer.isOpen = true →
            (why.later r.processed).processed = r.processed + why.processed)) ∧
        (second.1 = .abandoned → whole.1 = .abandoned)) ∧
    ((∀ r, first.1 ≠ .answered r) → Alike first.2 whole.2 ∧ whole.1 = first.1) ∧
    (∀ P : σ → Prop, Sink.Confined (· ≠ .close) P → P s.sink.inner → s.buffer.isOpen = true →
      first.2.buffer.isOpen = true ∧ second.2.buffer.isOpen = true) := by
  intro whole first second
  have hstays (P : σ → Prop) (hconfined : Sink.Confined (· ≠ .close) P) (hs : P s.sink.inner)
      (hopen : s.buffer.isOpen = true) :
      first.2.buffer.isOpen = true ∧ second.2.buffer.isOpen = true := by
    have hkeeps := intrude_keeps_isOpen (hconfined.comap Recorded.morphism) s.busy
    have hfirst := process_keeps hkeeps a ⟨rfl, hs, hopen⟩
    exact ⟨hfirst.buffer, (process_keeps hkeeps b hfirst).buffer⟩
  rw [← and_assoc]
  refine ⟨?_, hstays⟩
  -- each of the batches ends as its loop does
  rcases hloop : s.deliver Station.intrude s.clock.elapsed a 0 with ⟨outcome, t⟩
  obtain ⟨elapsed, u, hfirst, hu⟩ := process_obliging hσ.recorded ha hloop
  rcases hall : s.deliver Station.intrude s.clock.elapsed (a + b) 0 with ⟨outcome', t'⟩
  obtain ⟨elapsed', w, hwhole, hw⟩ :=
    process_obliging hσ.recorded (Nat.add_pos_left ha b) hall
  have hfirst' : first = (outcome.timed elapsed, u) := hfirst
  have hwhole' : whole = (outcome'.timed elapsed', w) := hwhole
  rw [hfirst', hwhole']
  rw [deliver_add, hloop] at hall
  cases outcome with
  | failed why =>
      obtain ⟨rfl, rfl⟩ := Prod.mk.inj hall
      exact ⟨fun r hr => (by cases hr), fun _ => ⟨hu.symm.trans hw, rfl⟩⟩
  | abandoned =>
      obtain ⟨rfl, rfl⟩ := Prod.mk.inj hall
      exact ⟨fun r hr => (by cases hr), fun _ => ⟨hu.symm.trans hw, rfl⟩⟩
  | answered n =>
      refine ⟨?_, fun hnone => absurd rfl (hnone _)⟩
      rintro r hr
      obtain rfl := Outcome.answered.inj hr
      -- the second batch runs beside the rest of the whole one
      rcases hrest : u.deliver Station.intrude u.clock.elapsed b 0 with ⟨outcome, v⟩
      obtain ⟨elapsed'', z, hsecond, hz⟩ := process_obliging hσ.recorded hb hrest
      have hsecond' : second = (outcome.timed elapsed'', z) := by
        rw [← hsecond]
        exact congrArg (fun r => r.2.process Station.intrude b) hfirst'
      obtain ⟨houtcome, hv⟩ := hu.symm.deliver u.clock.elapsed s.clock.elapsed b n 0
      dsimp only at hall
      rw [Nat.add_zero, hrest, hall] at houtcome hv
      obtain rfl : outcome' = outcome.later n := houtcome
      rw [hsecond']
      refine ⟨hz.symm.trans (hv.trans hw), ?_, ?_, ?_⟩
      · intro r' hr'
        exact ⟨elapsed', Outcome.answered_later elapsed' n hr'⟩
      · intro why hwhy
        obtain ⟨hfailed, hlater⟩ := Outcome.failed_later elapsed' n hwhy
        refine ⟨hlater, fun hopen => EngineError.processed_later n ?_⟩
        -- a batch from a buffer that stays open fails by a delivery
        rcases (delivers_of_deliver hrest).failed hfailed with hdelivery | hclosed
        · exact hdelivery
        · have hopen' : v.buffer.isOpen = true := hz.buffer ▸ hopen
          rw [hclosed] at hopen'
          cases hopen'
      · intro hgone
        exact Outcome.abandoned_later elapsed' n hgone

/-- Two entries in the queue.  The sink hands in a third one while it takes the first, and refuses the
second; to ask for one entry twice, or for two, comes to the same failure. -/
theorem splitting_unobservable_of_second_failure :
    let fields : Fields := ⟨"INFO", "app", "a"⟩
    let down : SinkError := .unavailable "down"
    let script : List Action := [⟨⟨0, none, [.add fields, .wait 5]⟩, .passOn⟩, ⟨.none, .refuse down⟩]
    let sink : Obliging (Scripted MemorySink) :=
      ⟨{ Scripted.ofSink (MemorySink.withRetention 8) with logs := script }⟩
    ∃ buffer, Buffer.create 4 0 = .ok buffer ∧
      let s := ((Station.around buffer (Recorded.ofSink sink) ⟨0, 0⟩ 1).enqueue fields).2
      let s := (s.enqueue fields).2
      (s.process Station.intrude (1 + 1)).1 = .failed (.persistence 2 1 down) ∧
        (s.process Station.intrude (1 + 1)).2.buffer.queue.map Entry.id = [2, 3] := by
  intro fields down script sink
  refine ⟨_, rfl, ?_⟩
  intro s s'
  have hfirst : (s'.process Station.intrude 1).1 = .answered ⟨1, 5⟩ := by
    dsimp only [s', s, sink, script, fields]
    rfl
  obtain ⟨halike, -, hfailed, -⟩ :=
    (splitting_unobservable Obliging.obliges s' Nat.zero_lt_one Nat.zero_lt_one).1 _ hfirst
  constructor
  · refine (hfailed (.persistence 2 0 down) ?_).1
    dsimp only [s', s, sink, script, fields]
    rfl
  · rw [halike.buffer]
    dsimp only [s', s, sink, script, fields]
    rfl

end

end LogSpool
