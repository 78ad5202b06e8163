import LogSpool.Proofs.Sink.Recorded
import LogSpool.Proofs.Station.Pending

/-!
# Batches as courses of acts

This module ties the batches that are run to the custody of entries.  Whatever a batch does, with
any sink and with anything that happens while its calls are pending, is a course of acts of the
spool itself, and the custody that follows the course describes the station that the batch leaves.

* `Custody.Shows` — a custody tells what a station holds, which calls its sink has ended, and what
  its journal reports as lost; `Custody.Describes`, `Custody.HasOffered` — with no delivery pending,
  and with one.
* `Station.FollowsBy` — one station comes out of another by certain acts; `Station.Follows` leaves
  open by which.
* `deliver_followsBy`, `process_followsBy` — every batch performs the acts that its chronicle gives.
-/

namespace LogSpool

variable {σ : Type} {track : List (Delivery × Answer) → σ → Prop}

namespace Custody

/-- A custody shows a station, with this delivery pending or with none: the buffers and the storage
are the same, the losses are those that the journal reports, and the attempts are the calls that have
ended. -/
structure Shows (track : List (Delivery × Answer) → σ → Prop) (w : Custody)
    (pending : Option Delivery) (s : Station σ) : Prop where
  buffer : w.buffer = s.buffer
  storage : w.storage = s.storage
  flight : w.inFlight = pending
  lost : w.lost.map Entry.id = s.lostIds
  calls : track (w.attempts.map Attempt.call) s.sink

/-- A custody describes a station where no call is pending. -/
abbrev Describes (track : List (Delivery × Answer) → σ → Prop) (w : Custody) (s : Station σ) : Prop :=
  w.Shows track none s

/-- A custody whose entry in flight is just being handed to the sink of a station. -/
abbrev HasOffered (track : List (Delivery × Answer) → σ → Prop) (w : Custody) (d : Delivery)
    (s : Station σ) : Prop :=
  w.Shows track (some d) s

/-- Acts that end no attempt leave the description of the calls as it is. -/
theorem Shows.of_beside {w w' : Custody} {pending : Option Delivery} {s s' : Station σ}
    (h : w.Shows track pending s) (hbeside : Station.Beside s s') (hbuffer : w'.buffer = s'.buffer)
    (hstorage : w'.storage = s'.storage) (hflight : w'.inFlight = w.inFlight)
    (hattempts : w'.attempts = w.attempts) : w'.Shows track pending s' where
  buffer := hbuffer
  storage := hstorage
  flight := hflight.trans h.flight
  lost := by
    unfold Custody.lost
    rw [hattempts, hbeside.lostIds]
    exact h.lost
  calls := by
    rw [hattempts, hbeside.sink]
    exact h.calls

/-- Producers may act at any time, also while an entry is in flight. -/
theorem Shows.of_produces {w : Custody} {pending : Option Delivery} {s s' : Station σ}
    {acts : List Act} (h : w.Shows track pending s) (hproduces : Station.ProducesBy acts s s') :
    (w.run acts).Shows track pending s' := by
  obtain ⟨hflight, hattempts⟩ := run_of_isIntrusion hproduces.intrusions w
  obtain ⟨hbuffer, hstorage⟩ := hproduces.run w h.buffer h.storage
  exact h.of_beside hproduces.beside hbuffer hstorage hflight hattempts

/-- A call that has started has not ended. -/
theorem Shows.calling [Sink σ] (htrack : Sink.Tracks track) {w : Custody} {pending : Option Delivery}
    {s : Station σ} (h : w.Shows track pending s) (call : Call) :
    w.Shows track pending (s.calling call) :=
  ⟨h.buffer, h.storage, h.flight, h.lost, htrack.receive call h.calls⟩

/-- A busy mark is nothing that a custody tells of. -/
theorem Shows.mark {w : Custody} {pending : Option Delivery} {s : Station σ}
    (h : w.Shows track pending s) (busy : Bool) : w.Shows track pending { s with busy } :=
  ⟨h.buffer, h.storage, h.flight, h.lost, h.calls⟩

/-- A custody whose pending call the sink has just answered. -/
structure Awaits (track : List (Delivery × Answer) → σ → Prop) (w : Custody) (d : Delivery)
    (answer : Answer) (s : Station σ) : Prop where
  buffer : w.buffer = s.buffer
  storage : w.storage = s.storage
  flight : w.inFlight = some d
  lost : w.lost.map Entry.id = s.lostIds
  calls : track (w.attempts.map Attempt.call ++ [(d, answer)]) s.sink

/-- The end of an attempt with the answer that the sink gave. -/
theorem Awaits.conclude {w : Custody} {d : Delivery} {answer : Answer} {s s' : Station σ}
    (h : Awaits track w d answer s) {b : Buffer} {storage : Storage} {a : Attempt}
    (hcall : a.call = (d, answer)) (hbuffer : b = s'.buffer) (hstorage : storage = s'.storage)
    (hsink : s'.sink = s.sink)
    (hlost : s'.lostIds = s.lostIds ++ if a.isLost then [d.entry.id] else []) :
    Describes track (w.conclude b storage a) s' where
  buffer := hbuffer
  storage := hstorage
  flight := rfl
  lost := by
    have hentry : a.entry = d.entry := congrArg (·.1.entry) hcall
    rw [lost_conclude, List.map_append, h.lost, hlost]
    cases a.isLost <;> simp [hentry]
  calls := by
    rw [hsink]
    have hcalls := h.calls
    rw [← hcall] at hcalls
    simpa [Custody.conclude] using hcalls

theorem Awaits.delivered {w : Custody} {d : Delivery} {s : Station σ}
    (h : Awaits track w d .accepted s) :
    Describes track (w.perform (.settle .accepted s.now)) (s.delivered d) := by
  have hperform : w.perform (.settle .accepted s.now) =
      w.conclude (w.buffer.markProcessed d.latency s.now) w.storage ⟨d, .accepted, false⟩ := by
    simp [perform, h.flight]
  have hbeside := s.delivered_beside d
  rw [hperform]
  refine h.conclude rfl ?_ ?_ hbeside.sink ?_
  · rw [h.buffer, Station.delivered_buffer]
  · rw [h.storage, Station.delivered_storage]
  · simpa [Attempt.isLost, Attempt.isDelivered] using hbeside.lostIds

/-- The end of an attempt that did not succeed: the entry is back at the head, or it is lost. -/
theorem Awaits.undelivered {w : Custody} {d : Delivery} {answer : Answer} {s s' : Station σ}
    (h : Awaits track w d answer s) (hanswer : answer ≠ .accepted) (hsink : s'.sink = s.sink)
    {back : Except EngineError Unit}
    (hback : s.buffer.requeueFront d.entry s.storage.shortage? = (back, s'.buffer))
    (hstorage : s'.storage = s.storage.after back)
    (hlost : s'.lostIds = s.lostIds ++ if back.isOk then [] else [d.entry.id]) (now : Int) :
    Describes track (w.perform (.settle answer now)) s' := by
  have hperform : w.perform (.settle answer now) =
      w.conclude s'.buffer (w.storage.after back) ⟨d, answer, back.isOk⟩ := by
    simp [perform, h.flight, hanswer, h.buffer, h.storage, hback]
  rw [hperform]
  refine h.conclude rfl rfl ?_ hsink ?_
  · rw [hstorage, h.storage]
  · rw [hlost]
    cases back.isOk <;> simp [Attempt.isLost, Attempt.isDelivered, hanswer]

/-- Counting an error does not end an attempt. -/
theorem Awaits.countError {w : Custody} {d : Delivery} {answer : Answer} {s : Station σ}
    (h : Awaits track w d answer s) (started : Nat) :
    Awaits track (w.perform .countError) d answer (s.markError.observeBatch started) where
  buffer := congrArg Buffer.markError h.buffer
  storage := h.storage
  flight := h.flight
  lost := h.lost
  calls := h.calls

end Custody

namespace Station

/-- `s'` comes out of `s` by these acts of the spool itself. -/
structure FollowsBy (track : List (Delivery × Answer) → σ → Prop) (acts : List Act)
    (s s' : Station σ) : Prop where
  busy : s'.busy = s.busy
  course : Custody.LeadsBy acts (·.Describes track s) (·.Describes track s')

namespace FollowsBy

variable {s s' s'' : Station σ} {acts acts' : List Act}

/-- What changes neither the buffer nor the losses is no act, if the sink's calls stay the same. -/
theorem of_same (hbusy : s'.busy = s.busy) (hb : s'.buffer = s.buffer)
    (hstorage : s'.storage = s.storage) (hlost : s'.lostIds = s.lostIds)
    (hsink : ∀ made, track made s.sink → track made s'.sink) : FollowsBy track [] s s' where
  busy := hbusy
  course := .of_imp fun _ hw => ⟨hw.buffer.trans hb.symm, hw.storage.trans hstorage.symm,
    hw.flight, hw.lost.trans hlost.symm, hsink _ hw.calls⟩

theorem of_beside (h : Beside s s') (hb : s'.buffer = s.buffer)
    (hstorage : s'.storage = s.storage) : FollowsBy track [] s s' :=
  of_same h.busy hb hstorage h.lostIds (fun _ hcalls => h.sink ▸ hcalls)

theorem refl (s : Station σ) : FollowsBy track [] s s :=
  of_beside (Beside.refl s) rfl rfl

theorem trans (h : FollowsBy track acts s s') (h' : FollowsBy track acts' s' s'') :
    FollowsBy track (acts ++ acts') s s'' where
  busy := h'.busy.trans h.busy
  course := h.course.trans h'.course

/-- What is no act leaves the acts as they are. -/
theorem andThen (h : FollowsBy track acts s s') (h' : FollowsBy track [] s' s'') :
    FollowsBy track acts s s'' := by
  have hboth := h.trans h'
  rwa [List.append_nil] at hboth

theorem record (s : Station σ) {e : Event} (he : e.lostId? = none) :
    FollowsBy track [] s (s.record e) :=
  of_beside ((Beside.refl s).record he) rfl rfl

/-- Counting an error is an act. -/
theorem markError (s : Station σ) : FollowsBy track [.countError] s s.markError where
  busy := rfl
  course := .of_act rfl fun _ hw =>
    ⟨congrArg Buffer.markError hw.buffer, hw.storage, hw.flight, hw.lost, hw.calls⟩

/-- Busy marks play no part in a course. -/
theorem of_busy {busy : Bool} (h : FollowsBy track acts { s with busy } s') :
    FollowsBy track acts s { s' with busy := s.busy } where
  busy := rfl
  course :=
    { internal := h.course.internal
      run := fun w hw => (h.course.run w (hw.mark busy)).mark s.busy }

/-- What was done under a busy mark, when the mark is taken away again. -/
theorem of_idle (hidle : s.busy = false) (h : FollowsBy track acts { s with busy := true } s') :
    FollowsBy track acts s { s' with busy := false } := by
  have hended := h.of_busy
  rwa [hidle] at hended

end FollowsBy

/-- Producers act for themselves. -/
theorem ProducesBy.follows {s s' : Station σ} {acts : List Act} (h : ProducesBy acts s s') :
    FollowsBy track acts s s' where
  busy := h.beside.busy
  course :=
    { internal := fun a ha => Act.isInternal_of_isIntrusion (h.intrusions a ha)
      run := fun _ hw => hw.of_produces h }

/-- `s'` comes out of `s` by a course of acts of the spool itself. -/
structure Follows (track : List (Delivery × Answer) → σ → Prop) (s s' : Station σ) : Prop where
  busy : s'.busy = s.busy
  course : Custody.Leads (·.Describes track s) (·.Describes track s')

theorem FollowsBy.follows {s s' : Station σ} {acts : List Act} (h : FollowsBy track acts s s') :
    Follows track s s' :=
  ⟨h.busy, _, h.course⟩

theorem Produces.follows {s s' : Station σ} : Produces s s' → Follows track s s'
  | ⟨_, h⟩ => h.follows.follows

/-! ## One delivery -/

variable (track) in
/-- The entry that is taken out is the one in flight. -/
theorem dequeue_course {s s' : Station σ} {e : Entry} (htaken : s.dequeue = (.ok (some e), s')) :
    s'.busy = s.busy ∧ Custody.LeadsBy [.offer s.now] (·.Describes track s)
      (·.HasOffered track (s'.deliveryOf e) s') := by
  obtain ⟨answer, s₁, hs, hdequeue, hbeside, hclock, hstorage⟩ := s.dequeue_cases
  obtain ⟨rfl, rfl⟩ := Prod.mk.inj (htaken.symm.trans hs)
  have hdelivery : s'.deliveryOf e = e.deliveryAt s.now := by
    have hnow : s'.now = s.now := congrArg Clock.now hclock
    rw [deliveryOf, hnow, Entry.deliveryAt]
  refine ⟨hbeside.busy, .of_act rfl fun w hw => ?_⟩
  have hperform : w.perform (.offer s.now) =
      { w with buffer := s'.buffer, inFlight := some (s'.deliveryOf e) } := by
    simp [Custody.perform, hw.flight, hw.buffer, hdequeue, hdelivery]
  rw [hperform]
  exact ⟨rfl, hw.storage.trans hstorage.symm, rfl, hw.lost.trans hbeside.lostIds.symm,
    hbeside.sink ▸ hw.calls⟩

variable (track) in
/-- A refused entry goes back or is lost, after the error has been counted. -/
theorem recover_course {s s' : Station σ} (d : Delivery) {started processed : Nat}
    {why : SinkError} {error : EngineError}
    (hrecover : (s.markError.observeBatch started).recover d.entry processed why = (error, s')) :
    s'.busy = s.busy ∧ Custody.LeadsBy [.countError, .settle (.refused why) s.now]
      (·.Awaits track d (.refused why) s) (·.Describes track s') := by
  let counted := s.markError.observeBatch started
  obtain ⟨back, t, hs, hb, hstorage, hbeside⟩ := counted.requeueFront_cases d.entry
  have hcounted : Custody.LeadsBy [.countError] (·.Awaits track d (.refused why) s)
      (·.Awaits track d (.refused why) counted) :=
    .of_act rfl fun _ hw => hw.countError started
  have hended (hsink : s'.sink = t.sink) (hbuffer : s'.buffer = t.buffer)
      (hstorage' : s'.storage = t.storage)
      (hlost : s'.lostIds = counted.lostIds ++ if back.isOk then [] else [d.entry.id]) :
      Custody.LeadsBy [.settle (.refused why) s.now] (·.Awaits track d (.refused why) counted)
        (·.Describes track s') :=
    .of_act rfl fun w hw => hw.undelivered (by simp) (hsink.trans hbeside.sink)
      (hb.trans (by rw [hbuffer])) (hstorage'.trans hstorage) hlost s.now
  rw [recover, hs] at hrecover
  cases back with
  | ok u =>
      obtain ⟨-, rfl⟩ := Prod.mk.inj hrecover
      refine ⟨hbeside.busy, hcounted.trans (hended rfl rfl rfl ?_)⟩
      rw [lostIds_record]
      exact congrArg (· ++ []) hbeside.lostIds
  | error refusal =>
      obtain ⟨-, rfl⟩ := Prod.mk.inj hrecover
      refine ⟨hbeside.busy, hcounted.trans (hended rfl rfl rfl ?_)⟩
      rw [lostIds_record]
      exact congrArg (· ++ [d.entry.id]) hbeside.lostIds

/-- An abandoned entry goes back; or it is lost, and then an error is counted. -/
theorem abandon_course (s : Station σ) (d : Delivery) :
    Custody.LeadsBy (s.abandonActs d.entry) (·.Awaits track d .stalled s)
      (·.Describes track (s.abandon d.entry)) := by
  obtain ⟨back, t, hs, hb, hstorage, hbeside⟩ := s.requeueFront_cases d.entry
  rw [abandon, abandonActs, hs]
  cases back with
  | ok u =>
      let returned : Station σ := t.countRequeued.record (.deliveryCancelled d.entry.id)
      have hlost : returned.lostIds = s.lostIds ++ [] := by
        rw [lostIds_record]
        exact congrArg (· ++ []) hbeside.lostIds
      exact .of_act rfl fun w hw => hw.undelivered (by simp)
        (show returned.sink = s.sink from hbeside.sink) hb hstorage hlost s.now
  | error refusal =>
      let lost : Station σ :=
        (t.countLost.countError .requeueLoss).record (.cancellationLost d.entry.id refusal)
      have hlost : lost.lostIds = s.lostIds ++ [d.entry.id] := by
        rw [lostIds_record]
        exact congrArg (· ++ [d.entry.id]) hbeside.lostIds
      have hsettled : Custody.LeadsBy [.settle .stalled s.now] (·.Awaits track d .stalled s)
          (·.Describes track lost) :=
        .of_act rfl fun w hw => hw.undelivered (by simp)
          (show lost.sink = s.sink from hbeside.sink) hb hstorage hlost s.now
      -- the error is counted after the entry has been given up
      exact hsettled.trans (FollowsBy.markError lost).course

/-- The end of a batch moves no entry. -/
theorem finishBatch_follows (s : Station σ) (started processed : Nat) :
    FollowsBy track [] s (s.finishBatch started processed).2 := by
  have hobserved : FollowsBy track [] s (s.observeBatch started) :=
    FollowsBy.of_same rfl rfl rfl rfl fun _ hmade => hmade
  exact hobserved.trans (FollowsBy.record _ rfl)

section

variable [Sink σ] {intrude : Station σ → Intrusion → Station σ}
  {acts : Station σ → Intrusion → List Act}

/-- While a call is pending only producers act, and then the sink answers. -/
theorem call_course (htrack : Sink.Tracks track) {s s' : Station σ}
    (h : OnlyProducesBy acts intrude s.busy) {d : Delivery} {answer : Answer}
    (hcall : s.callSink intrude (.log d) = (answer, s')) :
    s'.busy = s.busy ∧ Custody.LeadsBy (s.callActs intrude acts (.log d))
      (·.HasOffered track d s) (·.Awaits track d answer s') := by
  obtain ⟨t, hproduced, hend⟩ := h.callSink_eq (.log d)
  obtain ⟨rfl, rfl⟩ := Prod.mk.inj (hcall.symm.trans hend)
  refine ⟨hproduced.beside.busy, ?_, ?_⟩
  · intro a ha
    exact Act.isInternal_of_isIntrusion (hproduced.intrusions a ha)
  · intro w hw
    have hreceived : w.HasOffered track d { s with sink := (Sink.receive (.log d) s.sink).2 } :=
      ⟨hw.buffer, hw.storage, hw.flight, hw.lost, htrack.receive (.log d) hw.calls⟩
    have hpending := hreceived.of_produces hproduced
    exact ⟨hpending.buffer, hpending.storage, hpending.flight, hpending.lost,
      htrack.settle (.log d) hpending.calls⟩

/-- Once the sink has answered, the entry that was taken out is the one in flight, and producers
have acted in between. -/
theorem offer_course (htrack : Sink.Tracks track) {s s₁ s₂ : Station σ}
    (h : OnlyProducesBy acts intrude s.busy) {e : Entry} {answer : Answer}
    (htaken : s.dequeue = (.ok (some e), s₁))
    (hcall : s₁.callSink intrude (.log (s₁.deliveryOf e)) = (answer, s₂)) :
    s₂.busy = s.busy ∧
      Custody.LeadsBy ([.offer s.now] ++ s₁.callActs intrude acts (.log (s₁.deliveryOf e)))
        (·.Describes track s) (·.Awaits track (s₁.deliveryOf e) answer s₂) := by
  obtain ⟨hbusy, hoffered⟩ : s₁.busy = s.busy ∧ Custody.LeadsBy [.offer s.now]
      (·.Describes track s) (·.HasOffered track (s₁.deliveryOf e) s₁) :=
    dequeue_course track htaken
  obtain ⟨hbusy', hanswered⟩ := call_course htrack (h.of_eq hbusy) hcall
  exact ⟨hbusy'.trans hbusy, hoffered.trans hanswered⟩

/-- A delivery that the sink accepts. -/
theorem delivered_follows (htrack : Sink.Tracks track) {s s₁ s₂ : Station σ}
    (h : OnlyProducesBy acts intrude s.busy) {e : Entry} (htaken : s.dequeue = (.ok (some e), s₁))
    (hcall : s₁.callSink intrude (.log (s₁.deliveryOf e)) = (.accepted, s₂)) :
    FollowsBy track (([.offer s.now] ++ s₁.callActs intrude acts (.log (s₁.deliveryOf e))) ++
      [.settle .accepted s₂.now]) s (s₂.delivered (s₁.deliveryOf e)) := by
  obtain ⟨hbusy, hoffer⟩ := offer_course htrack h htaken hcall
  exact
    { busy := (s₂.delivered_beside _).busy.trans hbusy
      course := hoffer.trans (.of_act rfl fun _ hw => hw.delivered) }

/-! ## Batches -/

/-- A loop of deliveries performs the acts that are given for it. -/
theorem deliver_followsBy (htrack : Sink.Tracks track) (started remaining processed : Nat)
    {s : Station σ} (h : OnlyProducesBy acts intrude s.busy) :
    FollowsBy track (s.deliverActs intrude acts remaining) s
      (s.deliver intrude started remaining processed).2 := by
  induction remaining generalizing processed s with
  | zero => exact FollowsBy.refl s
  | succ remaining ih =>
      rw [deliver, deliverActs]
      rcases htaken : s.dequeue with ⟨why | _ | e, s₁⟩
      · obtain ⟨-, -, rfl⟩ := dequeue_refused htaken
        exact FollowsBy.refl _
      · obtain ⟨-, -, rfl⟩ := dequeue_nothing htaken
        exact FollowsBy.refl _
      · dsimp only
        rcases hcall : s₁.callSink intrude (.log (s₁.deliveryOf e)) with ⟨answer, s₂⟩
        cases answer with
        | accepted =>
            have hdelivered := delivered_follows htrack h htaken hcall
            have hrest := hdelivered.trans (ih (processed + 1) (h.of_eq hdelivered.busy))
            rw [List.append_assoc] at hrest
            exact hrest
        | refused why =>
            obtain ⟨hbusy, hoffer⟩ := offer_course htrack h htaken hcall
            obtain ⟨hbusy', hrecovered⟩ := recover_course track (s₁.deliveryOf e)
              (rfl : (s₂.markError.observeBatch started).recover e processed why = _)
            exact ⟨hbusy'.trans hbusy, hoffer.trans hrecovered⟩
        | stalled =>
            obtain ⟨hbusy, hoffer⟩ := offer_course htrack h htaken hcall
            exact ⟨(s₂.abandon_spec e).2.1.trans hbusy,
              hoffer.trans (abandon_course s₂ (s₁.deliveryOf e))⟩

/-- A call that is no delivery is answered by the sink, after whatever happens in between. -/
theorem callSink_followsBy (htrack : Sink.Tracks track) {s : Station σ} (call : Call)
    (hcall : ∀ answer, call.ended answer = [])
    (h : ∀ t i, t.busy = s.busy → FollowsBy track (acts t i) t (intrude t i)) :
    FollowsBy track (s.callActs intrude acts call) s (s.callSink intrude call).2 := by
  let started : Station σ := { s with sink := (Sink.receive call s.sink).2 }
  let waited := started.passTime (Sink.receive call s.sink).1
  let pending := (Sink.receive call s.sink).1.intrusions.foldl intrude waited
  have hstart : FollowsBy track [] s waited :=
    FollowsBy.of_same rfl rfl rfl rfl fun _ hmade => htrack.receive call hmade
  have hintrusions (is : List Intrusion) (t : Station σ) (ht : t.busy = s.busy) :
      FollowsBy track (meanwhileActs intrude acts is t) t (is.foldl intrude t) := by
    induction is generalizing t with
    | nil => exact FollowsBy.refl t
    | cons i is ih =>
        have hfirst := h t i ht
        exact hfirst.trans (ih _ (hfirst.busy.trans ht))
  have hended : FollowsBy track [] pending
      { pending with sink := (Sink.settle call pending.sink).2 } := by
    refine FollowsBy.of_same rfl rfl rfl rfl fun made hmade => ?_
    have hsettled := htrack.settle call hmade
    rw [hcall, List.append_nil] at hsettled
    exact hsettled
  exact (hstart.trans (hintrusions _ _ rfl)).andThen hended

/-- Handing over a snapshot moves no entry. -/
theorem persistSnapshot_followsBy (htrack : Sink.Tracks track) {s : Station σ}
    (h : OnlyProducesBy acts intrude s.busy) :
    FollowsBy track (s.snapshotActs intrude acts) s (s.persistSnapshot intrude).2 := by
  rw [persistSnapshot, snapshotActs]
  cases hsnapshot : s.buffer.snapshot with
  | error why => exact FollowsBy.record s rfl
  | ok metrics =>
      have hcall := callSink_followsBy htrack (.snapshot metrics) (fun _ => rfl)
        (fun t i ht => (h t i ht).follows)
      dsimp only
      rcases hanswer : s.callSink intrude (.snapshot metrics) with ⟨answer, s'⟩
      rw [hanswer] at hcall
      cases answer with
      | accepted => exact hcall.trans (FollowsBy.refl s')
      | refused why =>
          exact hcall.trans ((FollowsBy.markError s').andThen (FollowsBy.record _ rfl))
      | stalled => exact hcall.trans (FollowsBy.refl s')

/-- Every batch performs the acts that are given for it. -/
theorem process_followsBy (htrack : Sink.Tracks track) (maxItems : Nat) {s : Station σ}
    (h : OnlyProducesBy acts intrude s.busy) :
    FollowsBy track (s.processActs intrude acts maxItems) s (s.process intrude maxItems).2 := by
  have hdeliver := deliver_followsBy htrack s.clock.elapsed (s.batchLimit maxItems) 0 h
  rw [processActs]
  rcases hend : s.deliver intrude s.clock.elapsed (s.batchLimit maxItems) 0 with
    ⟨n | why | _, s₁⟩ <;> rw [hend] at hdeliver
  · have hsnapshot := hdeliver.trans (persistSnapshot_followsBy htrack (h.of_eq hdeliver.busy))
    rcases process_of_answered hend with ⟨rfl, hs⟩ | ⟨hn, -, hs⟩ | ⟨hn, -, hs⟩ <;> rw [hs]
    · exact hdeliver.trans (finishBatch_follows s₁ _ 0)
    · obtain ⟨n, rfl⟩ := Nat.exists_eq_add_one.2 hn
      exact hsnapshot
    · obtain ⟨n, rfl⟩ := Nat.exists_eq_add_one.2 hn
      exact hsnapshot.andThen (finishBatch_follows _ _ _)
  · rw [process_of_failed hend]
    exact hdeliver.trans (FollowsBy.refl s₁)
  · rw [process_of_abandoned hend]
    exact hdeliver.trans (FollowsBy.refl s₁)

/-- Whatever the intrusions are, a loop of deliveries is a course of acts. -/
theorem deliver_follows (htrack : Sink.Tracks track) (started remaining processed : Nat)
    {s : Station σ} (h : OnlyProduces intrude s.busy) :
    Follows track s (s.deliver intrude started remaining processed).2 := by
  obtain ⟨acts, hacts⟩ := h.named
  exact (deliver_followsBy htrack started remaining processed hacts).follows

theorem process_follows (htrack : Sink.Tracks track) (maxItems : Nat) {s : Station σ}
    (h : OnlyProduces intrude s.busy) : Follows track s (s.process intrude maxItems).2 := by
  obtain ⟨acts, hacts⟩ := h.named
  exact (process_followsBy htrack maxItems hacts).follows

end

end Station

end LogSpool
