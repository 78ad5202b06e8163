import LogSpool.Proofs.Custody.Loss
import LogSpool.Proofs.Station.Offer

/-!
# What a batch can lose

This module says which entries a batch loses: at most one, which is the entry that the sink was
called with last.  Where there is storage for the entry it is lost only if the place that it had left
was taken while the call was pending, or the buffer was closed.

* `Losses` — what a batch has lost, and why.
* `Delivers.losses`, `process_losses` — every batch loses in no other way.
* `Undisturbed`, `Losses.of_undisturbed` — a batch that nobody interferes with loses nothing.
-/

namespace LogSpool

namespace Station

variable {σ : Type} [Sink σ] {intrude : Station σ → Intrusion → Station σ}

/-! ## One call -/

omit [Sink σ] in
/-- While the call for `d` is pending, the queue grows by no more than the entries that producers
hand in, and the gauges stay right. -/
theorem Produces.meanwhile {s s' : Station σ} (h : Produces s s') (hs : s.buffer.Gauged)
    (d : Delivery) :
    s'.buffer.Gauged ∧ s'.buffer.capacity = s.buffer.capacity ∧
      s'.buffer.size + s.buffer.metrics.totalIngested ≤
        s.buffer.size + s'.buffer.metrics.totalIngested := by
  obtain ⟨acts, hacts⟩ := h
  let w : Custody := { Custody.around s.buffer s.storage with inFlight := some d }
  have hbuffer : (w.run acts).buffer = s'.buffer := (hacts.run w rfl rfl).1
  have hmeanwhile : ∀ a ∈ acts, a.isMeanwhile = true :=
    fun a ha => Act.isMeanwhile_of_isIntrusion (hacts.intrusions a ha)
  have hgauged : (w.run acts).buffer.Gauged := Custody.gauged_run hs acts
  have hcapacity : (w.run acts).buffer.capacity = s.buffer.capacity := w.run_capacity acts
  have hgrown := (Custody.run_meanwhile (show w.inFlight = some d from rfl) hmeanwhile).2
  rw [hbuffer] at hgauged hcapacity hgrown
  exact ⟨hgauged, hcapacity, hgrown⟩

/-- The place that an entry has left is free when the call for it has ended, unless an entry was
accepted in the meantime. -/
theorem call_room {s t ended : Station σ} (h : OnlyProduces intrude s.busy)
    (hs : s.buffer.Gauged) {e : Entry} {answer : Answer} (htaken : s.dequeue = (.ok (some e), t))
    (hcall : t.callSink intrude (.log (t.deliveryOf e)) = (answer, ended)) :
    ended.buffer.Gauged ∧ ended.busy = s.busy ∧ ended.lostIds = s.lostIds ∧
      (s.storage = .ample → ended.storage = .ample) ∧
      (ended.buffer.capacity ≤ ended.buffer.size →
        t.buffer.metrics.totalIngested < ended.buffer.metrics.totalIngested) := by
  obtain ⟨hopen, ⟨rest, hqueue, hbuffer⟩, hbeside, -⟩ := dequeue_taken htaken
  have ht : t.buffer.Gauged := by
    rw [hbuffer]
    exact hs.taken hopen hqueue
  obtain ⟨u, hproduced, hend⟩ := callSink_eq (h.of_eq hbeside.busy) (.log (t.deliveryOf e))
  obtain ⟨-, rfl⟩ := Prod.mk.inj (hcall.symm.trans hend)
  obtain ⟨hgauged, hcapacity, hgrown⟩ := hproduced.meanwhile ht (t.deliveryOf e)
  refine ⟨hgauged, hproduced.beside.busy.trans hbeside.busy,
    hproduced.beside.lostIds.trans hbeside.lostIds, hproduced.beside.ample ∘ hbeside.ample,
    fun hfull => ?_⟩
  -- before the call there was room for one entry more
  have hroom : t.buffer.size < t.buffer.capacity := by
    have hbounded := hs.bounded
    have hsize : s.buffer.size = rest.length + 1 := by simp [Buffer.size, hqueue]
    rw [hbuffer, Buffer.withQueue_size, Buffer.withQueue_capacity]
    omega
  change u.buffer.capacity ≤ u.buffer.size at hfull
  change u.buffer.capacity = t.buffer.capacity at hcapacity
  change u.buffer.size + t.buffer.metrics.totalIngested ≤
    t.buffer.size + u.buffer.metrics.totalIngested at hgrown
  change t.buffer.metrics.totalIngested < u.buffer.metrics.totalIngested
  omega

/-! ## A loop of deliveries -/

/-- A batch has lost the entry that the sink was called with at `t`, as the state in which the call
ended shows: there was no storage for it, or the buffer had been closed, or it was full and had
accepted an entry meanwhile.  Ample storage does not run out.  The queue is as the call left it. -/
structure LosesAt (intrude : Station σ → Intrusion → Station σ) (s s' t : Station σ) (e : Entry)
    {α : Type} (outcome : Outcome α) : Prop where
  failed : (t.callSink intrude (.log (t.deliveryOf e))).1 ≠ .accepted
  cause :
    let ended := (t.callSink intrude (.log (t.deliveryOf e))).2
    ended.storage.shortage? = none → ended.buffer.isOpen = false ∨
      ended.buffer.size = ended.buffer.capacity ∧
        t.buffer.metrics.totalIngested < ended.buffer.metrics.totalIngested
  ample : s.storage = .ample →
    (t.callSink intrude (.log (t.deliveryOf e))).2.storage.shortage? = none
  lost : s'.lostIds = s.lostIds ++ [e.id]
  queue : s'.buffer.queue = (t.callSink intrude (.log (t.deliveryOf e))).2.buffer.queue
  outcome : outcome = .abandoned ∨
    ∃ processed reason why, outcome = .failed (.requeueLoss e.id processed reason why)

/-- What a batch that may take `limit` entries has lost: nothing, or one entry. -/
inductive Losses (intrude : Station σ → Intrusion → Station σ) (limit : Nat) (s s' : Station σ)
    {α : Type} (outcome : Outcome α) : Prop where
  | nothing : s'.lostIds = s.lostIds →
    (∀ id processed reason why, outcome ≠ .failed (.requeueLoss id processed reason why)) →
    Losses intrude limit s s' outcome
  | one {t : Station σ} {e : Entry} : Offers intrude limit s e t →
    LosesAt intrude s s' t e outcome → Losses intrude limit s s' outcome

/-- An entry whose call did not succeed, and which could not go back. -/
theorem losesAt_of_refused {s s' t ended : Station σ} (h : OnlyProduces intrude s.busy)
    (hs : s.buffer.Gauged) {e : Entry} {answer : Answer} (htaken : s.dequeue = (.ok (some e), t))
    (hcall : t.callSink intrude (.log (t.deliveryOf e)) = (answer, ended))
    (hanswer : answer ≠ .accepted) {b b' : Buffer} {refusal : EngineError}
    (hb : b = ended.buffer ∨ b = ended.buffer.countError)
    (hrefused : b.requeueFront e ended.storage.shortage? = (.error refusal, b'))
    (hqueue : s'.buffer.queue = b'.queue) (hlost : s'.lostIds = ended.lostIds ++ [e.id])
    {α : Type} {outcome : Outcome α} (houtcome : outcome = .abandoned ∨
      ∃ processed reason why, outcome = .failed (.requeueLoss e.id processed reason why)) :
    LosesAt intrude s s' t e outcome := by
  obtain ⟨hgauged, -, hsame, hample, hroom⟩ := call_room h hs htaken hcall
  obtain ⟨hwhy, rfl⟩ := Buffer.requeueFront_refused hrefused
  -- an error that was counted in between plays no part
  have hwhy' : ended.buffer.isOpen = false ∨ ended.buffer.capacity ≤ ended.buffer.size ∨
      ended.storage.shortage? ≠ none := by
    rcases hb with rfl | rfl
    · exact hwhy
    · exact hwhy
  have hqueue' : b'.queue = ended.buffer.queue := by
    rcases hb with rfl | rfl
    · rfl
    · rfl
  constructor
  · rw [hcall]
    exact hanswer
  · rw [hcall]
    intro _ hstorage
    rcases hwhy' with hclosed | hfull | hshort
    · exact Or.inl hclosed
    · exact Or.inr ⟨Nat.le_antisymm hgauged.bounded hfull, hroom hfull⟩
    · exact absurd hstorage hshort
  · rw [hcall]
    intro hstorage
    exact congrArg Storage.shortage? (hample hstorage)
  · rw [hlost, hsame]
  · rw [hcall]
    exact hqueue.trans hqueue'
  · exact houtcome

/-- A loop of deliveries loses nothing, or the entry that the sink was called with last. -/
theorem Delivers.losses {started limit processed : Nat} {s s' : Station σ} {outcome : Outcome Nat}
    (hloop : Delivers intrude started limit processed s outcome s')
    (h : OnlyProduces intrude s.busy) (hs : s.buffer.Gauged) :
    Losses intrude limit s s' outcome := by
  induction hloop with
  | limit => exact .nothing rfl (by simp)
  | closed _ => exact .nothing rfl (by simp)
  | empty _ _ => exact .nothing rfl (by simp)
  | @accepted _ _ _ t ended _ e _ htaken hcall _ ih =>
      obtain ⟨hgauged, hbusy, hsame, hample, -⟩ := call_room h hs htaken hcall
      have hdelivered := ended.delivered_beside (t.deliveryOf e)
      have hgauged' : (ended.delivered (t.deliveryOf e)).buffer.Gauged := by
        rw [delivered_buffer]
        exact hgauged.markProcessed _
      have hsame' := hdelivered.lostIds.trans hsame
      -- what the rest of the loop loses, the whole loop loses
      cases ih (h.of_eq (hdelivered.busy.trans hbusy)) hgauged' with
      | nothing hnothing hno => exact .nothing (hnothing.trans hsame') hno
      | one hoffers hloses =>
          exact .one (.later htaken hcall hoffers)
            { hloses with
              lost := by rw [hloses.lost, hsame']
              ample := fun hstorage => hloses.ample (hdelivered.ample (hample hstorage)) }
  | @refused _ processed _ _ ended _ e why _ htaken hcall hrecover =>
      obtain ⟨-, -, hsame, -⟩ := call_room h hs htaken hcall
      obtain ⟨_, _, hs', -, -, hentry⟩ :=
        (ended.markError.observeBatch started).recover_spec e processed why
      obtain ⟨rfl, rfl⟩ := Prod.mk.inj (hrecover.symm.trans hs')
      rcases hentry with ⟨-, rfl, hback⟩ | ⟨refusal, hgone, rfl, hgone'⟩
      · exact .nothing (hback.trans hsame) (by simp)
      · exact .one (.first htaken) (losesAt_of_refused h hs htaken hcall (by simp)
          ended.buffer.markError_eq hgone rfl hgone' (Or.inr ⟨processed, _, why, rfl⟩))
  | @stalled _ _ _ _ ended e htaken hcall =>
      obtain ⟨-, -, hsame, -⟩ := call_room h hs htaken hcall
      obtain ⟨-, -, ⟨-, hback⟩ | ⟨refusal, b, hgone, hb, hgone'⟩⟩ := ended.abandon_spec e
      · exact .nothing (hback.trans hsame) (by simp)
      · have hqueue : (ended.abandon e).buffer.queue = b.queue := by
          rw [hb]
          rcases b.markError_eq with hsame' | hsame' <;> rw [hsame']
          rfl
        exact .one (.first htaken) (losesAt_of_refused h hs htaken hcall (by simp)
          (Or.inl rfl) hgone hqueue hgone' (Or.inl rfl))

/-! ## Batches -/

/-- Handing over a snapshot loses nothing. -/
theorem persistSnapshot_lostIds {s : Station σ} (h : OnlyProduces intrude s.busy) :
    (s.persistSnapshot intrude).2.lostIds = s.lostIds := by
  rw [persistSnapshot]
  cases s.buffer.snapshot with
  | error why => exact ((Beside.refl s).record rfl).lostIds
  | ok metrics =>
      obtain ⟨t, hproduced, hend⟩ := callSink_eq h (.snapshot metrics)
      have hlost : t.lostIds = s.lostIds := hproduced.beside.lostIds
      dsimp only
      rw [hend]
      cases (Sink.settle (.snapshot metrics) t.sink).1 with
      | accepted => exact hlost
      | refused why => exact ((Beside.refl _).record rfl).lostIds.trans hlost
      | stalled => exact hlost

/-- Every batch loses nothing, or the entry that the sink was called with last. -/
theorem process_losses (maxItems : Nat) {s : Station σ} (h : OnlyProduces intrude s.busy)
    (hs : s.buffer.Gauged) :
    Losses intrude (s.batchLimit maxItems) s (s.process intrude maxItems).2
      (s.process intrude maxItems).1 := by
  have hdeliver := (deliver_delivers s.clock.elapsed (s.batchLimit maxItems) 0 s).losses h hs
  have hbusy := (deliver_follows Sink.tracks_true s.clock.elapsed (s.batchLimit maxItems) 0 h).busy
  rcases hend : s.deliver intrude s.clock.elapsed (s.batchLimit maxItems) 0 with
    ⟨n | why | _, s₁⟩ <;> rw [hend] at hdeliver hbusy
  · -- a loop that was answered has lost nothing, and nothing is lost afterwards
    have hnothing : s₁.lostIds = s.lostIds := by
      cases hdeliver with
      | nothing hnothing _ => exact hnothing
      | one _ hloses =>
          rcases hloses.outcome with h | ⟨_, _, _, h⟩
          · cases h
          · cases h
    have hsnapshot := (persistSnapshot_lostIds (h.of_eq hbusy)).trans hnothing
    have hfinished (t : Station σ) (n : Nat) :
        (t.finishBatch s.clock.elapsed n).2.lostIds = t.lostIds :=
      (Beside.record (show Beside t (t.observeBatch s.clock.elapsed) from ⟨rfl, rfl, rfl, id⟩)
        rfl).lostIds
    rcases process_of_answered hend with ⟨-, hs⟩ | ⟨-, -, hs⟩ | ⟨-, -, hs⟩ <;> rw [hs]
    · exact .nothing ((hfinished s₁ 0).trans hnothing) (by simp [finishBatch])
    · exact .nothing hsnapshot (by simp)
    · exact .nothing ((hfinished _ n).trans hsnapshot) (by simp [finishBatch])
  · rw [process_of_failed hend]
    cases hdeliver with
    | nothing hnothing hno => exact .nothing hnothing (by simpa using hno)
    | one hoffers hloses =>
        exact .one hoffers { hloses with outcome := by simpa using hloses.outcome }
  · rw [process_of_abandoned hend]
    cases hdeliver with
    | nothing hnothing hno => exact .nothing hnothing (by simp)
    | one hoffers hloses => exact .one hoffers { hloses with outcome := Or.inl rfl }

/-- Nobody interferes with a batch that may take `limit` entries: while an entry is with the sink
the buffer is not closed, and no entry is accepted. -/
def Undisturbed (intrude : Station σ → Intrusion → Station σ) (limit : Nat) (s : Station σ) :
    Prop :=
  ∀ e t, Offers intrude limit s e t →
    let ended := (t.callSink intrude (.log (t.deliveryOf e))).2.buffer
    ended.isOpen = true ∧ ended.metrics.totalIngested = t.buffer.metrics.totalIngested

/-- A batch that nobody interferes with, and for which there is storage enough, loses nothing. -/
theorem Losses.of_undisturbed {limit : Nat} {s s' : Station σ} {α : Type} {outcome : Outcome α}
    (h : Losses intrude limit s s' outcome) (hundisturbed : Undisturbed intrude limit s)
    (hstorage : s.storage = .ample) : s'.lostIds = s.lostIds := by
  cases h with
  | nothing hnothing _ => exact hnothing
  | one hoffers hloses =>
      obtain ⟨hopen, hcount⟩ := hundisturbed _ _ hoffers
      rcases hloses.cause (hloses.ample hstorage) with hclosed | ⟨-, hgrown⟩
      · exact absurd (hopen.symm.trans hclosed) (by decide)
      · omega

end Station

end LogSpool
