import LogSpool.Proofs.Custody.Representation

/-!
# Courses after the buffer was closed

This module shows that nothing follows the end of a buffer.  Whatever acts come after it, the buffer
is what it was when it was closed.  Only the entry that is in flight then has its end still before
it: the sink takes it, or it is lost, once; it never goes back.

* `Closes` — what courses can make of a custody whose buffer is closed.
* `closes_perform`, `closes_run` — acts and courses make nothing else of it.
* `run_discarded` — as long as the buffer is open, nothing is discarded.
* `flight_not_lost` — what is in flight has not been lost before.
-/

namespace LogSpool.Custody

/-- What can still happen once the buffer is closed: nothing, or the attempt in flight ends.  Its
entry does not go back. -/
structure Closes (w w' : Custody) : Prop where
  buffer : w'.buffer = w.buffer
  accepted : w'.accepted = w.accepted
  discarded : w'.discarded = w.discarded
  flight : (w'.inFlight = w.inFlight ∧ w'.attempts = w.attempts) ∨
    ∃ d answer, w.inFlight = some d ∧ w'.inFlight = none ∧
      w'.attempts = w.attempts ++ [⟨d, answer, false⟩]

namespace Closes

variable {w w' w'' : Custody}

theorem refl (w : Custody) : Closes w w :=
  ⟨rfl, rfl, rfl, Or.inl ⟨rfl, rfl⟩⟩

/-- An attempt that has ended does not end again. -/
theorem trans (h : Closes w w') (h' : Closes w' w'') : Closes w w'' where
  buffer := h'.buffer.trans h.buffer
  accepted := h'.accepted.trans h.accepted
  discarded := h'.discarded.trans h.discarded
  flight := by
    rcases h.flight with ⟨hflight, hattempts⟩ | ⟨d, answer, hflight, hnone, hattempts⟩
    · rw [← hflight, ← hattempts]
      exact h'.flight
    · right
      rcases h'.flight with ⟨hflight', hattempts'⟩ | ⟨d', answer', hflight', -, -⟩
      · exact ⟨d, answer, hflight, hflight'.trans hnone, hattempts'.trans hattempts⟩
      · rw [hnone] at hflight'
        cases hflight'

/-- What is lost afterwards is the entry in flight. -/
theorem lost (h : Closes w w') :
    w'.lost = w.lost ∨ ∃ d, w.inFlight = some d ∧ w'.inFlight = none ∧
      w'.lost = w.lost ++ [d.entry] := by
  have hlost (w : Custody) : w.lost = (w.attempts.filter Attempt.isLost).map Attempt.entry := rfl
  rcases h.flight with ⟨-, hattempts⟩ | ⟨d, answer, hflight, hnone, hattempts⟩
  · left
    rw [hlost w', hattempts, hlost w]
  · rw [hlost w', hattempts, hlost w, List.filter_append, List.map_append]
    by_cases haccepted : answer = .accepted
    · left
      simp [Attempt.isLost, Attempt.isDelivered, haccepted]
    · right
      refine ⟨d, hflight, hnone, ?_⟩
      simp [Attempt.isLost, Attempt.isDelivered, Attempt.entry, haccepted]

end Closes

/-- Every act after the end of the buffer, case by case. -/
theorem closes_perform {w : Custody} (hclosed : w.buffer.isOpen = false) (a : Act) :
    Closes w (w.perform a) := by
  have hnot {α : Prop} (hopen : w.buffer.isOpen = true) : α :=
    absurd (hopen.symm.trans hclosed) (by decide)
  cases a with
  | enqueue f now =>
      have hbuffer : (w.buffer.enqueue f now w.storage.shortage?).2 = w.buffer :=
        Buffer.enqueue_snd_of_closed hclosed f now
      rcases h : w.buffer.enqueue f now w.storage.shortage? with ⟨why | id, b⟩ <;>
        rw [h] at hbuffer
      · simp only [perform, h]
        exact ⟨hbuffer, rfl, rfl, Or.inl ⟨rfl, rfl⟩⟩
      · exact hnot ((w.buffer.refusal?_eq_none_iff f).1 (Buffer.enqueue_accepted h).1).2.1
  | take hand =>
      rcases w.perform_take hand with ⟨e, rest, hopen, -, -⟩ | h
      · exact hnot hopen
      · rw [h]
        exact .refl w
  | giveBack hand =>
      rcases w.perform_giveBack hand with ⟨e, -, hopen, -, -⟩ | ⟨storage, h⟩
      · exact hnot hopen
      · rw [h]
        exact ⟨rfl, rfl, rfl, Or.inl ⟨rfl, rfl⟩⟩
  | discard hand => exact ⟨rfl, rfl, rfl, Or.inl ⟨rfl, rfl⟩⟩
  | offer now =>
      rcases w.perform_offer now with ⟨e, rest, -, hopen, -, -⟩ | h
      · exact hnot hopen
      · rw [h]
        exact .refl w
  | settle answer now =>
      rcases w.perform_settle answer now with
        ⟨d, hflight, ⟨-, h⟩ | ⟨-, hopen, -, -⟩ | ⟨-, -, storage, h⟩⟩ | h
      · -- the delivery itself is not recorded any more
        rw [h, Buffer.markProcessed_of_closed hclosed]
        exact ⟨rfl, rfl, rfl, Or.inr ⟨d, .accepted, hflight, rfl, rfl⟩⟩
      · exact hnot hopen
      · rw [h]
        exact ⟨rfl, rfl, rfl, Or.inr ⟨d, answer, hflight, rfl, rfl⟩⟩
      · rw [h]
        exact .refl w
  | countError =>
      exact ⟨Buffer.markError_of_closed hclosed, rfl, rfl, Or.inl ⟨rfl, rfl⟩⟩
  | close =>
      rcases w.perform_close with ⟨hopen, -⟩ | ⟨-, h⟩
      · exact hnot hopen
      · rw [h]
        exact .refl w

/-- Every course after the end of the buffer. -/
theorem closes_run {w : Custody} (hclosed : w.buffer.isOpen = false) (acts : List Act) :
    Closes w (w.run acts) := by
  induction acts generalizing w with
  | nil => exact .refl w
  | cons a acts ih =>
      have hfirst := closes_perform hclosed a
      exact hfirst.trans (ih (hfirst.buffer ▸ hclosed))

/-- A buffer that is open in the end has been open all the time. -/
theorem isOpen_of_run {w : Custody} {acts : List Act}
    (hopen : (w.run acts).buffer.isOpen = true) : w.buffer.isOpen = true := by
  cases h : w.buffer.isOpen with
  | true => rfl
  | false =>
      rw [(closes_run h acts).buffer, h] at hopen
      cases hopen

/-! ## What is discarded -/

/-- Only the end of the buffer discards entries, so an act that leaves the buffer open discards
none. -/
theorem perform_discarded {w : Custody} {a : Act} (hopen : (w.perform a).buffer.isOpen = true) :
    (w.perform a).discarded = w.discarded := by
  cases a with
  | enqueue f now =>
      rcases w.perform_enqueue f now with ⟨-, h⟩ | ⟨b, storage, -, h⟩ <;> rw [h]
  | take hand =>
      rcases w.perform_take hand with ⟨e, rest, -, -, h⟩ | h <;> rw [h]
  | giveBack hand =>
      rcases w.perform_giveBack hand with ⟨e, -, -, -, h⟩ | ⟨storage, h⟩ <;> rw [h]
  | discard hand => rfl
  | offer now =>
      rcases w.perform_offer now with ⟨e, rest, -, -, -, h⟩ | h <;> rw [h]
  | settle answer now =>
      rcases w.perform_settle answer now with
        ⟨d, -, ⟨-, h⟩ | ⟨-, -, -, h⟩ | ⟨-, -, storage, h⟩⟩ | h <;> rw [h] <;> rfl
  | countError => rfl
  | close =>
      rcases w.perform_close with ⟨-, h⟩ | ⟨-, h⟩
      · rw [h] at hopen
        cases hopen
      · rw [h]

/-- A course that leaves the buffer open has discarded nothing. -/
theorem run_discarded {w : Custody} {acts : List Act}
    (hopen : (w.run acts).buffer.isOpen = true) : (w.run acts).discarded = w.discarded := by
  induction acts generalizing w with
  | nil => rfl
  | cons a acts ih => exact (ih hopen).trans (perform_discarded (isOpen_of_run hopen))

/-! ## The entry in flight -/

theorem Reachable.conserved {capacity : Nat} {now : Int} {b : Buffer}
    (hb : Buffer.create capacity now = .ok b) {w : Custody} (hw : Reachable b w) :
    w.Conserved := by
  induction hw with
  | opened storage => exact conserved_around hb storage
  | act a _ ih => exact conserved_perform ih a
  | record latency now _ ih => exact ih.record latency now

/-- What is in flight has not been lost before. -/
theorem Conserved.flight_not_lost {w : Custody} (hw : w.Conserved) {d : Delivery}
    (hflight : w.inFlight = some d) : d.entry.id ∉ w.lost.map Entry.id := by
  intro hlost
  have hpartitioned := hw.partitioned
  have hmem : d.entry.id ∈ (w.entriesAt .flight).map Entry.id := by
    simp [entriesAt, hflight]
  obtain ⟨hlow, hhigh⟩ := hpartitioned.given_out .flight d.entry.id hmem
  have hplace : Place.flight = Place.lost :=
    (hpartitioned.one_place d.entry.id hlow hhigh).unique hmem hlost
  cases hplace

end LogSpool.Custody
