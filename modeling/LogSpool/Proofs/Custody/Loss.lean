import Mathlib.Data.List.Induction
import LogSpool.Proofs.Custody.Representation

/-!
# Losses

This module says when an entry can be lost in a course in which nobody but the processor takes
entries out.  Taking an entry out frees a place in the queue.  The place stays free until the call
to the sink has ended, so that the entry can go back, unless a producer takes the place or somebody
closes the buffer in the meantime.

* `run_meanwhile` — how far the queue can grow while a call is pending.
* `Pending`, `pending_of_flight` — when the call that is pending began.
* `Loses`, `lost_or_loses` — which acts lose an entry, and what went before them.
* `Spared`, `spared_run` — a course that leaves pending calls alone loses nothing.
-/

namespace LogSpool

/-- Whether the act is one of the spool itself that does not end a pending call. -/
def Act.isMeanwhile : Act → Bool
  | .enqueue _ _ | .offer _ | .countError | .close => true
  | _ => false

theorem Act.isMeanwhile_of_isIntrusion {a : Act} (h : a.isIntrusion = true) :
    a.isMeanwhile = true := by
  cases a <;> simp_all [isIntrusion, isMeanwhile]

namespace Custody

variable {w : Custody}

theorem run_concat (w : Custody) (acts : List Act) (a : Act) :
    w.run (acts ++ [a]) = (w.run acts).perform a := by
  rw [run_append, run_cons, run_nil]

/-! ## While a call is pending -/

/-- A pending call stays pending, and the queue grows by no more than the entries that are
accepted. -/
theorem perform_meanwhile {d : Delivery} (hflight : w.inFlight = some d) {a : Act}
    (ha : a.isMeanwhile = true) :
    (w.perform a).inFlight = some d ∧
      (w.perform a).buffer.size + w.buffer.metrics.totalIngested ≤
        w.buffer.size + (w.perform a).buffer.metrics.totalIngested := by
  cases a with
  | enqueue f now =>
      rcases w.perform_enqueue f now with ⟨-, h⟩ | ⟨b, storage, rfl | rfl, h⟩
      · rw [h]
        refine ⟨hflight, ?_⟩
        simp only [Buffer.accept_size, Buffer.accept_totalIngested]
        omega
      · rw [h]
        exact ⟨hflight, Nat.le_refl _⟩
      · rw [h]
        exact ⟨hflight, Nat.le_refl _⟩
  | offer now =>
      -- the processor has one call at a time
      have hsame : w.perform (.offer now) = w := by simp [perform, hflight]
      rw [hsame]
      exact ⟨hflight, Nat.le_refl _⟩
  | countError =>
      obtain ⟨b, rfl | rfl, h⟩ := w.perform_countError
      · rw [h]
        exact ⟨hflight, Nat.le_refl _⟩
      · rw [h]
        exact ⟨hflight, Nat.le_refl _⟩
  | close =>
      rcases w.perform_close with ⟨-, h⟩ | ⟨-, h⟩
      · rw [h]
        refine ⟨hflight, ?_⟩
        change 0 + w.buffer.metrics.totalIngested ≤ w.buffer.size + w.buffer.metrics.totalIngested
        omega
      · rw [h]
        exact ⟨hflight, Nat.le_refl _⟩
  | take hand => simp [Act.isMeanwhile] at ha
  | giveBack hand => simp [Act.isMeanwhile] at ha
  | discard hand => simp [Act.isMeanwhile] at ha
  | settle answer now => simp [Act.isMeanwhile] at ha

theorem run_meanwhile {d : Delivery} (hflight : w.inFlight = some d) {acts : List Act}
    (hacts : ∀ a ∈ acts, a.isMeanwhile = true) :
    (w.run acts).inFlight = some d ∧
      (w.run acts).buffer.size + w.buffer.metrics.totalIngested ≤
        w.buffer.size + (w.run acts).buffer.metrics.totalIngested := by
  refine run_induction (fun w' => w'.inFlight = some d ∧
    w'.buffer.size + w.buffer.metrics.totalIngested ≤
      w.buffer.size + w'.buffer.metrics.totalIngested) Act.isMeanwhile ?_ hacts
    ⟨hflight, Nat.le_refl _⟩
  rintro w' a ha ⟨hflight', hgrown⟩
  obtain ⟨hstill, hstep⟩ := perform_meanwhile hflight' ha
  exact ⟨hstill, by omega⟩

/-- No call is pending once one has been settled. -/
theorem settle_inFlight (w : Custody) (answer : Answer) (now : Int) :
    (w.perform (.settle answer now)).inFlight = none := by
  cases hflight : w.inFlight with
  | none => simp [perform, hflight]
  | some d =>
      by_cases haccepted : answer = .accepted
      · simp [perform, hflight, haccepted, conclude]
      · simp [perform, hflight, haccepted, conclude]

/-- The call for `d` has been pending since an act that took its entry out. -/
structure Pending (w : Custody) (before : List Act) (now : Int) (during : List Act)
    (d : Delivery) : Prop where
  idle : (w.run before).inFlight = none
  offered : (w.run (before ++ [.offer now])).inFlight = some d
  meanwhile : ∀ a ∈ during, a.isMeanwhile = true

theorem Pending.concat {before during : List Act} {now : Int} {d : Delivery}
    (h : w.Pending before now during d) {a : Act} (ha : a.isMeanwhile = true) :
    w.Pending before now (during ++ [a]) d where
  idle := h.idle
  offered := h.offered
  meanwhile := by
    intro a' ha'
    rcases List.mem_append.1 ha' with ha' | ha'
    · exact h.meanwhile a' ha'
    · obtain rfl := List.mem_singleton.1 ha'
      exact ha

/-- A call that is pending began with an act of the course. -/
theorem pending_of_flight (hidle : w.inFlight = none) {acts : List Act}
    (hacts : ∀ a ∈ acts, a.isInternal = true) {d : Delivery}
    (hflight : (w.run acts).inFlight = some d) :
    ∃ before now during, acts = before ++ .offer now :: during ∧
      w.Pending before now during d := by
  induction acts using List.reverseRecOn with
  | nil => simp [hidle] at hflight
  | append_singleton acts a ih =>
      have hinternal := hacts a (by simp)
      have hbefore : ∀ a ∈ acts, a.isInternal = true :=
        fun a' ha' => hacts a' (List.mem_append_left _ ha')
      -- if the call was pending before the last act, that act did not end it
      have hearlier (hmeanwhile : a.isMeanwhile = true) (h : (w.run acts).inFlight = some d) :
          ∃ before now during, acts ++ [a] = before ++ .offer now :: during ∧
            w.Pending before now during d := by
        obtain ⟨before, now, during, rfl, hpending⟩ := ih hbefore h
        exact ⟨before, now, during ++ [a], by simp, hpending.concat hmeanwhile⟩
      have hperform := hflight
      rw [run_concat] at hperform
      cases a with
      | enqueue f now =>
          have hsame := ((w.run acts).perform_untouched (.enqueue f now)).pending rfl
          exact hearlier rfl (hsame.1 ▸ hperform)
      | close =>
          have hsame := ((w.run acts).perform_untouched .close).pending rfl
          exact hearlier rfl (hsame.1 ▸ hperform)
      | countError => exact hearlier rfl hperform
      | settle answer now => simp [settle_inFlight] at hperform
      | offer now =>
          rcases (w.run acts).perform_offer now with ⟨e, rest, hnone, -, -, -⟩ | h
          · exact ⟨acts, now, [], rfl, hnone, hflight, by simp⟩
          · exact hearlier rfl (h ▸ hperform)
      | take hand => simp [Act.isInternal] at hinternal
      | giveBack hand => simp [Act.isInternal] at hinternal
      | discard hand => simp [Act.isInternal] at hinternal

/-- The entry of a pending call has left a place free, which only producers can have taken. -/
theorem Pending.room (hw : w.buffer.Gauged) {before during : List Act} {now : Int} {d : Delivery}
    (h : w.Pending before now during d) :
    (w.run (before ++ .offer now :: during)).buffer.size +
        (w.run (before ++ [.offer now])).buffer.metrics.totalIngested <
      w.buffer.capacity +
        (w.run (before ++ .offer now :: during)).buffer.metrics.totalIngested := by
  have hgrown := (run_meanwhile h.offered h.meanwhile).2
  rw [← run_append, List.append_assoc, List.singleton_append] at hgrown
  have hoffered := h.offered
  rw [run_concat] at hoffered hgrown ⊢
  rcases (w.run before).perform_offer now with ⟨e, rest, -, -, hqueue, htaken⟩ | hsame
  · have hbounded := (gauged_run hw before).bounded
    have hcapacity := w.run_capacity before
    have hsize : (w.run before).buffer.size = rest.length + 1 := by simp [Buffer.size, hqueue]
    rw [htaken] at hgrown ⊢
    simp only [Buffer.withQueue_size] at hgrown ⊢
    omega
  · rw [hsame, h.idle] at hoffered
    cases hoffered

/-! ## Losing an entry -/

/-- The last act of a course loses the entry in flight.  The call for it has ended without success,
and by then somebody had closed the buffer, or the queue was full and an entry had been accepted
while the call was pending.  The buffer is as it was. -/
structure Loses (w : Custody) (acts : List Act) (a : Act) (d : Delivery) : Prop where
  failed : ∃ answer now, a = .settle answer now ∧ answer ≠ .accepted
  flight : (w.run acts).inFlight = some d
  lost : (w.run (acts ++ [a])).lost = (w.run acts).lost ++ [d.entry]
  buffer : (w.run (acts ++ [a])).buffer = (w.run acts).buffer
  cause : ∃ before now during, acts = before ++ .offer now :: during ∧
    w.Pending before now during d ∧
      ((w.run acts).buffer.isOpen = false ∨
        (w.run acts).buffer.size = w.buffer.capacity ∧
          (w.run (before ++ [.offer now])).buffer.metrics.totalIngested <
            (w.run acts).buffer.metrics.totalIngested)

/-- Only the end of a call can lose an entry. -/
theorem perform_lost (w : Custody) {a : Act} (ha : ∀ answer now, a ≠ .settle answer now) :
    (w.perform a).lost = w.lost := by
  unfold lost
  cases a with
  | enqueue f now => rw [((w.perform_untouched (.enqueue f now)).pending rfl).2]
  | take hand => rcases w.perform_take hand with ⟨e, rest, -, -, h⟩ | h <;> rw [h]
  | giveBack hand => rcases w.perform_giveBack hand with ⟨e, -, -, -, h⟩ | ⟨storage, h⟩ <;> rw [h]
  | discard hand => rfl
  | offer now => rcases w.perform_offer now with ⟨e, rest, -, -, -, h⟩ | h <;> rw [h]
  | settle answer now => exact absurd rfl (ha answer now)
  | countError => rfl
  | close => rw [((w.perform_untouched .close).pending rfl).2]

/-- The end of a call loses nothing, or the entry in flight; then the entry could not go back, and
the buffer is as it was.  There is storage enough. -/
theorem settle_lost (hw : w.storage = .ample) (answer : Answer) (now : Int) :
    (w.perform (.settle answer now)).lost = w.lost ∨
      ∃ d, w.inFlight = some d ∧ answer ≠ .accepted ∧
        (w.buffer.isOpen = false ∨ w.buffer.capacity ≤ w.buffer.size) ∧
        (w.perform (.settle answer now)).lost = w.lost ++ [d.entry] ∧
        (w.perform (.settle answer now)).buffer = w.buffer := by
  rcases w.perform_settle answer now with
    ⟨d, hflight, ⟨-, h⟩ | ⟨-, -, -, h⟩ | ⟨hanswer, hrefused, storage, h⟩⟩ | h
  · left
    rw [h, lost_conclude]
    simp [Attempt.isLost, Attempt.isDelivered]
  · left
    rw [h, lost_conclude]
    simp [Attempt.isLost]
  · right
    refine ⟨d, hflight, hanswer, ?_, ?_, by rw [h]; rfl⟩
    · rcases hrefused with hclosed | hfull | hshort
      · exact Or.inl hclosed
      · exact Or.inr hfull
      · exact absurd (by rw [hw]; rfl) hshort
    · rw [h, lost_conclude]
      simp [Attempt.isLost, Attempt.isDelivered, hanswer, Attempt.entry]
  · left
    rw [h]

/-- An act that loses anything loses the entry in flight, and nothing else changes. -/
theorem lost_or_loses (hw : w.buffer.Gauged) (hstorage : w.storage = .ample)
    (hidle : w.inFlight = none) {acts : List Act} (hacts : ∀ a ∈ acts, a.isInternal = true)
    (a : Act) : (w.run (acts ++ [a])).lost = (w.run acts).lost ∨ ∃ d, w.Loses acts a d := by
  rw [run_concat]
  by_cases hsettle : ∃ answer now, a = .settle answer now
  · obtain ⟨answer, now, rfl⟩ := hsettle
    rcases settle_lost (run_ample hstorage acts) answer now with
      hsame | ⟨d, hflight, hanswer, hrefused, hlost, hbuffer⟩
    · exact Or.inl hsame
    · right
      obtain ⟨before, began, during, rfl, hpending⟩ := pending_of_flight hidle hacts hflight
      refine ⟨d, ⟨answer, now, rfl, hanswer⟩, hflight, ?_, ?_, before, began, during, rfl,
        hpending, ?_⟩
      · rw [run_concat]
        exact hlost
      · rw [run_concat]
        exact hbuffer
      · rcases hrefused with hclosed | hfull
        · exact Or.inl hclosed
        · right
          -- the queue is full again, so somebody has taken the place that was left free
          have hroom := hpending.room hw
          have hbounded := (gauged_run hw (before ++ .offer began :: during)).bounded
          have hcapacity := w.run_capacity (before ++ .offer began :: during)
          constructor <;> omega
  · left
    exact (w.run acts).perform_lost fun answer now h => hsettle ⟨answer, now, h⟩

/-! ## Losing nothing -/

/-- The act leaves a pending call alone: while one is pending it does not close the buffer, and it
gets no entry accepted. -/
def Spares (w : Custody) (a : Act) : Prop :=
  w.inFlight ≠ none → a ≠ .close ∧
    (w.perform a).buffer.metrics.totalIngested = w.buffer.metrics.totalIngested

/-- Nothing has been lost, and while a call is pending its entry can go back. -/
structure Spared (w : Custody) : Prop where
  gauged : w.buffer.Gauged
  ample : w.storage = .ample
  lost : w.lost = []
  room : w.inFlight ≠ none → w.buffer.isOpen = true ∧ w.buffer.size < w.buffer.capacity

/-- A new buffer has lost nothing, and no call is pending. -/
theorem around_spared {b : Buffer} (hb : b.Gauged) : (around b).Spared where
  gauged := hb
  ample := rfl
  lost := rfl
  room := fun h => absurd rfl h

theorem Spared.perform (hw : w.Spared) {a : Act} (ha : a.isInternal = true) (hspares : w.Spares a) :
    (w.perform a).Spared := by
  have hgauged := gauged_perform hw.gauged a
  have hample := perform_ample hw.ample a
  cases a with
  | enqueue f now =>
      rcases w.perform_enqueue f now with ⟨-, h⟩ | ⟨b, storage, hb, h⟩
      · rw [h] at hgauged hample
        rw [h]
        refine ⟨hgauged, hample, hw.lost, fun hflight => ?_⟩
        -- an entry that is accepted while a call is pending would be counted
        have hcount := (hspares hflight).2
        rw [h] at hcount
        simp at hcount
      · rw [h] at hgauged hample
        rw [h]
        refine ⟨hgauged, hample, hw.lost, fun hflight => ?_⟩
        have hroom := hw.room hflight
        rcases hb with rfl | rfl
        · exact hroom
        · exact hroom
  | offer now =>
      rcases w.perform_offer now with ⟨e, rest, -, hopen, hqueue, h⟩ | h
      · rw [h] at hgauged
        rw [h]
        refine ⟨hgauged, hw.ample, hw.lost, fun _ => ⟨hopen, ?_⟩⟩
        -- the entry has left a place free
        have hbounded := hw.gauged.bounded
        have hsize : w.buffer.size = rest.length + 1 := by simp [Buffer.size, hqueue]
        change rest.length < w.buffer.capacity
        omega
      · rw [h]
        exact hw
  | settle answer now =>
      refine ⟨hgauged, hample, ?_, fun hflight => absurd (w.settle_inFlight answer now) hflight⟩
      rcases settle_lost hw.ample answer now with hsame | ⟨d, hflight, -, hrefused, -, -⟩
      · exact hsame.trans hw.lost
      · obtain ⟨hopen, hroom⟩ := hw.room (by simp [hflight])
        rcases hrefused with hclosed | hfull
        · exact absurd (hopen.symm.trans hclosed) (by decide)
        · omega
  | countError =>
      obtain ⟨b, hb, h⟩ := w.perform_countError
      rw [h] at hgauged
      rw [h]
      refine ⟨hgauged, hw.ample, hw.lost, fun hflight => ?_⟩
      have hroom := hw.room hflight
      rcases hb with rfl | rfl
      · exact hroom
      · exact hroom
  | close =>
      refine ⟨hgauged, hample, (w.perform_lost (by simp)).trans hw.lost, fun hflight => ?_⟩
      rw [((w.perform_untouched .close).pending rfl).1] at hflight
      exact absurd rfl (hspares hflight).1
  | take hand => simp [Act.isInternal] at ha
  | giveBack hand => simp [Act.isInternal] at ha
  | discard hand => simp [Act.isInternal] at ha

/-- A course of which every act leaves pending calls alone loses nothing. -/
theorem spared_run {acts : List Act} (hw : w.Spared) (hacts : ∀ a ∈ acts, a.isInternal = true)
    (hspares : ∀ before a after, acts = before ++ a :: after → (w.run before).Spares a) :
    (w.run acts).Spared := by
  induction acts generalizing w with
  | nil => exact hw
  | cons a acts ih =>
      have hfirst := hw.perform (hacts a List.mem_cons_self) (hspares [] a acts rfl)
      refine ih hfirst (fun a' ha' => hacts a' (List.mem_cons_of_mem a ha')) ?_
      rintro before a' after rfl
      exact hspares (a :: before) a' after rfl

end Custody

end LogSpool
