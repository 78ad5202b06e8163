import Mathlib.Tactic.Choose
import LogSpool.Proofs.Station.Chronicle
import LogSpool.Proofs.Station.Errand

/-!
# Calls that are pending

This module says what a station can have become when a call to its sink ends.  While the call is
pending others act on the station, but they come as producers: they hand entries in, close the
buffer, and let time pass.

* `Station.ProducesBy` — the relation between a station and what producers have made of it by certain
  acts; `Station.Produces` leaves open which.
* `intrude_producesBy` — what a sink does to the buffer directly is of that kind.
* `callSink_eq` — a call takes its start, something that producers did, and its end.
-/

namespace LogSpool.Station

variable {σ : Type}

/-- `s'` is what producers, somebody who closes the buffer, and time have made of `s` by these
acts. -/
structure ProducesBy (acts : List Act) (s s' : Station σ) : Prop where
  beside : Beside s s'
  intrusions : ∀ a ∈ acts, a.isIntrusion = true
  run : ∀ w : Custody, w.buffer = s.buffer → w.storage = s.storage →
    (w.run acts).buffer = s'.buffer ∧ (w.run acts).storage = s'.storage

namespace ProducesBy

variable {s s' s'' : Station σ} {acts acts' : List Act}

/-- Where the buffer and the storage are the same nobody has acted. -/
theorem of_same (h : Beside s s') (hb : s'.buffer = s.buffer) (hstorage : s'.storage = s.storage) :
    ProducesBy [] s s' where
  beside := h
  intrusions := by simp
  run _ hw hw' := ⟨hw.trans hb.symm, hw'.trans hstorage.symm⟩

theorem refl (s : Station σ) : ProducesBy [] s s :=
  of_same (Beside.refl s) rfl rfl

theorem trans (h : ProducesBy acts s s') (h' : ProducesBy acts' s' s'') :
    ProducesBy (acts ++ acts') s s'' where
  beside := h.beside.trans h'.beside
  intrusions a ha := by
    rcases List.mem_append.1 ha with ha | ha
    · exact h.intrusions a ha
    · exact h'.intrusions a ha
  run w hw hstorage := by
    obtain ⟨hw', hstorage'⟩ := h.run w hw hstorage
    rw [Custody.run_append]
    exact h'.run _ hw' hstorage'

theorem enqueue (s : Station σ) (f : Fields) :
    ProducesBy [.enqueue f s.now] s (s.enqueue f).2 := by
  obtain ⟨answer, s', hs, hb, hstorage, hbeside⟩ := s.enqueue_cases f
  rw [hs]
  refine ⟨hbeside, by simp [Act.isIntrusion], ?_⟩
  intro w hw hw'
  rw [← hw, ← hw'] at hb
  rw [← hw'] at hstorage
  cases answer <;> simp [Custody.perform, hb, hstorage]

theorem close (s : Station σ) : ProducesBy [.close] s s.close.2 := by
  refine ⟨s.close_beside, by simp [Act.isIntrusion], ?_⟩
  intro w hw hw'
  rw [close_buffer, close_storage, ← hw, ← hw']
  exact ⟨rfl, rfl⟩

theorem moveClock (s : Station σ) (move : Clock → Clock) : ProducesBy [] s (s.moveClock move) :=
  of_same ⟨rfl, rfl, rfl, id⟩ rfl rfl

theorem record (s : Station σ) {e : Event} (he : e.lostId? = none) :
    ProducesBy [] s (s.record e) :=
  of_same ((Beside.refl s).record he) rfl rfl

theorem fillLoop (f : Fields) (fuel : Nat) (s : Station σ) :
    ProducesBy (fillActs f fuel s) s (s.fillLoop f fuel) := by
  induction fuel generalizing s with
  | zero => exact refl s
  | succ fuel ih =>
      have hfirst := enqueue s f
      unfold Station.fillLoop fillActs
      rcases h : s.enqueue f with ⟨why | id, s₁⟩ <;> rw [h] at hfirst
      · exact hfirst
      · exact hfirst.trans (ih s₁)

end ProducesBy

/-- What a sink does to the buffer directly, it does as a producer. -/
theorem intrude_producesBy (s : Station σ) (i : Intrusion) :
    ProducesBy (s.intrudeActs i) s (s.intrude i) := by
  cases i with
  | add f => exact .enqueue s f
  | fill f => exact .fillLoop f _ s
  | close => exact .close s
  | wait micros => exact .moveClock s (·.advance micros)
  | setWall ms => exact .moveClock s (·.setWall ms)

/-- `s'` is what producers, somebody who closes the buffer, and time have made of `s`. -/
def Produces (s s' : Station σ) : Prop :=
  ∃ acts, ProducesBy acts s s'

namespace Produces

variable {s s' s'' : Station σ}

theorem beside (h : Produces s s') : Beside s s' :=
  h.choose_spec.beside

theorem refl (s : Station σ) : Produces s s :=
  ⟨_, .refl s⟩

theorem trans : Produces s s' → Produces s' s'' → Produces s s''
  | ⟨_, h⟩, ⟨_, h'⟩ => ⟨_, h.trans h'⟩

theorem enqueue (s : Station σ) (f : Fields) : Produces s (s.enqueue f).2 :=
  ⟨_, .enqueue s f⟩

theorem close (s : Station σ) : Produces s s.close.2 :=
  ⟨_, .close s⟩

theorem moveClock (s : Station σ) (move : Clock → Clock) : Produces s (s.moveClock move) :=
  ⟨_, .moveClock s move⟩

end Produces

/-- An errand is one of a producer. -/
theorem Errand.produces {s s' : Station σ} (h : Errand s s') : Produces s s' := by
  cases h with
  | enqueue f => exact .enqueue s f
  | close => exact .close s
  | moveClock move => exact .moveClock s move
  | reached depth => exact ⟨_, .record s rfl⟩

theorem Errands.produces {s s' : Station σ} (h : Errands s s') : Produces s s' :=
  h.induction (P := Produces s) (fun herrand ht => ht.trans herrand.produces) (Produces.refl s)

/-- A kind of intrusions that produce by the acts that are given for them, as long as the station is
as busy as it is now. -/
def OnlyProducesBy (acts : Station σ → Intrusion → List Act)
    (intrude : Station σ → Intrusion → Station σ) (busy : Bool) : Prop :=
  ∀ s i, s.busy = busy → ProducesBy (acts s i) s (intrude s i)

theorem intrude_onlyProducesBy (busy : Bool) :
    OnlyProducesBy (intrudeActs (σ := σ)) intrude busy :=
  fun s i _ => s.intrude_producesBy i

namespace OnlyProducesBy

variable {acts : Station σ → Intrusion → List Act}
  {intrude : Station σ → Intrusion → Station σ} {busy : Bool}

theorem of_eq (h : OnlyProducesBy acts intrude busy) {busy' : Bool} (hbusy : busy' = busy) :
    OnlyProducesBy acts intrude busy' :=
  hbusy ▸ h

/-- What a sink does while it is called are acts of producers, one after the other. -/
theorem foldl (h : OnlyProducesBy acts intrude busy) (intrusions : List Intrusion) {s : Station σ}
    (hs : s.busy = busy) : ProducesBy (meanwhileActs intrude acts intrusions s) s
      (intrusions.foldl intrude s) := by
  induction intrusions generalizing s with
  | nil => exact ProducesBy.refl s
  | cons i intrusions ih =>
      have hfirst := h s i hs
      exact hfirst.trans (ih (hfirst.beside.busy.trans hs))

/-- A call takes its start, something that producers did, and its end. -/
theorem callSink_eq [Sink σ] {s : Station σ} (h : OnlyProducesBy acts intrude s.busy)
    (call : Call) :
    ∃ t, ProducesBy (s.callActs intrude acts call)
        { s with sink := (Sink.receive call s.sink).2 } t ∧
      s.callSink intrude call =
        ((Sink.settle call t.sink).1, { t with sink := (Sink.settle call t.sink).2 }) := by
  let started : Station σ := { s with sink := (Sink.receive call s.sink).2 }
  -- the wait that the sink asks for passes before anybody else comes
  have hwait : ProducesBy [] started (started.passTime (Sink.receive call s.sink).1) :=
    ProducesBy.moveClock started _
  exact ⟨_, hwait.trans (h.foldl (Sink.receive call s.sink).1.intrusions rfl), rfl⟩

end OnlyProducesBy

/-- A kind of intrusions that produce, as long as the station is as busy as it is now. -/
def OnlyProduces (intrude : Station σ → Intrusion → Station σ) (busy : Bool) : Prop :=
  ∀ s i, s.busy = busy → Produces s (intrude s i)

theorem OnlyProducesBy.produces {acts : Station σ → Intrusion → List Act}
    {intrude : Station σ → Intrusion → Station σ} {busy : Bool}
    (h : OnlyProducesBy acts intrude busy) : OnlyProduces intrude busy :=
  fun s i hs => ⟨_, h s i hs⟩

theorem intrude_onlyProduces (busy : Bool) : OnlyProduces (intrude (σ := σ)) busy :=
  (intrude_onlyProducesBy busy).produces

theorem OnlyErrands.produces {intrude : Station σ → Intrusion → Station σ} {busy : Bool}
    (h : OnlyErrands intrude busy) : OnlyProduces intrude busy :=
  fun s i hs => (h s i hs).produces

theorem OnlyProduces.of_eq {intrude : Station σ → Intrusion → Station σ} {busy busy' : Bool}
    (h : OnlyProduces intrude busy) (hbusy : busy' = busy) : OnlyProduces intrude busy' :=
  hbusy ▸ h

/-- Each intrusion has acts that can be named beforehand. -/
theorem OnlyProduces.named {intrude : Station σ → Intrusion → Station σ} {busy : Bool}
    (h : OnlyProduces intrude busy) : ∃ acts, OnlyProducesBy acts intrude busy := by
  unfold OnlyProduces Produces at h
  choose! acts hacts using h
  exact ⟨acts, hacts⟩

theorem OnlyProduces.foldl {intrude : Station σ → Intrusion → Station σ} {busy : Bool}
    (h : OnlyProduces intrude busy) (intrusions : List Intrusion) {s : Station σ}
    (hs : s.busy = busy) : Produces s (intrusions.foldl intrude s) := by
  obtain ⟨acts, hacts⟩ := h.named
  exact ⟨_, hacts.foldl intrusions hs⟩

/-- A call takes its start, something that producers did, and its end. -/
theorem callSink_eq [Sink σ] {intrude : Station σ → Intrusion → Station σ} {s : Station σ}
    (h : OnlyProduces intrude s.busy) (call : Call) :
    ∃ t, Produces { s with sink := (Sink.receive call s.sink).2 } t ∧
      s.callSink intrude call =
        ((Sink.settle call t.sink).1, { t with sink := (Sink.settle call t.sink).2 }) := by
  obtain ⟨acts, hacts⟩ := h.named
  obtain ⟨t, hproduced, hend⟩ := hacts.callSink_eq call
  exact ⟨t, ⟨_, hproduced⟩, hend⟩

end LogSpool.Station
