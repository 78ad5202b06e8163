import LogSpool.Sink.Basic

/-!
# Sinks that keep a record

This module wraps a sink into one that keeps a record of the deliveries it was called with.  The
wrapped sink answers as before and disturbs as before; only the record is new, and nobody reads it
but the statements about runs.

* `Call.ended` — what the end of a call adds to a record; `Call.delivery?` — what it is made for.
* `takenOf` — the entries that the sink took.
* `Sink.Tracks` — a relation between the calls that have ended and the state of a sink, which every
  use of the sink keeps.
* `Recorded` — a sink with its record; `Recorded.tracks` says that the record is one.
* `Sink.Morphism`, `Sink.Preserves` — a map between sinks under which calls, or one call, look the
  same; to forget the record is one.
-/

namespace LogSpool

/-- A map between sinks under which calls look the same. -/
structure Sink.Morphism {σ τ : Type} [Sink σ] [Sink τ] (g : σ → τ) : Prop where
  receive : ∀ call x,
    Sink.receive call (g x) = ((Sink.receive call x).1, g (Sink.receive call x).2)
  settle : ∀ call x, Sink.settle call (g x) = ((Sink.settle call x).1, g (Sink.settle call x).2)
  close : ∀ x, Sink.close (g x) = g (Sink.close x)

/-- A map between sinks under which one call looks the same. -/
structure Sink.Preserves {σ τ : Type} [Sink σ] [Sink τ] (g : σ → τ) (call : Call) : Prop where
  receive : ∀ x,
    Sink.receive call (g x) = ((Sink.receive call x).1, g (Sink.receive call x).2)
  settle : ∀ x, Sink.settle call (g x) = ((Sink.settle call x).1, g (Sink.settle call x).2)

theorem Sink.Morphism.preserves {σ τ : Type} [Sink σ] [Sink τ] {g : σ → τ}
    (hg : Sink.Morphism g) (call : Call) : Sink.Preserves g call :=
  ⟨hg.receive call, hg.settle call⟩

/-- What is kept of a call that has ended.  Only deliveries count. -/
def Call.ended (call : Call) (answer : Answer) : List (Delivery × Answer) :=
  match call with
  | .log d => [(d, answer)]
  | _ => []

/-- The delivery that a call is made for. -/
def Call.delivery? : Call → Option Delivery
  | .log d => some d
  | _ => none

/-- The entries that the sink took, of deliveries that have ended. -/
def takenOf (made : List (Delivery × Answer)) : List Entry :=
  (made.filter fun call => call.2 = .accepted).map fun call => call.1.entry

theorem takenOf_append (made made' : List (Delivery × Answer)) :
    takenOf (made ++ made') = takenOf made ++ takenOf made' := by
  rw [takenOf, List.filter_append, List.map_append]
  rfl

/-- Of deliveries that were all accepted every entry was taken. -/
theorem takenOf_of_accepted {made : List (Delivery × Answer)}
    (h : ∀ call ∈ made, call.2 = .accepted) : takenOf made = made.map fun call => call.1.entry := by
  rw [takenOf, List.filter_eq_self.2 fun call hcall => decide_eq_true (h call hcall)]

/-- A relation between the deliveries whose calls have ended and the state of a sink that every use
of the sink keeps. -/
structure Sink.Tracks {σ : Type} [Sink σ] (track : List (Delivery × Answer) → σ → Prop) :
    Prop where
  receive : ∀ {made s} (call : Call), track made s → track made (Sink.receive call s).2
  settle : ∀ {made s} (call : Call), track made s →
    track (made ++ call.ended (Sink.settle call s).1) (Sink.settle call s).2
  close : ∀ {made s}, track made s → track made (Sink.close s)

/-- Of any sink one can say nothing. -/
theorem Sink.tracks_true {σ : Type} [Sink σ] :
    Sink.Tracks fun (_ : List (Delivery × Answer)) (_ : σ) => True where
  receive _ _ := trivial
  settle _ _ := trivial
  close _ := trivial

/-- A sink with a record: every delivery whose call has ended, with the answer, the earliest
first. -/
structure Recorded (σ : Type) where
  inner : σ
  record : List (Delivery × Answer)

namespace Recorded

variable {σ : Type}

/-- A sink with an empty record. -/
def ofSink (inner : σ) : Recorded σ :=
  ⟨inner, []⟩

/-- A change of the sink behind the record. -/
def onInner (change : σ → σ) (s : Recorded σ) : Recorded σ :=
  { s with inner := change s.inner }

/-- The record says which deliveries were made. -/
def track (made : List (Delivery × Answer)) (s : Recorded σ) : Prop :=
  s.record = made

end Recorded

instance {σ : Type} [Sink σ] : Sink (Recorded σ) where
  receive call s :=
    let (disturbance, inner) := Sink.receive call s.inner
    (disturbance, { s with inner })
  settle call s :=
    let (answer, inner) := Sink.settle call s.inner
    (answer, ⟨inner, s.record ++ call.ended answer⟩)
  close s := { s with inner := Sink.close s.inner }

theorem Recorded.tracks {σ : Type} [Sink σ] : Sink.Tracks (Recorded.track (σ := σ)) where
  receive _ h := h
  settle _ h := congrArg (· ++ _) h
  close h := h

/-- Without its record a sink does what it does with the record. -/
theorem Recorded.morphism {σ : Type} [Sink σ] : Sink.Morphism (Recorded.inner (σ := σ)) where
  receive _ _ := rfl
  settle _ _ := rfl
  close _ := rfl

end LogSpool
