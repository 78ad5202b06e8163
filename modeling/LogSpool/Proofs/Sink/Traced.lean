import LogSpool.Proofs.Sink.Recorded

/-!
# Sinks that keep a trace

This module wraps a sink into one that notes every use of it: each call when it starts and again
when it ends, and each time that it is closed.  A trace tells more than a record does, which only
has the deliveries that have ended: it shows which calls were pending together.

* `Moment`, `Traced` — what is noted, and a sink with its notes.
* `Traced.inner_morphism`, `Traced.recorded_morphism` — to forget the trace, or to keep only a
  record of it, changes nothing about the calls.
* `Traced.tracks_after` — the trace tells which deliveries were made.
* `deliveriesIn`, `callsIn`, `takenIn`, `cancelledIn`, `refusedSnapshotsIn` — what can be read off a
  trace.
* `Settled`, `Exclusive` — the inserts of a trace follow one another and never overlap.
-/

namespace LogSpool

/-- Whether a call hands something over that is to be kept: an entry or a snapshot. -/
def Call.isInsert : Call → Bool
  | .log _ | .snapshot _ => true
  | .ping => false

/-- What is noted of the use of a sink. -/
inductive Moment where
  | started (call : Call)
  | ended (call : Call) (answer : Answer)
  | closed

namespace Moment

/-- Whether an insert starts or ends. -/
def isInsert : Moment → Bool
  | .started call | .ended call _ => call.isInsert
  | .closed => false

/-- The delivery that ends, with its answer. -/
def delivery : Moment → List (Delivery × Answer)
  | .ended call answer => call.ended answer
  | _ => []

/-- The call that ends, with its answer. -/
def call : Moment → List (Call × Answer)
  | .ended call answer => [(call, answer)]
  | _ => []

/-- Whether the sink refuses a snapshot. -/
def isRefusedSnapshot : Moment → Bool
  | .ended (.snapshot _) (.refused _) => true
  | _ => false

/-- Whether the sink is closed. -/
def isClosing : Moment → Bool
  | .closed => true
  | _ => false

end Moment

/-! ## What a trace tells -/

/-- The deliveries that have ended, with their answers. -/
def deliveriesIn (trace : List Moment) : List (Delivery × Answer) :=
  trace.flatMap Moment.delivery

/-- The calls that have ended, with their answers. -/
def callsIn (trace : List Moment) : List (Call × Answer) :=
  trace.flatMap Moment.call

/-- The entries that the sink took. -/
def takenIn (trace : List Moment) : List Entry :=
  takenOf (deliveriesIn trace)

/-- How many deliveries were cancelled. -/
def cancelledIn (trace : List Moment) : Nat :=
  (deliveriesIn trace).countP fun made => made.2 = .stalled

/-- How many snapshots were refused. -/
def refusedSnapshotsIn (trace : List Moment) : Nat :=
  trace.countP Moment.isRefusedSnapshot

/-- How often the sink was closed. -/
def closingsIn (trace : List Moment) : Nat :=
  trace.countP Moment.isClosing

theorem deliveriesIn_append (trace trace' : List Moment) :
    deliveriesIn (trace ++ trace') = deliveriesIn trace ++ deliveriesIn trace' :=
  List.flatMap_append

theorem callsIn_append (trace trace' : List Moment) :
    callsIn (trace ++ trace') = callsIn trace ++ callsIn trace' :=
  List.flatMap_append

theorem cancelledIn_append (trace trace' : List Moment) :
    cancelledIn (trace ++ trace') = cancelledIn trace + cancelledIn trace' := by
  rw [cancelledIn, deliveriesIn_append, List.countP_append]
  rfl

theorem refusedSnapshotsIn_append (trace trace' : List Moment) :
    refusedSnapshotsIn (trace ++ trace') =
      refusedSnapshotsIn trace + refusedSnapshotsIn trace' :=
  List.countP_append

theorem closingsIn_append (trace trace' : List Moment) :
    closingsIn (trace ++ trace') = closingsIn trace + closingsIn trace' :=
  List.countP_append

/-! ## Inserts that do not overlap -/

/-- The start and the end of each call, one call after the other. -/
def consecutive (calls : List (Call × Answer)) : List Moment :=
  calls.flatMap fun made => [.started made.1, .ended made.1 made.2]

theorem consecutive_append (calls calls' : List (Call × Answer)) :
    consecutive (calls ++ calls') = consecutive calls ++ consecutive calls' :=
  List.flatMap_append

/-- Calls do not close a sink. -/
theorem closingsIn_consecutive (calls : List (Call × Answer)) :
    closingsIn (consecutive calls) = 0 := by
  induction calls with
  | nil => rfl
  | cons made calls ih => exact ih

/-- No insert is pending, and none was started while another one was. -/
def Settled (trace : List Moment) : Prop :=
  ∃ calls, trace.filter Moment.isInsert = consecutive calls

/-- Whenever an insert is started, every insert that was started before has ended. -/
def Exclusive (trace : List Moment) : Prop :=
  ∀ before call after, trace = before ++ .started call :: after → call.isInsert = true →
    Settled before

namespace Settled

variable {trace : List Moment}

theorem nil : Settled [] :=
  ⟨[], rfl⟩

theorem append {trace' : List Moment} (h : Settled trace) (h' : Settled trace') :
    Settled (trace ++ trace') := by
  obtain ⟨calls, hcalls⟩ := h
  obtain ⟨calls', hcalls'⟩ := h'
  refine ⟨calls ++ calls', ?_⟩
  rw [List.filter_append, hcalls, hcalls', consecutive, consecutive, consecutive,
    List.flatMap_append]

/-- What is no insert does not matter. -/
theorem of_not_insert {m : Moment} (hm : m.isInsert = false) : Settled [m] :=
  ⟨[], by simp [hm, consecutive]⟩

/-- Calls of which each ends before anything else happens. -/
theorem of_consecutive (calls : List (Call × Answer)) : Settled (consecutive calls) := by
  refine ⟨calls.filter fun made => made.1.isInsert, ?_⟩
  induction calls with
  | nil => rfl
  | cons made calls ih =>
      have hcons (made : Call × Answer) (calls : List (Call × Answer)) :
          consecutive (made :: calls) =
            [.started made.1, .ended made.1 made.2] ++ consecutive calls := rfl
      rw [hcons, List.filter_append, ih]
      cases h : made.1.isInsert <;> simp [Moment.isInsert, h, hcons]

/-- What stands before the start of a call, in a sequence of whole calls, are whole calls. -/
theorem split_consecutive {calls : List (Call × Answer)} {call : Call} {left right : List Moment}
    (h : left ++ .started call :: right = consecutive calls) :
    ∃ calls', left = consecutive calls' := by
  induction calls generalizing left with
  | nil => simp [consecutive] at h
  | cons made calls ih =>
      -- the first call of the sequence takes up two moments
      have hcons : consecutive (made :: calls) =
          .started made.1 :: .ended made.1 made.2 :: consecutive calls := rfl
      rw [hcons] at h
      match left with
      | [] => exact ⟨[], rfl⟩
      | [m] =>
          have hend : Moment.started call = .ended made.1 made.2 := by
            simp only [List.cons_append, List.nil_append, List.cons.injEq] at h
            exact h.2.1
          cases hend
      | m :: m' :: rest =>
          simp only [List.cons_append, List.cons.injEq] at h
          obtain ⟨rfl, rfl, hrest⟩ := h
          obtain ⟨calls', rfl⟩ := ih hrest
          exact ⟨made :: calls', rfl⟩

/-- Where the inserts follow one another none is started while another one is pending. -/
theorem exclusive (h : Settled trace) : Exclusive trace := by
  rintro before call after rfl hinsert
  obtain ⟨calls, hcalls⟩ := h
  have hstart : (Moment.started call).isInsert = true := hinsert
  rw [List.filter_append, List.filter_cons_of_pos hstart] at hcalls
  -- the inserts before this one are whole calls themselves
  exact split_consecutive hcalls

end Settled

/-! ## The sink -/

/-- A sink with a trace of its use, the earliest first. -/
structure Traced (σ : Type) where
  inner : σ
  trace : List Moment

namespace Traced

variable {σ : Type}

/-- A sink with an empty trace. -/
def ofSink (inner : σ) : Traced σ :=
  ⟨inner, []⟩

/-- A change of the sink behind the trace. -/
def onInner (change : σ → σ) (x : Traced σ) : Traced σ :=
  { x with inner := change x.inner }

/-- Notes a moment. -/
def note (x : Traced σ) (m : Moment) : Traced σ :=
  { x with trace := x.trace ++ [m] }

/-- The record that is part of the trace. -/
def recorded (x : Traced σ) : Recorded σ :=
  ⟨x.inner, deliveriesIn x.trace⟩

end Traced

instance {σ : Type} [Sink σ] : Sink (Traced σ) where
  receive call x :=
    let (disturbance, inner) := Sink.receive call x.inner
    (disturbance, { x with inner }.note (.started call))
  settle call x :=
    let (answer, inner) := Sink.settle call x.inner
    (answer, { x with inner }.note (.ended call answer))
  close x := { x with inner := Sink.close x.inner }.note .closed

namespace Traced

variable {σ : Type} [Sink σ]

theorem receive_trace (call : Call) (x : Traced σ) :
    (Sink.receive call x).2.trace = x.trace ++ [.started call] := rfl

theorem settle_trace (call : Call) (x : Traced σ) :
    (Sink.settle call x).2.trace = x.trace ++ [.ended call (Sink.settle call x).1] := rfl

/-- A call that has ended is the last of the calls. -/
theorem callsIn_settle (call : Call) (x : Traced σ) :
    callsIn (Sink.settle call (Sink.receive call x).2).2.trace =
      callsIn x.trace ++ [(call, (Sink.settle call (Sink.receive call x).2).1)] := by
  rw [settle_trace, receive_trace, callsIn_append, callsIn_append, List.append_assoc]
  rfl

theorem close_trace (x : Traced σ) : (Sink.close x).trace = x.trace ++ [.closed] := rfl

/-- The trace tells which deliveries were made after the earlier ones. -/
theorem tracks_after (earlier : List (Delivery × Answer)) :
    Sink.Tracks fun made (x : Traced σ) => made = earlier ++ deliveriesIn x.trace where
  receive := by
    intro made x call hmade
    have hnone : deliveriesIn [.started call] = [] := rfl
    rw [receive_trace, deliveriesIn_append, hnone, List.append_nil]
    exact hmade
  settle := by
    intro made x call hmade
    have hended (answer : Answer) : deliveriesIn [.ended call answer] = call.ended answer :=
      List.append_nil _
    rw [settle_trace, deliveriesIn_append, hended, ← List.append_assoc, ← hmade]
  close := by
    intro made x hmade
    have hnone : deliveriesIn [.closed] = [] := rfl
    rw [close_trace, deliveriesIn_append, hnone, List.append_nil]
    exact hmade

/-- Without its trace a sink does what it does with the trace. -/
theorem inner_morphism : Sink.Morphism (inner (σ := σ)) where
  receive _ _ := rfl
  settle _ _ := rfl
  close _ := rfl

/-- A record of the deliveries is part of the trace. -/
theorem recorded_morphism : Sink.Morphism (recorded (σ := σ)) where
  receive call x := by
    have hsame : deliveriesIn (x.trace ++ [.started call]) = deliveriesIn x.trace := by
      rw [deliveriesIn_append]
      exact List.append_nil _
    exact congrArg (fun made => ((Sink.receive call x.inner).1,
      (⟨(Sink.receive call x.inner).2, made⟩ : Recorded σ))) hsame.symm
  settle call x := by
    have hended : deliveriesIn (x.trace ++ [.ended call (Sink.settle call x.inner).1]) =
        deliveriesIn x.trace ++ call.ended (Sink.settle call x.inner).1 := by
      rw [deliveriesIn_append]
      exact congrArg (deliveriesIn x.trace ++ ·) (List.append_nil _)
    exact congrArg (fun made => ((Sink.settle call x.inner).1,
      (⟨(Sink.settle call x.inner).2, made⟩ : Recorded σ))) hended.symm
  close x := by
    have hsame : deliveriesIn (x.trace ++ [.closed]) = deliveriesIn x.trace := by
      rw [deliveriesIn_append]
      exact List.append_nil _
    exact congrArg (fun made => (⟨Sink.close x.inner, made⟩ : Recorded σ)) hsame.symm

end Traced

end LogSpool
