import LogSpool.Proofs.Session.Image

/-!
# The record changes nothing

This module shows that a session over a sink with a record is the session over the sink itself, and
the record on top.  What is proved of a record is therefore true of the calls of a session in which
nobody keeps one.

* `Station.plain`, `Station.withRecord` — a station without the record of its sink, and with an
  empty one.
* `Station.runRecorded`, `Engine.runRecorded`, `Desk.runRecorded` — sessions of which a record is
  kept; without it they are the sessions themselves.
-/

namespace LogSpool

variable {σ : Type}

/-! ## A buffer with its processor -/

namespace Station

/-- A station without the record of its sink. -/
def plain (s : Station (Recorded σ)) : Station σ :=
  { s with sink := s.sink.inner }

/-- A station that starts to keep a record of its sink. -/
def withRecord (s : Station σ) : Station (Recorded σ) :=
  { s with sink := Recorded.ofSink s.sink }

theorem Operation.recorded_eq_lift (op : Operation σ) :
    op.recorded = op.lift Recorded.onInner := by
  cases op <;> rfl

variable [Sink σ]

/-- A session of a buffer with its processor, of which a record is kept. -/
def runRecorded (s : Station σ) (ops : List (Operation σ)) : Station (Recorded σ) :=
  s.withRecord.run (ops.map Operation.recorded)

/-- Without the record it is the session itself. -/
theorem runRecorded_plain (s : Station σ) (ops : List (Operation σ)) :
    (s.runRecorded ops).plain = s.run ops := by
  rw [runRecorded, List.map_congr_left fun op _ => op.recorded_eq_lift]
  exact (s.withRecord.run_map Recorded.morphism (fun _ _ => rfl) ops).symm

end Station

/-! ## An engine -/

namespace Engine

variable [Sink σ]

/-- An engine without the record of its sink. -/
def plain (e : Engine (Recorded σ)) : Engine σ :=
  { e with station := e.station.plain }

/-- An engine that starts to keep a record of its sink. -/
def withRecord (e : Engine σ) : Engine (Recorded σ) :=
  { e with station := e.station.withRecord }

omit [Sink σ] in
theorem Operation.recorded_eq_lift (op : Operation σ) :
    op.recorded = op.lift Recorded.onInner := by
  cases op <;> rfl

/-- A session of an engine, of which a record is kept. -/
def runRecorded (e : Engine σ) (ops : List (Operation σ)) : Engine (Recorded σ) :=
  e.withRecord.run (ops.map Operation.recorded)

/-- Without the record it is the session itself. -/
theorem runRecorded_plain (e : Engine σ) (ops : List (Operation σ)) :
    (e.runRecorded ops).plain = e.run ops := by
  rw [runRecorded, List.map_congr_left fun op _ => op.recorded_eq_lift]
  exact (e.withRecord.run_map Recorded.morphism (fun _ _ => rfl) ops).symm

end Engine

/-! ## A desk -/

namespace Desk

/-- A desk without the record of its sink. -/
def plain (d : Desk (Recorded σ)) : Desk σ :=
  { d with station := d.station.plain }

/-- A desk that starts to keep a record of its sink. -/
def withRecord (d : Desk σ) : Desk (Recorded σ) :=
  { d with station := d.station.withRecord }

theorem Operation.recorded_eq_lift (op : Operation σ) :
    op.recorded = op.lift Recorded.onInner := by
  cases op with
  | station op => exact congrArg Operation.station op.recorded_eq_lift
  | _ => rfl

variable [Sink σ]

/-- A session at a desk, of which a record is kept. -/
def runRecorded (d : Desk σ) (ops : List (Operation σ)) : Desk (Recorded σ) :=
  d.withRecord.run (ops.map Operation.recorded)

/-- Without the record it is the session itself. -/
theorem runRecorded_plain (d : Desk σ) (ops : List (Operation σ)) :
    (d.runRecorded ops).plain = d.run ops := by
  rw [runRecorded, List.map_congr_left fun op _ => op.recorded_eq_lift]
  exact (d.withRecord.run_map Recorded.morphism (fun _ _ => rfl) ops).symm

end Desk

end LogSpool
