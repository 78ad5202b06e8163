import LogSpool.Proofs.Session.Representation
import LogSpool.Proofs.Sink.Traced

/-!
# Traces of sessions

This module runs a session over a sink that keeps a trace, from an empty one.  The trace is then all
the use that the session has made of the sink.  Without the trace it is the session itself.

* `Station.trace`, `Engine.trace`, `Desk.trace` — the use that a session makes of its sink.
* `runTraced_inner`, `serveTraced_inner` — to keep a trace does not change a session.
-/

namespace LogSpool

variable {σ : Type}

/-! ## A buffer with its processor -/

namespace Station

/-- A station that starts to keep a trace of its sink. -/
def withTrace (s : Station σ) : Station (Traced σ) :=
  { s with sink := Traced.ofSink s.sink }

variable [Sink σ] (s : Station σ)

/-- A session of a buffer with its processor, of which a trace is kept. -/
def runTraced (ops : List (Operation σ)) : Station (Traced σ) :=
  s.withTrace.run (ops.map (Operation.lift Traced.onInner))

/-- Without the trace it is the session itself. -/
theorem runTraced_inner (ops : List (Operation σ)) :
    (s.runTraced ops).map Traced.inner = s.run ops :=
  (s.withTrace.run_map Traced.inner_morphism (fun _ _ => rfl) ops).symm

/-- The use that a session makes of the sink. -/
def trace (ops : List (Operation σ)) : List Moment :=
  (s.runTraced ops).sink.trace

end Station

/-! ## An engine -/

namespace Engine

variable [Sink σ] (e : Engine σ)

omit [Sink σ] in
/-- An engine that starts to keep a trace of its sink. -/
def withTrace : Engine (Traced σ) :=
  { e with station := e.station.withTrace }

/-- A session of an engine, of which a trace is kept. -/
def runTraced (ops : List (Operation σ)) : Engine (Traced σ) :=
  e.withTrace.run (ops.map (Operation.lift Traced.onInner))

/-- Without the trace it is the session itself. -/
theorem runTraced_inner (ops : List (Operation σ)) :
    (e.runTraced ops).map Traced.inner = e.run ops :=
  (e.withTrace.run_map Traced.inner_morphism (fun _ _ => rfl) ops).symm

/-- The use that a session makes of the sink. -/
def trace (ops : List (Operation σ)) : List Moment :=
  (e.runTraced ops).station.sink.trace

end Engine

/-! ## A desk -/

namespace Desk

variable [Sink σ] (d : Desk σ)

omit [Sink σ] in
/-- A desk that starts to keep a trace of its sink. -/
def withTrace : Desk (Traced σ) :=
  { d with station := d.station.withTrace }

/-- Requests served at a desk, of which a trace is kept. -/
def serveTraced (requests : List (Request σ)) : Desk (Traced σ) :=
  d.withTrace.serveAll (requests.map (Request.lift Traced.onInner))

/-- Without the trace it is the session itself. -/
theorem serveTraced_inner (requests : List (Request σ)) :
    (d.serveTraced requests).map Traced.inner = d.serveAll requests :=
  (serveAll_map Traced.inner_morphism (fun _ _ => rfl) d.withTrace requests).symm

/-- The use that a session makes of the sink. -/
def trace (requests : List (Request σ)) : List Moment :=
  (d.serveTraced requests).station.sink.trace

end Desk

end LogSpool
