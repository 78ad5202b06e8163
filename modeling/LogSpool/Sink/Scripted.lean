import LogSpool.Sink.Basic

/-!
# Scripted sinks

This module wraps a sink into one that follows a script.  Each kind of call has a list of actions
of its own; a call takes the next one.  An action says what happens while the call is pending and
whether the call goes on to the sink behind the script.  Calls without an action go straight on.
-/

namespace LogSpool

/-- How a scripted call ends. -/
inductive Verdict where
  /-- The sink behind the script answers. -/
  | passOn
  | stall
  | refuse (why : SinkError)
  deriving Repr, DecidableEq

/-- What a scripted call does. -/
structure Action where
  disturbance : Disturbance
  verdict : Verdict
  deriving Repr, DecidableEq

/-- A sink behind a script.  `pending` holds the verdicts of the calls that have been started and
not ended, the latest first. -/
structure Scripted (σ : Type) where
  logs : List Action
  metrics : List Action
  pings : List Action
  pending : List Verdict
  inner : σ

namespace Scripted

variable {σ : Type}

/-- A sink with an empty script. -/
def ofSink (inner : σ) : Scripted σ :=
  ⟨[], [], [], [], inner⟩

/-- The first action of a list, and the rest of the list. -/
def nextAction : List Action → Action × List Action
  | [] => (⟨.none, .passOn⟩, [])
  | action :: rest => (action, rest)

/-- Takes the next action for a call. -/
def take (call : Call) (s : Scripted σ) : Action × Scripted σ :=
  match call with
  | .log _ =>
    let (action, logs) := nextAction s.logs
    (action, { s with logs })
  | .snapshot _ =>
    let (action, metrics) := nextAction s.metrics
    (action, { s with metrics })
  | .ping =>
    let (action, pings) := nextAction s.pings
    (action, { s with pings })

/-- Starts a call: its action is taken, and its verdict kept for the end of the call. -/
def receive (call : Call) (s : Scripted σ) : Disturbance × Scripted σ :=
  let (action, s) := s.take call
  (action.disturbance, { s with pending := action.verdict :: s.pending })

/-- Ends the call that was started last. -/
def settle [Sink σ] (call : Call) (s : Scripted σ) : Answer × Scripted σ :=
  let s' := { s with pending := s.pending.tail }
  match s.pending.head? with
  | some .stall => (.stalled, s')
  | some (.refuse why) => (.refused why, s')
  | _ =>
    let (answer, inner) := Sink.settle call s.inner
    (answer, { s' with inner })

end Scripted

instance {σ : Type} [Sink σ] : Sink (Scripted σ) where
  receive := Scripted.receive
  settle := Scripted.settle
  close s := { s with inner := Sink.close s.inner }

end LogSpool
