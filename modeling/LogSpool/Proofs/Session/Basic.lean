import LogSpool.Hands
import LogSpool.Proofs.Engine.Course

/-!
# Sessions

This module says what a run of a spool is: any calls, in any order, with any time between them, and
with any change of the sink from outside.  Calls that only read are left out, since they return no
new state.

Everything a session does is a course of acts in the custody of entries, which is read off the
session: its chronicle.  The calls of an engine and of a processor are courses of the spool itself,
in which nobody else takes entries out.

* `Station.Operation`, `Desk.Operation`, `Engine.Operation` — the calls of the three kinds of
  sessions, each with its `run` and its `chronicle`.
* `Station.run_followsBy`, `Engine.run_followsBy`, `Desk.run_described` — every session performs the
  acts of its chronicle.
-/

namespace LogSpool

variable {σ : Type}

/-! ## A buffer with its processor -/

namespace Station

/-- What can be asked of a buffer with its processor, and what can happen around it. -/
inductive Operation (σ : Type) where
  | enqueue (fields : Fields)
  | process (maxItems : Nat)
  | close
  /-- Time passes, or the wall clock is set. -/
  | moveClock (move : Clock → Clock)
  /-- The sink changes by itself: it goes down, it comes up. -/
  | changeSink (change : σ → σ)

/-- The same operation, where the sink has a record. -/
def Operation.recorded : Operation σ → Operation (Recorded σ)
  | .enqueue f => .enqueue f
  | .process maxItems => .process maxItems
  | .close => .close
  | .moveClock move => .moveClock move
  | .changeSink change => .changeSink (Recorded.onInner change)

variable [Sink σ]

/-- Performs an operation; the answer is not kept. -/
def perform (s : Station σ) : Operation σ → Station σ
  | .enqueue f => (s.enqueue f).2
  | .process maxItems => (s.process intrude maxItems).2
  | .close => s.close.2
  | .moveClock move => s.moveClock move
  | .changeSink change => { s with sink := change s.sink }

/-- Performs operations one after the other. -/
def run (s : Station σ) (ops : List (Operation σ)) : Station σ :=
  ops.foldl perform s

/-- The acts of an operation. -/
def performActs (s : Station σ) : Operation σ → List Act
  | .enqueue f => [.enqueue f s.now]
  | .process maxItems => s.processActs intrude intrudeActs maxItems
  | .close => [.close]
  | .moveClock _ => []
  | .changeSink _ => []

/-- The acts of operations that are performed one after the other. -/
def chronicle (s : Station σ) : List (Operation σ) → List Act
  | [] => []
  | op :: ops => s.performActs op ++ chronicle (s.perform op) ops

/-- An operation performs the acts that are given for it, if the changes of the sink leave alone what
is tracked. -/
theorem perform_followsBy {track : List (Delivery × Answer) → σ → Prop}
    (htrack : Sink.Tracks track) (s : Station σ) (op : Operation σ)
    (hchange : ∀ change, op = .changeSink change →
      ∀ made t, track made t → track made (change t)) :
    FollowsBy track (s.performActs op) s (s.perform op) := by
  cases op with
  | enqueue f => exact (ProducesBy.enqueue s f).follows
  | process maxItems => exact process_followsBy htrack maxItems (intrude_onlyProducesBy _)
  | close => exact (ProducesBy.close s).follows
  | moveClock move => exact (ProducesBy.moveClock s move).follows
  | changeSink change =>
      exact FollowsBy.of_same rfl rfl rfl rfl fun made hmade => hchange change rfl made _ hmade

/-- A session performs the acts of its chronicle, if the changes of the sink leave alone what is
tracked. -/
theorem run_followsBy {track : List (Delivery × Answer) → σ → Prop} (htrack : Sink.Tracks track)
    (s : Station σ) (ops : List (Operation σ))
    (hchange : ∀ change, .changeSink change ∈ ops → ∀ made t, track made t → track made (change t)) :
    FollowsBy track (s.chronicle ops) s (s.run ops) := by
  induction ops generalizing s with
  | nil => exact FollowsBy.refl s
  | cons op ops ih =>
      have hfirst := perform_followsBy htrack s op fun change hop =>
        hchange change (hop ▸ List.mem_cons_self)
      exact hfirst.trans (ih _ fun change hmem => hchange change (List.mem_cons_of_mem op hmem))

/-- Of a station over any sink: an operation is a course of acts. -/
theorem perform_keeps (s : Station σ) (op : Operation σ) :
    Follows (fun _ _ => True) s (s.perform op) :=
  (perform_followsBy Sink.tracks_true s op fun _ _ _ _ _ => trivial).follows

omit [Sink σ] in
/-- A change of the sink from outside leaves the record alone. -/
theorem Operation.changes_recorded {ops : List (Operation σ)} (change : Recorded σ → Recorded σ)
    (hmem : .changeSink change ∈ ops.map recorded) (made : List (Delivery × Answer))
    (r : Recorded σ) (h : Recorded.track made r) : Recorded.track made (change r) := by
  obtain ⟨op, -, hop⟩ := List.mem_map.1 hmem
  cases op <;> simp only [recorded, reduceCtorEq] at hop
  cases hop
  exact h

/-- Every session of a buffer with its processor is a course of acts of the spool itself. -/
theorem run_recorded_followsBy (s : Station (Recorded σ)) (ops : List (Operation σ)) :
    FollowsBy Recorded.track (s.chronicle (ops.map Operation.recorded)) s
      (s.run (ops.map Operation.recorded)) :=
  run_followsBy Recorded.tracks s _ Operation.changes_recorded

end Station

/-! ## An engine -/

namespace Engine

/-- What can be asked of an engine, and what can happen around it. -/
inductive Operation (σ : Type) where
  | addLog (fields : Fields)
  | process (maxItems : Nat)
  | health
  | shutdown
  | moveClock (move : Clock → Clock)
  | changeSink (change : σ → σ)

/-- The same operation, where the sink has a record. -/
def Operation.recorded : Operation σ → Operation (Recorded σ)
  | .addLog f => .addLog f
  | .process maxItems => .process maxItems
  | .health => .health
  | .shutdown => .shutdown
  | .moveClock move => .moveClock move
  | .changeSink change => .changeSink (Recorded.onInner change)

variable [Sink σ]

/-- Performs an operation; the answer is not kept. -/
def perform (e : Engine σ) : Operation σ → Engine σ
  | .addLog f => (e.addLog f).2
  | .process maxItems => (e.process maxItems).2
  | .health => e.health.2
  | .shutdown => e.shutdown.2
  | .moveClock move => { e with station := e.station.moveClock move }
  | .changeSink change => { e with station := { e.station with sink := change e.station.sink } }

/-- Performs operations one after the other. -/
def run (e : Engine σ) (ops : List (Operation σ)) : Engine σ :=
  ops.foldl perform e

theorem run_append (e : Engine σ) (ops more : List (Operation σ)) :
    e.run (ops ++ more) = (e.run ops).run more :=
  List.foldl_append

theorem run_shutdown (e : Engine σ) : e.run [.shutdown] = e.shutdown.2 := rfl

/-- The acts of an operation. -/
def performActs (e : Engine σ) : Operation σ → List Act
  | .addLog f => e.station.addLogActs (intrude e.config) (intrudeActs e.config) e.config f
  | .process maxItems =>
    e.station.processAloneActs (intrude e.config) (intrudeActs e.config) maxItems
  | .health => e.healthActs
  | .shutdown => e.shutdownActs
  | .moveClock _ => []
  | .changeSink _ => []

/-- The acts of operations that are performed one after the other. -/
def chronicle (e : Engine σ) : List (Operation σ) → List Act
  | [] => []
  | op :: ops => e.performActs op ++ chronicle (e.perform op) ops

/-- An operation performs the acts that are given for it, if the changes of the sink leave alone what
is tracked. -/
theorem perform_followsBy {track : List (Delivery × Answer) → σ → Prop}
    (htrack : Sink.Tracks track) (e : Engine σ) (op : Operation σ)
    (hchange : ∀ change, op = .changeSink change →
      ∀ made s, track made s → track made (change s)) :
    Station.FollowsBy track (e.performActs op) e.station (e.perform op).station := by
  have hproduces := intrude_onlyProducesBy (σ := σ) e.config
  cases op with
  | addLog f => exact Station.addLog_followsBy e.config f htrack hproduces e.station
  | process maxItems => exact Station.processAlone_followsBy htrack hproduces maxItems e.station
  | health => exact health_followsBy htrack e
  | shutdown => exact shutdown_followsBy htrack e
  | moveClock move => exact (Station.ProducesBy.moveClock e.station move).follows
  | changeSink change =>
      exact Station.FollowsBy.of_same rfl rfl rfl rfl fun made hmade =>
        hchange change rfl made _ hmade

/-- A session performs the acts of its chronicle, if the changes of the sink leave alone what is
tracked. -/
theorem run_followsBy {track : List (Delivery × Answer) → σ → Prop} (htrack : Sink.Tracks track)
    (e : Engine σ) (ops : List (Operation σ))
    (hchange : ∀ change, .changeSink change ∈ ops → ∀ made s, track made s → track made (change s)) :
    Station.FollowsBy track (e.chronicle ops) e.station (e.run ops).station := by
  induction ops generalizing e with
  | nil => exact Station.FollowsBy.refl e.station
  | cons op ops ih =>
      have hfirst := perform_followsBy htrack e op fun change hop =>
        hchange change (hop ▸ List.mem_cons_self)
      exact hfirst.trans (ih _ fun change hmem => hchange change (List.mem_cons_of_mem op hmem))

theorem perform_config (e : Engine σ) (op : Operation σ) : (e.perform op).config = e.config := by
  cases op <;> rfl

theorem run_config (e : Engine σ) (ops : List (Operation σ)) : (e.run ops).config = e.config := by
  induction ops generalizing e with
  | nil => rfl
  | cons op ops ih => exact (ih _).trans (e.perform_config op)

omit [Sink σ] in
/-- A change of the sink from outside leaves the record alone. -/
theorem Operation.changes_recorded {ops : List (Operation σ)} (change : Recorded σ → Recorded σ)
    (hmem : .changeSink change ∈ ops.map recorded) (made : List (Delivery × Answer))
    (r : Recorded σ) (h : Recorded.track made r) : Recorded.track made (change r) := by
  obtain ⟨op, -, hop⟩ := List.mem_map.1 hmem
  cases op <;> simp only [recorded, reduceCtorEq] at hop
  cases hop
  exact h

/-- Every session of an engine is a course of acts of the spool itself. -/
theorem run_recorded_followsBy (e : Engine (Recorded σ)) (ops : List (Operation σ)) :
    Station.FollowsBy Recorded.track (e.chronicle (ops.map Operation.recorded)) e.station
      (e.run (ops.map Operation.recorded)).station :=
  run_followsBy Recorded.tracks e _ Operation.changes_recorded

/-- Of an engine over any sink: a session is a course of acts, and leaves it as busy as it was. -/
theorem run_keeps (e : Engine σ) (ops : List (Operation σ)) :
    Station.Follows (fun _ _ => True) e.station (e.run ops).station :=
  (run_followsBy Sink.tracks_true e ops fun _ _ _ _ _ => trivial).follows

end Engine

/-! ## A buffer with its processor and callers that take entries out -/

namespace Desk

/-- What can be done at a desk. -/
inductive Operation (σ : Type) where
  | take (hand : String)
  | giveBack (hand : String)
  | discard (hand : String)
  | station (op : Station.Operation σ)

/-- The same operation, where the sink has a record. -/
def Operation.recorded : Operation σ → Operation (Recorded σ)
  | .take hand => .take hand
  | .giveBack hand => .giveBack hand
  | .discard hand => .discard hand
  | .station op => .station op.recorded

/-- A custody describes a desk: what is in hands is the same, and the rest is as with a station. -/
structure Described (w : Custody) (d : Desk (Recorded σ)) : Prop where
  station : w.Describes Recorded.track d.station
  hands : w.hands = d.hands

theorem Described.take {w : Custody} {d : Desk (Recorded σ)} (h : Described w d) (hand : String) :
    Described (w.perform (.take hand)) (d.take hand).2 := by
  obtain ⟨taken, s, hs, hb, hbeside, -, hstorage⟩ := d.station.dequeue_cases
  rw [← h.station.buffer] at hb
  have hstorage' : w.storage = s.storage := h.station.storage.trans hstorage.symm
  rcases taken with why | _ | e <;> simp only [Custody.perform, Desk.take, hb, hs]
  · exact ⟨h.station.of_beside hbeside rfl hstorage' rfl rfl, h.hands⟩
  · exact ⟨h.station.of_beside hbeside rfl hstorage' rfl rfl, h.hands⟩
  · exact ⟨h.station.of_beside hbeside rfl hstorage' rfl rfl, congrArg (·.put hand e) h.hands⟩

theorem Described.giveBack {w : Custody} {d : Desk (Recorded σ)} (h : Described w d)
    (hand : String) : Described (w.perform (.giveBack hand)) (d.giveBack hand).2 := by
  cases hget : d.hands.get? hand with
  | none =>
      simp only [Custody.perform, Desk.giveBack, h.hands, hget]
      exact h
  | some e =>
      obtain ⟨answer, s, hs, hb, hstorage, hbeside⟩ := d.station.requeueFront_cases e
      rw [← h.station.buffer, ← h.station.storage] at hb
      rw [← h.station.storage] at hstorage
      cases answer with
      | ok u =>
          simp only [Custody.perform, Desk.giveBack, h.hands, hget, hb, hs]
          exact ⟨h.station.of_beside hbeside rfl hstorage.symm rfl rfl, rfl⟩
      | error refusal =>
          simp only [Custody.perform, Desk.giveBack, h.hands, hget, hb, hs]
          exact ⟨h.station.of_beside hbeside rfl hstorage.symm rfl rfl, rfl⟩

theorem Described.discard {w : Custody} {d : Desk (Recorded σ)} (h : Described w d)
    (hand : String) : Described (w.perform (.discard hand)) (d.discard hand).2 :=
  ⟨⟨h.station.buffer, h.station.storage, h.station.flight, h.station.lost, h.station.calls⟩,
    congrArg (·.release hand) h.hands⟩

variable [Sink σ]

/-- Performs an operation; the answer is not kept. -/
def perform (d : Desk σ) : Operation σ → Desk σ
  | .take hand => (d.take hand).2
  | .giveBack hand => (d.giveBack hand).2
  | .discard hand => (d.discard hand).2
  | .station op => { d with station := d.station.perform op }

/-- Performs operations one after the other. -/
def run (d : Desk σ) (ops : List (Operation σ)) : Desk σ :=
  ops.foldl perform d

/-- The acts of an operation. -/
def performActs (d : Desk σ) : Operation σ → List Act
  | .take hand => [.take hand]
  | .giveBack hand => [.giveBack hand]
  | .discard hand => [.discard hand]
  | .station op => d.station.performActs op

/-- The acts of operations that are performed one after the other. -/
def chronicle (d : Desk σ) : List (Operation σ) → List Act
  | [] => []
  | op :: ops => d.performActs op ++ chronicle (d.perform op) ops

/-- Every operation at a desk performs the acts that are given for it. -/
theorem perform_described {w : Custody} {d : Desk (Recorded σ)} (h : Described w d)
    (op : Operation σ) :
    Described (w.run (d.performActs op.recorded)) (d.perform op.recorded) := by
  cases op with
  | take hand => exact h.take hand
  | giveBack hand => exact h.giveBack hand
  | discard hand => exact h.discard hand
  | station op =>
      have hcourse := (d.station.run_recorded_followsBy [op]).course
      rw [List.map_singleton, Station.chronicle, Station.chronicle, List.append_nil] at hcourse
      exact ⟨hcourse.run w h.station, (Custody.run_hands hcourse.internal w).trans h.hands⟩

/-- Every session at a desk performs the acts of its chronicle. -/
theorem run_described {w : Custody} {d : Desk (Recorded σ)} (h : Described w d)
    (ops : List (Operation σ)) :
    Described (w.run (d.chronicle (ops.map Operation.recorded)))
      (d.run (ops.map Operation.recorded)) := by
  induction ops generalizing w d with
  | nil => exact h
  | cons op ops ih =>
      rw [List.map_cons, chronicle, Custody.run_append]
      exact ih (perform_described h op)

end Desk

end LogSpool
