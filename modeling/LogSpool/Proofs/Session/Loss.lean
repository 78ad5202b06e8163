import LogSpool.Proofs.Session.Custody
import LogSpool.Proofs.Station.Loss

/-!
# When entries are lost

This module holds the result on losses over whole runs: an entry is lost only where somebody
interferes with the call that is pending for it, never because a sink fails.

* `Station.run_undisturbed` — a session loses nothing if nobody interferes with its batches.
* `Station.EndOf` — what a session has done to the losses is told by its chronicle.
* `losses_need_interference` — which entries are lost and why, for courses, batches and sessions.
-/

namespace LogSpool

namespace Station

variable {σ : Type}

/-- A session loses nothing if nobody interferes with its batches. -/
theorem run_undisturbed [Sink σ] {w : Custody} (hw : w.buffer.Gauged) (hample : w.storage = .ample)
    {s : Station σ} (hdescribes : w.Describes (fun _ _ => True) s) {ops : List (Operation σ)}
    (h : ∀ before n after, ops = before ++ .process n :: after →
      Undisturbed intrude ((s.run before).batchLimit n) (s.run before)) :
    (s.run ops).lostIds = s.lostIds := by
  induction ops generalizing w s with
  | nil => rfl
  | cons op ops ih =>
      obtain ⟨acts, hcourse⟩ := (s.perform_keeps op).course
      have hfirst : (s.perform op).lostIds = s.lostIds := by
        cases op with
        | enqueue f => exact (s.enqueue_beside f).lostIds
        | process n =>
            have hgauged : s.buffer.Gauged := hdescribes.buffer ▸ hw
            have hstorage : s.storage = .ample := hdescribes.storage ▸ hample
            exact (process_losses n (intrude_onlyProduces _) hgauged).of_undisturbed
              (h [] n ops rfl) hstorage
        | close => exact s.close_beside.lostIds
        | moveClock move => rfl
        | changeSink change => rfl
      refine (ih (Custody.gauged_run hw acts) (Custody.run_ample hample acts)
        (hcourse.run w hdescribes) ?_).trans hfirst
      rintro before n after rfl
      exact h (op :: before) n after rfl

/-- A station at the end of a course over a new buffer, for which there was storage enough.  It has
lost nothing if every act of the course leaves pending calls alone. -/
structure EndOf (b : Buffer) (acts : List Act) (s : Station σ) : Prop where
  gauged : s.buffer.Gauged
  ample : s.storage = .ample
  internal : ∀ a ∈ acts, a.isInternal = true
  describes : ((Custody.around b).run acts).Describes (fun _ _ => True) s
  spared : (∀ before a after, acts = before ++ a :: after →
    ((Custody.around b).run before).Spares a) → s.lostIds = []

theorem EndOf.of_course {b : Buffer} (hb : b.Gauged) {acts : List Act} {opened s : Station σ}
    (hopened : (Custody.around b).Describes (fun _ _ => True) opened)
    (h : Custody.LeadsBy acts (·.Describes (fun _ _ => True) opened)
      (·.Describes (fun _ _ => True) s)) : EndOf b acts s := by
  have hdescribes := h.run _ hopened
  have hgauged : ((Custody.around b).run acts).buffer.Gauged := Custody.gauged_run hb acts
  have hample : ((Custody.around b).run acts).storage = .ample := Custody.run_ample rfl acts
  rw [hdescribes.buffer] at hgauged
  rw [hdescribes.storage] at hample
  refine ⟨hgauged, hample, h.internal, hdescribes, fun hspares => ?_⟩
  have hspared := Custody.spared_run (Custody.around_spared hb) h.internal hspares
  rw [← hdescribes.lost, hspared.lost, List.map_nil]

end Station

/-- A failure of the sink alone never loses an entry.  In every course in which only the processor
takes entries out, the act that loses an entry is the end of a call without success: the entry in
flight is lost and nothing else changes, and by then the buffer had been closed, or it was full and
had accepted an entry while the call was pending.  A course that leaves pending calls alone loses
nothing.  Every session of a processor and of an engine is such a course, the one that its chronicle
gives, and loses nothing if that leaves pending calls alone.  A batch of either loses one entry at
most, the one that its sink was called with last, and for the same reasons, or because there is no
storage for it; and a session of a processor loses nothing if nobody interferes while its sink is
called.  The gauges, which this asks for, are right after every session, and there is storage
enough. -/
theorem losses_need_interference {capacity : Nat} {now : Int} {b : Buffer}
    (hb : Buffer.create capacity now = .ok b) :
    (∀ acts : List Act, (∀ a ∈ acts, a.isInternal = true) →
      (∀ a, ((Custody.around b).run (acts ++ [a])).lost = ((Custody.around b).run acts).lost ∨
        ∃ d, (Custody.around b).Loses acts a d) ∧
      ((∀ before a after, acts = before ++ a :: after → ((Custody.around b).run before).Spares a) →
        ((Custody.around b).run acts).lost = [])) ∧
    (∀ (σ : Type) [Sink σ] (s : Station σ) (maxItems : Nat), s.buffer.Gauged →
      s.Losses Station.intrude (s.batchLimit maxItems) (s.process Station.intrude maxItems).2
        (s.process Station.intrude maxItems).1 ∧
      ∀ config : EngineConfig,
        let started := { s with busy := true }
        started.Losses (Engine.intrude config) (s.batchLimit maxItems)
          (started.process (Engine.intrude config) maxItems).2
          (started.process (Engine.intrude config) maxItems).1) ∧
    (∀ (σ : Type) [Sink σ] (sink : σ) (clock : Clock) (batch : Nat)
      (ops : List (Station.Operation σ)),
      let s := Station.around b sink clock batch
      (s.run ops).EndOf b (s.chronicle ops) ∧
      ((∀ before n after, ops = before ++ .process n :: after →
        (s.run before).Undisturbed Station.intrude ((s.run before).batchLimit n)) →
        (s.run ops).lostIds = [])) ∧
    (∀ (σ : Type) [Sink σ] (config : EngineConfig) (sink : σ) (clock : Clock) (e : Engine σ),
      Engine.withSink config sink clock = .ok e →
      Buffer.create e.config.bufferCapacity clock.now = .ok e.station.buffer ∧
        ∀ ops : List (Engine.Operation σ),
          (e.run ops).station.EndOf e.station.buffer (e.chronicle ops)) := by
  have hgauged := Buffer.gauged_create hb
  refine ⟨?_, ?_, ?_, ?_⟩
  · intro acts hacts
    constructor
    · intro a
      exact Custody.lost_or_loses hgauged rfl rfl hacts a
    · intro hspares
      exact (Custody.spared_run (Custody.around_spared hgauged) hacts hspares).lost
  · intro σ _ s maxItems hs
    constructor
    · exact Station.process_losses maxItems (Station.intrude_onlyProduces _) hs
    · intro config started
      have hstarted : started.buffer.Gauged := hs
      exact Station.process_losses maxItems (Engine.intrude_onlyProduces config) hstarted
  · intro σ _ sink clock batch ops s
    have hopened : (Custody.around b).Describes (fun _ _ => True) s :=
      ⟨rfl, rfl, rfl, rfl, trivial⟩
    have hfollows := s.run_followsBy Sink.tracks_true ops fun _ _ _ _ _ => trivial
    exact ⟨.of_course hgauged hopened hfollows.course,
      fun h => Station.run_undisturbed hgauged rfl hopened h⟩
  · intro σ _ config sink clock e he
    obtain ⟨-, hb', hopened⟩ := Engine.withSink_describes he
    refine ⟨hb', fun ops => ?_⟩
    have hfollows := e.run_followsBy Sink.tracks_true ops fun _ _ _ _ _ => trivial
    exact .of_course (Buffer.gauged_create hb')
      ⟨hopened.buffer, hopened.storage, hopened.flight, hopened.lost, trivial⟩ hfollows.course

/-- One entry is in flight, and another one takes its place before the sink refuses it.  Where the
sink only refuses it, an engine has it back. -/
theorem losses_need_interference_of_taken_place :
    let fields : Fields := ⟨"INFO", "app", "a"⟩
    let b : Buffer := ⟨1, [], 1, .initial 1 0, true⟩
    let intruding : Scripted MemorySink :=
      ⟨[⟨⟨0, none, [.add fields]⟩, .refuse (.unavailable "")⟩], [], [], [], .withRetention 1⟩
    let refusing : Scripted MemorySink :=
      ⟨[⟨⟨0, none, []⟩, .refuse (.unavailable "")⟩], [], [], [], .withRetention 1⟩
    let s := Station.around b intruding ⟨0, 0⟩ 1
    let handed := s.run [.enqueue fields]
    let acts : List Act := [.enqueue fields 0, .offer 0, .enqueue fields 0, .countError]
    let refusal : Act := .settle (.refused (.unavailable "")) 0
    let e : Engine (Scripted MemorySink) :=
      ⟨⟨1, 1, 1, 50⟩, (Station.around b refusing ⟨0, 0⟩ 1).record (.initialized 1 1 1)⟩
    Buffer.create 1 0 = .ok b ∧
      s.chronicle [.enqueue fields, .process 1] = acts ++ [refusal] ∧
      (∃ d, (Custody.around b).Loses acts refusal d) ∧
      (s.run [.enqueue fields, .process 1]).lostIds = [1] ∧
      (∃ entry t, Station.Offers Station.intrude 1 handed entry t ∧
        handed.LosesAt Station.intrude (handed.process Station.intrude 1).2 t entry
          (handed.process Station.intrude 1).1) ∧
      Engine.withSink ⟨1, 1, 1, 0⟩ refusing ⟨0, 0⟩ = .ok e ∧
      (e.run [.addLog fields]).station.lostIds = [] ∧
      (e.run [.addLog fields]).station.buffer.queue.map Entry.id = [1] := by
  intro fields b intruding refusing s handed acts refusal e
  have hb : Buffer.create 1 0 = .ok b := rfl
  have he : Engine.withSink ⟨1, 1, 1, 0⟩ refusing ⟨0, 0⟩ = .ok e := rfl
  obtain ⟨hcourses, hbatches, hprocessor, hengine⟩ := losses_need_interference hb
  have hchronicle : s.chronicle [.enqueue fields, .process 1] = acts ++ [refusal] := by decide
  have hinternal : ∀ a ∈ acts, a.isInternal = true := by simp [acts, Act.isInternal]
  have hlost : (s.run [.enqueue fields, .process 1]).lostIds = [1] := by decide
  have hended := (hprocessor _ intruding ⟨0, 0⟩ 1 [.enqueue fields]).1
  refine ⟨hb, hchronicle, ?_, hlost, ?_, he, ?_, by decide⟩
  · rcases (hcourses acts hinternal).1 refusal with hsame | hloses
    · exact absurd (congrArg List.length hsame) (by decide)
    · exact hloses
  · cases (hbatches _ handed 1 hended.gauged).1 with
    | nothing hnothing _ => exact absurd (hlost.symm.trans hnothing) (by decide)
    | one hoffers hloses => exact ⟨_, _, hoffers, hloses⟩
  · -- nobody comes while the call is pending
    have hcalm : e.chronicle [.addLog fields] =
        [.enqueue fields 0, .offer 0, .countError, refusal] := by decide
    refine ((hengine _ _ refusing ⟨0, 0⟩ e he).2 [.addLog fields]).spared ?_
    rw [hcalm]
    intro before a after hsplit hflight
    rcases before with _ | ⟨_, _ | ⟨_, _ | ⟨_, _ | ⟨_, before⟩⟩⟩⟩
    · obtain ⟨rfl, -⟩ := List.cons.inj hsplit
      exact absurd rfl hflight
    · cases hsplit
      exact ⟨by decide, by decide⟩
    · cases hsplit
      exact ⟨by decide, by decide⟩
    · cases hsplit
      exact ⟨by decide, by decide⟩
    · simp at hsplit

end LogSpool
