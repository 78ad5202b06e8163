import LogSpool.Proofs.Station.Course
import LogSpool.Sink.Scripted

/-!
# What a batch keeps

This module says once how a condition on the buffer lasts through a batch: every step that the
processor takes has to keep it, and so has whatever the sink does while it is called.

* `Sink.Confined` — a lasting condition under which a sink does only what is allowed;
  `Scripted.confined` for a sink that follows a script.
* `Buffer.Kept` — a condition on a buffer that the processor's own steps keep; for one, that it is
  open, and for another, how many entries it has accepted.
* `Keeps`, `Delivers.keeps`, `process_keeps` — what all of them keep, a batch keeps.
* `Delivers.failed`, `process_failed` — with which errors a batch can fail.
-/

namespace LogSpool

/-- A lasting condition under which a sink does nothing but what is allowed to the spool that calls
it. -/
structure Sink.Confined {σ : Type} [Sink σ] (allowed : Intrusion → Prop) (P : σ → Prop) : Prop where
  intrusions : ∀ {x} (call : Call), P x → ∀ i ∈ (Sink.receive call x).1.intrusions, allowed i
  receive : ∀ {x} (call : Call), P x → P (Sink.receive call x).2
  settle : ∀ {x} (call : Call), P x → P (Sink.settle call x).2

/-- A sink that looks like a confined one is confined. -/
theorem Sink.Confined.comap {σ τ : Type} [Sink σ] [Sink τ] {allowed : Intrusion → Prop}
    {P : τ → Prop} (h : Sink.Confined allowed P) {g : σ → τ} (hg : Sink.Morphism g) :
    Sink.Confined allowed fun x => P (g x) where
  intrusions := by
    intro x call hx i hi
    have hsame := congrArg (fun result => result.1.intrusions) (hg.receive call x)
    exact h.intrusions call hx i (hsame ▸ hi)
  receive := by
    intro x call hx
    have hreceived := h.receive call hx
    rwa [hg.receive call x] at hreceived
  settle := by
    intro x call hx
    have hsettled := h.settle call hx
    rwa [hg.settle call x] at hsettled

/-- The actions that a script has left. -/
def Scripted.actions {σ : Type} (s : Scripted σ) : List Action :=
  s.logs ++ s.metrics ++ s.pings

/-- A script never gets longer: a call takes one of its actions, or none. -/
theorem Scripted.take_actions {σ : Type} (call : Call) (s : Scripted σ) :
    ((s.take call).1 = ⟨.none, .passOn⟩ ∨ (s.take call).1 ∈ s.actions) ∧
      (s.take call).2.actions ⊆ s.actions := by
  have hnext (actions : List Action) :
      ((nextAction actions).1 = ⟨.none, .passOn⟩ ∨ (nextAction actions).1 ∈ actions) ∧
        (nextAction actions).2 ⊆ actions := by
    cases actions with
    | nil => exact ⟨Or.inl rfl, fun _ h => h⟩
    | cons a rest => exact ⟨Or.inr List.mem_cons_self, List.subset_cons_self a rest⟩
  unfold actions
  cases call with
  | log d =>
      obtain ⟨hfirst, hrest⟩ := hnext s.logs
      simp only [take]
      grind
  | snapshot m =>
      obtain ⟨hfirst, hrest⟩ := hnext s.metrics
      simp only [take]
      grind
  | ping =>
      obtain ⟨hfirst, hrest⟩ := hnext s.pings
      simp only [take]
      grind

/-- The end of a call takes no action. -/
theorem Scripted.settle_actions {σ : Type} [Sink σ] (call : Call) (s : Scripted σ) :
    (Sink.settle call s).2.actions = s.actions := by
  change (Scripted.settle call s).2.actions = s.actions
  unfold Scripted.settle
  split <;> rfl

/-- A sink that follows a script is confined to what the script says: the sink behind the script has
no part in a call before its answer. -/
theorem Scripted.confined {σ : Type} [Sink σ] {allowed : Intrusion → Prop} :
    Sink.Confined allowed fun s : Scripted σ =>
      ∀ a ∈ s.actions, ∀ i ∈ a.disturbance.intrusions, allowed i where
  intrusions := by
    intro s call hs i hi
    obtain ⟨hnone | hmem, -⟩ := s.take_actions call
    · have hempty : (Sink.receive call s).1.intrusions = [] := by
        change (s.take call).1.disturbance.intrusions = []
        rw [hnone]
        rfl
      exact absurd hi (by simp [hempty])
    · exact hs _ hmem i hi
  receive := by
    intro s call hs a ha
    exact hs a ((s.take_actions call).2 ha)
  settle := by
    intro s call hs
    rw [s.settle_actions call]
    exact hs

/-- A condition on a buffer that is kept when entries are taken out and put back, and when
deliveries and failures are recorded. -/
structure Buffer.Kept (Q : Buffer → Prop) : Prop where
  dequeue : ∀ {b}, Q b → Q b.dequeue.2
  requeueFront : ∀ {b} (e : Entry) (shortage : Option Shortage), Q b →
    Q (b.requeueFront e shortage).2
  markProcessed : ∀ {b} (latency : Float) (now : Int), Q b → Q (b.markProcessed latency now)
  markError : ∀ {b}, Q b → Q b.markError

/-- What survives another queue, a recorded delivery and a counted error is kept. -/
theorem Buffer.Kept.of_steps {Q : Buffer → Prop} (hqueue : ∀ {b} q, Q b → Q (b.withQueue q))
    (hprocessed : ∀ {b} (latency : Float) (now : Int), Q b → Q (b.markProcessed latency now))
    (herror : ∀ {b}, Q b → Q b.countError) : Buffer.Kept Q where
  dequeue := by
    intro b hb
    rcases h : b.dequeue with ⟨why | _ | e, b'⟩
    · obtain ⟨-, -, rfl⟩ := Buffer.dequeue_refused h
      exact hb
    · obtain ⟨-, -, rfl⟩ := Buffer.dequeue_nothing h
      exact hb
    · obtain ⟨-, rest, -, rfl⟩ := Buffer.dequeue_taken h
      exact hqueue rest hb
  requeueFront := by
    intro b e shortage hb
    rcases h : b.requeueFront e shortage with ⟨why | u, b'⟩
    · obtain ⟨-, rfl⟩ := Buffer.requeueFront_refused h
      exact hb
    · obtain ⟨-, -, -, rfl⟩ := Buffer.requeueFront_accepted h
      exact hqueue _ hb
  markProcessed := hprocessed
  markError := by
    intro b hb
    rcases b.markError_eq with h | h
    · rw [h]
      exact hb
    · rw [h]
      exact herror hb

/-- Nobody but a caller closes a buffer. -/
theorem Buffer.kept_isOpen : Buffer.Kept fun b => b.isOpen = true :=
  .of_steps (fun _ h => h) (fun _ _ h => by simpa using h) fun h => h

/-- Nobody but a producer adds an entry. -/
theorem Buffer.kept_totalIngested (n : Nat) : Buffer.Kept fun b => b.metrics.totalIngested = n :=
  .of_steps (fun _ h => h) (fun _ _ h => by simpa using h) fun h => h

namespace Station

variable {σ : Type} [Sink σ] {intrude : Station σ → Intrusion → Station σ}
  {allowed : Intrusion → Prop} {P : σ → Prop} {Q : Buffer → Prop}

/-- A condition on the buffer that lasts while a station is as busy as it is now: the processor
keeps it, the sink is confined, and what the sink is allowed to do keeps it too. -/
structure Keeps (intrude : Station σ → Intrusion → Station σ) (busy : Bool)
    (allowed : Intrusion → Prop) (P : σ → Prop) (Q : Buffer → Prop) : Prop where
  produces : OnlyProduces intrude busy
  confined : Sink.Confined allowed P
  kept : Buffer.Kept Q
  intrude : ∀ {s : Station σ} {i : Intrusion}, allowed i → s.busy = busy → Q s.buffer →
    Q (intrude s i).buffer

omit [Sink σ] in
theorem enqueue_isOpen (s : Station σ) (f : Fields) :
    (s.enqueue f).2.buffer.isOpen = s.buffer.isOpen := by
  obtain ⟨answer, s', hs, hb, -⟩ := s.enqueue_cases f
  rw [hs]
  rcases answer with why | id
  · obtain ⟨-, hsame | hcount⟩ := Buffer.enqueue_refused hb
    · rw [hsame]
    · rw [hcount, Buffer.countError_isOpen]
  · obtain ⟨-, -, -, haccept⟩ := Buffer.enqueue_accepted hb
    rw [haccept, Buffer.accept_isOpen]

omit [Sink σ] in
theorem fillLoop_isOpen (f : Fields) (fuel : Nat) (s : Station σ) :
    (s.fillLoop f fuel).buffer.isOpen = s.buffer.isOpen := by
  induction fuel generalizing s with
  | zero => rfl
  | succ fuel ih =>
      have hfirst := s.enqueue_isOpen f
      unfold fillLoop
      rcases h : s.enqueue f with ⟨why | id, s'⟩ <;> rw [h] at hfirst
      · exact hfirst
      · exact (ih s').trans hfirst

omit [Sink σ] in
/-- Whatever a sink does to a buffer directly, short of closing it, leaves it open. -/
theorem intrude_isOpen {i : Intrusion} (hi : i ≠ .close) (s : Station σ) :
    (s.intrude i).buffer.isOpen = s.buffer.isOpen := by
  cases i with
  | add f => exact s.enqueue_isOpen f
  | fill f => exact fillLoop_isOpen f _ s
  | close => exact absurd rfl hi
  | wait micros => rfl
  | setWall ms => rfl

/-- During a batch of a processor, a sink that does not close the buffer leaves it open. -/
theorem intrude_keeps_isOpen (hconfined : Sink.Confined (· ≠ .close) P) (busy : Bool) :
    Keeps Station.intrude busy (· ≠ .close) P fun b => b.isOpen = true where
  produces := intrude_onlyProduces busy
  confined := hconfined
  kept := Buffer.kept_isOpen
  intrude := by
    intro s i hi _ hopen
    rw [intrude_isOpen hi, hopen]

/-- The sink is confined, and the condition holds of the buffer. -/
structure Holds (busy : Bool) (P : σ → Prop) (Q : Buffer → Prop) (s : Station σ) : Prop where
  busy : s.busy = busy
  sink : P s.sink
  buffer : Q s.buffer

omit [Sink σ] in
theorem Holds.of_beside {busy : Bool} {s s' : Station σ} (hs : s.Holds busy P Q)
    (hbeside : Beside s s') (hbuffer : Q s'.buffer) : s'.Holds busy P Q where
  busy := hbeside.busy.trans hs.busy
  sink := hbeside.sink ▸ hs.sink
  buffer := hbuffer

theorem foldl_keeps {busy : Bool} (h : Keeps intrude busy allowed P Q)
    {intrusions : List Intrusion} (hallowed : ∀ i ∈ intrusions, allowed i) {s : Station σ}
    (hs : s.Holds busy P Q) : (intrusions.foldl intrude s).Holds busy P Q := by
  induction intrusions generalizing s with
  | nil => exact hs
  | cons i intrusions ih =>
      have hfirst := h.intrude (hallowed i List.mem_cons_self) hs.busy hs.buffer
      exact ih (fun j hj => hallowed j (List.mem_cons_of_mem i hj))
        (hs.of_beside (h.produces s i hs.busy).beside hfirst)

/-- A call to the sink keeps what the sink is not allowed to change. -/
theorem callSink_keeps {busy : Bool} (h : Keeps intrude busy allowed P Q) (call : Call)
    {s : Station σ} (hs : s.Holds busy P Q) : (s.callSink intrude call).2.Holds busy P Q := by
  let started : Station σ := { s with sink := (Sink.receive call s.sink).2 }
  have hstarted : (started.passTime (Sink.receive call s.sink).1).Holds busy P Q :=
    ⟨hs.busy, h.confined.receive call hs.sink, hs.buffer⟩
  obtain ⟨hbusy, hsink, hbuffer⟩ := foldl_keeps h (h.confined.intrusions call hs.sink) hstarted
  exact ⟨hbusy, h.confined.settle call hsink, hbuffer⟩

theorem Delivers.keeps {busy : Bool} (h : Keeps intrude busy allowed P Q)
    {started remaining processed : Nat} {s s' : Station σ} {outcome : Outcome Nat}
    (hloop : Delivers intrude started remaining processed s outcome s') (hs : s.Holds busy P Q) :
    s'.Holds busy P Q := by
  -- when the call for an entry that was taken out has ended
  have hcalled {s t ended : Station σ} {e : Entry} {answer : Answer} (hs : s.Holds busy P Q)
      (htaken : s.dequeue = (.ok (some e), t))
      (hcall : t.callSink intrude (.log (t.deliveryOf e)) = (answer, ended)) :
      ended.Holds busy P Q := by
    obtain ⟨taken, t', ht, hdequeue, hbeside, -⟩ := s.dequeue_cases
    obtain ⟨rfl, rfl⟩ := Prod.mk.inj (htaken.symm.trans ht)
    have hkept := h.kept.dequeue hs.buffer
    rw [hdequeue] at hkept
    have hended := callSink_keeps h (.log (t.deliveryOf e)) (hs.of_beside hbeside hkept)
    rw [hcall] at hended
    exact hended
  induction hloop with
  | limit => exact hs
  | closed _ => exact hs
  | empty _ _ => exact hs
  | @accepted _ _ _ t ended _ e _ htaken hcall _ ih =>
      have hended := hcalled hs htaken hcall
      have hprocessed := h.kept.markProcessed (t.deliveryOf e).latency ended.now hended.buffer
      rw [← delivered_buffer] at hprocessed
      exact ih (hended.of_beside (ended.delivered_beside _) hprocessed)
  | @refused _ processed _ _ ended _ e why _ htaken hcall hrecover =>
      have hended := hcalled hs htaken hcall
      let counted := ended.markError.observeBatch started
      have hcounted : counted.Holds busy P Q :=
        ⟨hended.busy, hended.sink, h.kept.markError hended.buffer⟩
      obtain ⟨_, _, hs', hsink, hbusy, hentry⟩ := counted.recover_spec e processed why
      obtain ⟨rfl, rfl⟩ := Prod.mk.inj (hrecover.symm.trans hs')
      have hrequeued := h.kept.requeueFront e counted.storage.shortage? hcounted.buffer
      refine ⟨hbusy.trans hcounted.busy, hsink ▸ hcounted.sink, ?_⟩
      rcases hentry with ⟨hback, -, -⟩ | ⟨refusal, hgone, -, -⟩
      · rw [hback] at hrequeued
        exact hrequeued
      · rw [hgone] at hrequeued
        exact hrequeued
  | @stalled _ _ _ _ ended e htaken hcall =>
      have hended := hcalled hs htaken hcall
      obtain ⟨hsink, hbusy, hentry⟩ := ended.abandon_spec e
      have hrequeued := h.kept.requeueFront e ended.storage.shortage? hended.buffer
      refine ⟨hbusy.trans hended.busy, hsink ▸ hended.sink, ?_⟩
      rcases hentry with ⟨hback, -⟩ | ⟨refusal, b, hgone, hb, -⟩
      · rw [hback] at hrequeued
        exact hrequeued
      · rw [hgone] at hrequeued
        rw [hb]
        exact h.kept.markError hrequeued

theorem persistSnapshot_keeps {busy : Bool} (h : Keeps intrude busy allowed P Q) {s : Station σ}
    (hs : s.Holds busy P Q) : (s.persistSnapshot intrude).2.Holds busy P Q := by
  rw [persistSnapshot]
  cases s.buffer.snapshot with
  | error why => exact ⟨hs.busy, hs.sink, hs.buffer⟩
  | ok metrics =>
      have hcall := callSink_keeps h (.snapshot metrics) hs
      dsimp only
      rcases hend : s.callSink intrude (.snapshot metrics) with ⟨answer, s'⟩
      rw [hend] at hcall
      cases answer with
      | accepted => exact hcall
      | refused why => exact ⟨hcall.busy, hcall.sink, h.kept.markError hcall.buffer⟩
      | stalled => exact hcall

theorem process_keeps {busy : Bool} (h : Keeps intrude busy allowed P Q) (maxItems : Nat)
    {s : Station σ} (hs : s.Holds busy P Q) : (s.process intrude maxItems).2.Holds busy P Q := by
  have hdeliver := (deliver_delivers s.clock.elapsed (s.batchLimit maxItems) 0 s).keeps h hs
  rcases hend : s.deliver intrude s.clock.elapsed (s.batchLimit maxItems) 0 with
    ⟨n | why | _, s₁⟩ <;> rw [hend] at hdeliver
  · have hsnapshot := persistSnapshot_keeps h hdeliver
    rcases process_of_answered hend with ⟨-, hs'⟩ | ⟨-, -, hs'⟩ | ⟨-, -, hs'⟩ <;> rw [hs']
    · exact ⟨hdeliver.busy, hdeliver.sink, hdeliver.buffer⟩
    · exact hsnapshot
    · exact ⟨hsnapshot.busy, hsnapshot.sink, hsnapshot.buffer⟩
  · rw [process_of_failed hend]
    exact hdeliver
  · rw [process_of_abandoned hend]
    exact hdeliver

/-- A loop of deliveries fails with the error of a delivery, or because the buffer is closed. -/
theorem Delivers.failed {started remaining processed : Nat} {s s' : Station σ}
    {outcome : Outcome Nat} {why : EngineError}
    (hloop : Delivers intrude started remaining processed s outcome s')
    (h : outcome = .failed why) : why.isRefusal = false ∨ s'.buffer.isOpen = false := by
  induction hloop with
  | limit => simp at h
  | closed hclosed => exact Or.inr hclosed
  | empty _ _ => simp at h
  | accepted _ _ _ ih => exact ih h
  | @refused _ processed _ _ ended _ e refusal _ _ _ hrecover =>
      left
      obtain ⟨_, _, hs', -, -, hentry⟩ :=
        (ended.markError.observeBatch started).recover_spec e processed refusal
      obtain ⟨rfl, rfl⟩ := Prod.mk.inj (hrecover.symm.trans hs')
      rw [← Outcome.failed.inj h]
      rcases hentry with ⟨-, rfl, -⟩ | ⟨_, -, rfl, -⟩
      · rfl
      · rfl
  | stalled _ _ => simp at h

/-- A batch fails where its loop of deliveries does. -/
theorem process_failed {maxItems : Nat} {s s' : Station σ} {why : EngineError}
    (h : s.process intrude maxItems = (.failed why, s')) :
    s.deliver intrude s.clock.elapsed (s.batchLimit maxItems) 0 = (.failed why, s') := by
  rcases hend : s.deliver intrude s.clock.elapsed (s.batchLimit maxItems) 0 with
    ⟨n | why' | _, s₁⟩
  · rcases process_of_answered hend with ⟨-, hs⟩ | ⟨-, -, hs⟩ | ⟨-, -, hs⟩ <;> rw [hs] at h
    · simp [finishBatch] at h
    · simp at h
    · simp [finishBatch] at h
  · rw [process_of_failed hend] at h
    obtain ⟨hwhy, rfl⟩ := Prod.mk.inj h
    obtain rfl := Outcome.failed.inj hwhy
    rfl
  · rw [process_of_abandoned hend] at h
    simp at h

end Station

end LogSpool
