import LogSpool.Proofs.Batch.Effect
import LogSpool.Proofs.Engine.Drain

/-!
# The end of a final drain

This module shows that the drain that comes before an engine is closed comes to an end, over every sink
that answers its calls, although such a sink may hand in entries faster than they are delivered.  The
length of the queue is no measure.  But every batch after which the drain goes on has delivered an entry,
and the queue grows by no more than the entries that are accepted; so there are no more batches than
entries that were queued at first or accepted since, and one.

* `Buffer.Gains` — what others make of the numbers of a buffer while a call is pending.
* `Yields` — what a stretch of a batch makes of them; `Delivers.yields`, `process_yields` and
  `Drains.yields` for loops of deliveries, batches and drains.
* `Stops` — how a drain goes that has no limit; `Stops.calls_le`, `stops_of_intake` — how many batches it
  takes, and that it ends where only so many entries are accepted.
* `IntakeEnds`, `Sink.Supplied` — only so many entries are accepted during a drain; so it is over every
  script.
* `final_drain_ends` — every drain of an open engine ends, and the buffer is closed after it.
-/

namespace LogSpool

variable {σ : Type} [Sink σ] {P : σ → Prop}

/-! ## Sinks -/

/-- A lasting condition under which a sink answers every call.  It may come back to the spool before. -/
structure Sink.Replies (P : σ → Prop) : Prop where
  answers : ∀ {x} (call : Call), P x → (ask call x).1 ≠ .stalled
  lasts : ∀ {x} (call : Call), P x → P (ask call x).2

/-- A supply that a sink uses up by coming back to the spool: there is less of it after every call in
which the sink did, and there is never more. -/
structure Sink.Supplied (supply : σ → Nat) : Prop where
  lasts : ∀ {x} (call : Call), supply (ask call x).2 ≤ supply x
  used : ∀ {x} (call : Call), (receive call x).1.intrusions ≠ [] → supply (ask call x).2 < supply x

/-- A sink behind a script that never stalls replies if it does so itself. -/
theorem Scripted.replies (hinner : ∀ (call : Call) (x : σ), (Sink.settle call x).1 ≠ .stalled) :
    Sink.Replies fun s : Scripted σ => s.Prompt where
  answers call hs := hs.answers hinner call
  lasts call hs := (hs.receive call).settle call

omit [Sink σ] in
/-- A call takes an action from the script, or nothing happens while it is pending. -/
theorem Scripted.take_length (call : Call) (s : Scripted σ) :
    (s.take call).2.actions.length ≤ s.actions.length ∧
      ((s.take call).1.disturbance.intrusions ≠ [] →
        (s.take call).2.actions.length < s.actions.length) := by
  have hnext (actions : List Action) : (nextAction actions).2.length ≤ actions.length ∧
      ((nextAction actions).1.disturbance.intrusions ≠ [] →
        (nextAction actions).2.length < actions.length) := by
    cases actions with
    | nil => exact ⟨Nat.le_refl _, fun hsome => absurd rfl hsome⟩
    | cons a rest => exact ⟨Nat.le_succ _, fun _ => Nat.lt_succ_self _⟩
  simp only [actions, List.length_append]
  cases call with
  | log d =>
      obtain ⟨hle, hlt⟩ := hnext s.logs
      exact ⟨by simpa [take] using hle, fun hsome => by simpa [take] using hlt hsome⟩
  | snapshot m =>
      obtain ⟨hle, hlt⟩ := hnext s.metrics
      exact ⟨by simpa [take] using hle, fun hsome => by simpa [take] using hlt hsome⟩
  | ping =>
      obtain ⟨hle, hlt⟩ := hnext s.pings
      exact ⟨by simpa [take] using hle, fun hsome => by simpa [take] using hlt hsome⟩

/-- The actions of a script are a supply. -/
theorem Scripted.supplied : Sink.Supplied fun s : Scripted σ => s.actions.length where
  lasts {s} call := by
    have hsame := congrArg List.length ((Sink.receive call s).2.settle_actions call)
    exact Nat.le_trans (Nat.le_of_eq hsame) (s.take_length call).1
  used {s} call hsome := by
    have hsame := congrArg List.length ((Sink.receive call s).2.settle_actions call)
    exact Nat.lt_of_le_of_lt (Nat.le_of_eq hsame) ((s.take_length call).2 hsome)

/-! ## What others make of a buffer -/

/-- The places that are left in a buffer that takes entries. -/
def Buffer.room (b : Buffer) : Nat :=
  if b.isOpen then b.capacity - b.size else 0

theorem Buffer.room_le (b : Buffer) : b.room ≤ b.capacity := by
  unfold room
  split
  · exact Nat.sub_le _ _
  · exact Nat.zero_le _

/-- What others make of the numbers of a buffer: the queue grows by no more than the entries that are
accepted, and no more of them are accepted than there is room for. -/
structure Buffer.Gains (b b' : Buffer) : Prop where
  capacity : b'.capacity = b.capacity
  ingested : b.metrics.totalIngested ≤ b'.metrics.totalIngested
  size : b'.size + b.metrics.totalIngested ≤ b.size + b'.metrics.totalIngested
  room : b'.metrics.totalIngested + b'.room ≤ b.metrics.totalIngested + b.room

namespace Buffer.Gains

theorem refl (b : Buffer) : Gains b b :=
  ⟨rfl, Nat.le_refl _, Nat.le_refl _, Nat.le_refl _⟩

theorem trans {b b' b'' : Buffer} (h : Gains b b') (h' : Gains b' b'') : Gains b b'' where
  capacity := h'.capacity.trans h.capacity
  ingested := Nat.le_trans h.ingested h'.ingested
  size := by
    have hsize := h.size
    have hsize' := h'.size
    omega
  room := Nat.le_trans h'.room h.room

/-- An accepted entry takes one of the places. -/
theorem accept {b : Buffer} {f : Fields} (h : b.refusal? f = none) (now : Int) :
    Gains b (b.accept f now) := by
  obtain ⟨-, hopen, hroom⟩ := (b.refusal?_eq_none_iff f).1 h
  refine ⟨rfl, Nat.le_succ _, ?_, ?_⟩
  · rw [accept_size, accept_totalIngested]
    omega
  · rw [Buffer.room, Buffer.room, accept_isOpen, if_pos hopen, if_pos hopen, accept_size,
      accept_totalIngested, accept_capacity]
    omega

theorem close (b : Buffer) : Gains b b.close.2 := by
  rw [close_snd]
  split
  · refine ⟨rfl, Nat.le_refl _, ?_, Nat.add_le_add_left (Nat.zero_le _) _⟩
    exact Nat.add_le_add_right (Nat.zero_le _) _
  · exact refl b

end Buffer.Gains

/-- A buffer to which a number of entries may have gone back, and in which nothing else happened to the
numbers. -/
structure Buffer.Returned (n : Nat) (b b' : Buffer) : Prop where
  capacity : b'.capacity = b.capacity
  ingested : b'.metrics.totalIngested = b.metrics.totalIngested
  size : b'.size ≤ b.size + n

namespace Buffer.Returned

theorem refl (b : Buffer) : Returned 0 b b :=
  ⟨rfl, rfl, Nat.le_refl _⟩

theorem requeueFront (b : Buffer) (e : Entry) (shortage : Option Shortage) :
    Returned 1 b (b.requeueFront e shortage).2 := by
  rcases h : b.requeueFront e shortage with ⟨why | u, b'⟩
  · obtain ⟨-, rfl⟩ := requeueFront_refused h
    exact ⟨rfl, rfl, Nat.le_succ _⟩
  · obtain ⟨-, -, -, rfl⟩ := requeueFront_accepted h
    exact ⟨rfl, rfl, Nat.le_refl _⟩

theorem markProcessed (b : Buffer) (latency : Float) (now : Int) :
    Returned 0 b (b.markProcessed latency now) :=
  ⟨by simp, by simp, by simp⟩

theorem markError {n : Nat} {b b' : Buffer} (h : Returned n b b') : Returned n b b'.markError := by
  rcases b'.markError_eq with hsame | hcount
  · rwa [hsame]
  · rw [hcount]
    exact ⟨h.capacity, h.ingested, h.size⟩

theorem of_markError {n : Nat} {b b' : Buffer} (h : Returned n b.markError b') : Returned n b b' := by
  rcases b.markError_eq with hsame | hcount
  · rwa [hsame] at h
  · rw [hcount] at h
    exact ⟨h.capacity, h.ingested, h.size⟩

end Buffer.Returned

namespace Station

variable {intrude : Station σ → Intrusion → Station σ} {s s' s'' : Station σ}

omit [Sink σ] in
theorem Errand.gains (h : Errand s s') : s.buffer.Gains s'.buffer := by
  cases h with
  | enqueue f =>
      obtain ⟨answer, t, hs, hexit⟩ := s.enqueue_exits f
      rw [hs]
      cases hexit with
      | accepted hnone => exact .accept hnone s.now
      | invalid _ => exact .refl s.buffer
      | closed _ _ => exact .refl s.buffer
      | full _ _ _ => exact ⟨rfl, Nat.le_refl _, Nat.le_refl _, Nat.le_refl _⟩
      | short _ => exact ⟨rfl, Nat.le_refl _, Nat.le_refl _, Nat.le_refl _⟩
  | close =>
      rw [close_buffer]
      exact .close s.buffer
  | moveClock _ => exact .refl s.buffer
  | reached _ => exact .refl s.buffer

omit [Sink σ] in
theorem Errands.gains (h : Errands s s') : s.buffer.Gains s'.buffer :=
  h.induction (P := fun t => s.buffer.Gains t.buffer) (fun herrand ht => ht.trans herrand.gains)
    (.refl s.buffer)

/-! ## What a stretch of a batch makes of the numbers -/

/-- What a stretch of a batch makes of the numbers of a station, if it takes a number of entries away
from the queue.  The queue grows by no more than the entries that are accepted, less these.  A sink that
replies still does.  A sink that has a supply has used up some of it for the entries that were accepted:
no call makes more of them than there are places. -/
structure Yields (taken : Nat) (s s' : Station σ) : Prop where
  busy : s'.busy = s.busy
  capacity : s'.buffer.capacity = s.buffer.capacity
  ingested : s.buffer.metrics.totalIngested ≤ s'.buffer.metrics.totalIngested
  size : s'.buffer.size + taken + s.buffer.metrics.totalIngested ≤
    s.buffer.size + s'.buffer.metrics.totalIngested
  sink : ∀ {P}, Sink.Replies P → P s.sink → P s'.sink
  supply : ∀ {supply}, Sink.Supplied supply →
    s'.buffer.metrics.totalIngested + s.buffer.capacity * supply s'.sink ≤
      s.buffer.metrics.totalIngested + s.buffer.capacity * supply s.sink

namespace Yields

variable {n k : Nat}

theorem refl (s : Station σ) : Yields 0 s s :=
  ⟨rfl, rfl, Nat.le_refl _, Nat.le_refl _, fun _ h => h, fun _ => Nat.le_refl _⟩

theorem trans (h : Yields n s s') (h' : Yields k s' s'') : Yields (n + k) s s'' where
  busy := h'.busy.trans h.busy
  capacity := h'.capacity.trans h.capacity
  ingested := Nat.le_trans h.ingested h'.ingested
  size := by
    have hsize := h.size
    have hsize' := h'.size
    omega
  sink hP hs := h'.sink hP (h.sink hP hs)
  supply hsupply := by
    have hlater := h'.supply hsupply
    rw [h.capacity] at hlater
    exact Nat.le_trans hlater (h.supply hsupply)

/-- Entries that may have gone back to the queue were not taken away. -/
theorem returned (h : Yields (n + k) s s') (hsink : s''.sink = s'.sink) (hbusy : s''.busy = s'.busy)
    (hreturned : s'.buffer.Returned k s''.buffer) : Yields n s s'' where
  busy := hbusy.trans h.busy
  capacity := hreturned.capacity.trans h.capacity
  ingested := Nat.le_trans h.ingested (Nat.le_of_eq hreturned.ingested.symm)
  size := by
    have hbefore := h.size
    have hafter := hreturned.size
    have hsame := hreturned.ingested
    omega
  sink hP hs := hsink ▸ h.sink hP hs
  supply hsupply := by
    rw [hreturned.ingested, hsink]
    exact h.supply hsupply

/-- What the processor notes does not count. -/
theorem beside (h : Yields n s s') (hsink : s''.sink = s'.sink) (hbusy : s''.busy = s'.busy)
    (hreturned : s'.buffer.Returned 0 s''.buffer) : Yields n s s'' :=
  returned (k := 0) h hsink hbusy hreturned

end Yields

/-- A call is answered as the sink answers, since others leave the sink alone. -/
theorem Called.asks {call : Call} {answer : Answer} (h : Called s call answer s') :
    answer = (Sink.ask call s.sink).1 ∧ s'.sink = (Sink.ask call s.sink).2 := by
  cases h with
  | @intro t herrands =>
      have hsink : t.sink = (Sink.receive call s.sink).2 := herrands.aside.sink
      rw [hsink]
      exact ⟨rfl, rfl⟩

theorem Called.gains {call : Call} {answer : Answer} (h : Called s call answer s') :
    s.buffer.Gains s'.buffer := by
  cases h with
  | intro herrands => exact herrands.gains

/-- A call leaves the buffer alone if the sink does not come back to the spool. -/
theorem callSink_alone (intrude : Station σ → Intrusion → Station σ) {call : Call}
    (hnone : (Sink.receive call s.sink).1.intrusions = []) :
    (s.callSink intrude call).2.buffer = s.buffer := by
  show (List.foldl intrude _ (Sink.receive call s.sink).1.intrusions).buffer = s.buffer
  rw [hnone]
  rfl

/-- A call takes no entry away.  If the sink has a supply, it is used up by a call in which others make
anything of the buffer. -/
theorem callSink_yields (h : OnlyErrands intrude s.busy) {call : Call} {answer : Answer}
    (hcall : s.callSink intrude call = (answer, s')) : Yields 0 s s' := by
  have hcalled := called_of_callSink h hcall
  obtain ⟨-, hsink⟩ := hcalled.asks
  have hgains := hcalled.gains
  refine ⟨hcalled.aside.1, hgains.capacity, hgains.ingested, hgains.size, fun hP hs => ?_,
    fun {supply} hsupply => ?_⟩
  · rw [hsink]
    exact hP.lasts call hs
  · rw [hsink]
    by_cases hnone : (Sink.receive call s.sink).1.intrusions = []
    · have hbuffer : s'.buffer = s.buffer := by
        have halone := callSink_alone intrude hnone
        rwa [hcall] at halone
      rw [hbuffer]
      exact Nat.add_le_add_left (Nat.mul_le_mul_left _ (hsupply.lasts call)) _
    · have hused : s.buffer.capacity * (supply (Sink.ask call s.sink).2 + 1) ≤
          s.buffer.capacity * supply s.sink := Nat.mul_le_mul_left _ (hsupply.used call hnone)
      rw [Nat.mul_succ] at hused
      have hroom := hgains.room
      have hroom_le := s.buffer.room_le
      omega

/-! ## Batches -/

/-- To take an entry out takes it away from the queue. -/
theorem dequeue_yields {e : Entry} (h : s.dequeue = (.ok (some e), s')) : Yields 1 s s' := by
  have haside := dequeue_aside h
  obtain ⟨-, ⟨rest, hqueue, hbuffer⟩, -, -⟩ := dequeue_taken h
  refine ⟨haside.busy, by rw [hbuffer]; rfl, by rw [hbuffer]; exact Nat.le_refl _, ?_,
    fun _ hs => haside.sink ▸ hs, fun _ => ?_⟩
  · rw [hbuffer, Buffer.withQueue_size, Buffer.withQueue_totalIngested, Buffer.size, hqueue]
    exact Nat.le_refl _
  · rw [hbuffer, haside.sink]
    exact Nat.le_refl _

omit [Sink σ] in
/-- An entry that was refused may have gone back to the queue. -/
theorem recover_returned (s : Station σ) (e : Entry) (processed : Nat) (why : SinkError) :
    s.buffer.Returned 1 (s.recover e processed why).2.buffer := by
  have hreturned := Buffer.Returned.requeueFront s.buffer e s.storage.shortage?
  obtain ⟨error, s', hs, -, -, ⟨hback, -⟩ | ⟨refusal, hback, -⟩⟩ := s.recover_spec e processed why <;>
    rw [hback] at hreturned <;> rw [hs] <;> exact hreturned

omit [Sink σ] in
/-- An entry whose delivery was given up may have gone back to the queue. -/
theorem abandon_returned (s : Station σ) (e : Entry) :
    s.buffer.Returned 1 (s.abandon e).buffer := by
  have hreturned := Buffer.Returned.requeueFront s.buffer e s.storage.shortage?
  obtain ⟨-, -, ⟨hback, -⟩ | ⟨refusal, b, hback, hbuffer, -⟩⟩ := s.abandon_spec e
  · rwa [hback] at hreturned
  · rw [hback] at hreturned
    rw [hbuffer]
    exact hreturned.markError

/-- A loop of deliveries takes away as many entries as it reports, and it is not given up if the sink
replies. -/
theorem Delivers.yields {started remaining processed : Nat} {outcome : Outcome Nat}
    (hloop : Delivers intrude started remaining processed s outcome s')
    (h : OnlyErrands intrude s.busy) :
    ∃ taken, Yields taken s s' ∧ (∀ n, outcome = .answered n → n = processed + taken) ∧
      ∀ {P}, Sink.Replies P → P s.sink → outcome ≠ .abandoned := by
  -- an entry that was taken out, and the call for it
  have hcalled {s taken ended : Station σ} {e : Entry} {answer : Answer}
      (h : OnlyErrands intrude s.busy) (htaken : s.dequeue = (.ok (some e), taken))
      (hcall : taken.callSink intrude (.log (taken.deliveryOf e)) = (answer, ended)) :
      Yields 1 s ended :=
    have hdequeued := dequeue_yields htaken
    hdequeued.trans (callSink_yields (h.of_eq hdequeued.busy) hcall)
  induction hloop with
  | @limit processed s => exact ⟨0, .refl s, fun n hn => (Outcome.answered.inj hn).symm, by simp⟩
  | @closed _ processed s _ => exact ⟨0, .refl s, by simp, by simp⟩
  | @empty _ processed s _ _ =>
      exact ⟨0, .refl s, fun n hn => (Outcome.answered.inj hn).symm, by simp⟩
  | @accepted _ processed s s₁ s₂ _ e outcome htaken hcall _ ih =>
      have hfirst : Yields 1 s (s₂.delivered (s₁.deliveryOf e)) := by
        have haside := s₂.delivered_aside (s₁.deliveryOf e)
        refine (hcalled h htaken hcall).beside haside.sink haside.busy ?_
        rw [delivered_buffer]
        exact .markProcessed _ _ _
      obtain ⟨taken, hlater, hcount, hanswered⟩ := ih (h.of_eq hfirst.busy)
      refine ⟨1 + taken, hfirst.trans hlater, fun n hn => ?_, fun hP hs =>
        hanswered hP (hfirst.sink hP hs)⟩
      rw [hcount n hn, Nat.add_assoc]
  | @refused _ processed s s₁ s₂ s' e why error htaken hcall hrecover =>
      let failed := s₂.markError.observeBatch started
      have haside := recover_aside failed e processed why
      have hreturned := recover_returned failed e processed why
      rw [hrecover] at haside hreturned
      have hsink : s'.sink = s₂.sink := haside.sink
      have hbusy : s'.busy = s₂.busy := haside.busy
      exact ⟨0, .returned (hcalled h htaken hcall) hsink hbusy (.of_markError hreturned), by simp,
        by simp⟩
  | @stalled _ processed s s₁ s₂ e htaken hcall =>
      have haside := s₂.abandon_aside e
      refine ⟨0, (hcalled h htaken hcall).returned haside.sink haside.busy (s₂.abandon_returned e),
        by simp, fun hP hs => ?_⟩
      -- a sink that replies does not stall
      have hdequeued := dequeue_yields htaken
      have hasks := (called_of_callSink (h.of_eq hdequeued.busy) hcall).asks.1
      exact absurd hasks.symm (hP.answers _ (hdequeued.sink hP hs))

/-- To hand over a snapshot takes nothing away. -/
theorem persistSnapshot_yields (h : OnlyErrands intrude s.busy) :
    Yields 0 s (s.persistSnapshot intrude).2 ∧
      ∀ {P}, Sink.Replies P → P s.sink → (s.persistSnapshot intrude).1 ≠ .abandoned := by
  rw [persistSnapshot]
  cases hsnapshot : s.buffer.snapshot with
  | error why => exact ⟨(Yields.refl s).beside rfl rfl (.refl _), by simp⟩
  | ok metrics =>
      dsimp only
      rcases hcall : s.callSink intrude (.snapshot metrics) with ⟨answer, ended⟩
      have hyields := callSink_yields h hcall
      cases answer with
      | accepted => exact ⟨hyields, by simp⟩
      | refused why => exact ⟨hyields.beside rfl rfl (.markError (.refl ended.buffer)), by simp⟩
      | stalled =>
          have hasks := (called_of_callSink h hcall).asks.1
          exact ⟨hyields, fun hP hs => absurd hasks.symm (hP.answers _ hs)⟩

/-- A batch takes away as many entries as it reports, and it is not given up if the sink replies. -/
theorem process_yields {maxItems : Nat} {result : Outcome BatchReport}
    (h : OnlyErrands intrude s.busy) (hprocess : s.process intrude maxItems = (result, s')) :
    ∃ taken, Yields taken s s' ∧ (∀ report, result = .answered report → report.processed = taken) ∧
      ∀ {P}, Sink.Replies P → P s.sink → result ≠ .abandoned := by
  rcases hend : s.deliver intrude s.clock.elapsed (s.batchLimit maxItems) 0 with ⟨n | why | _, t⟩ <;>
    obtain ⟨taken, hloop, hcount, hanswered⟩ := (delivers_of_deliver hend).yields h
  · have htaken : n = taken := by rw [hcount n rfl, Nat.zero_add]
    obtain ⟨hsnapshot, hreplies⟩ := persistSnapshot_yields (h.of_eq hloop.busy)
    rcases process_of_answered hend with ⟨hzero, hs⟩ | ⟨-, hgone, hs⟩ | ⟨-, -, hs⟩ <;>
      rw [hs] at hprocess <;> obtain ⟨rfl, rfl⟩ := Prod.mk.inj hprocess
    · refine ⟨taken, hloop.beside rfl rfl (.refl _), fun report hreport => ?_, by simp⟩
      rw [← Outcome.answered.inj hreport, ← htaken, hzero]
    · exact ⟨taken, hloop.trans hsnapshot, by simp, fun hP hs =>
        absurd hgone (hreplies hP (hloop.sink hP hs))⟩
    · refine ⟨taken, (hloop.trans hsnapshot).beside rfl rfl (.refl _), fun report hreport => ?_,
        by simp⟩
      rw [← Outcome.answered.inj hreport]
      exact htaken
  · rw [process_of_failed hend] at hprocess
    obtain ⟨rfl, rfl⟩ := Prod.mk.inj hprocess
    exact ⟨taken, hloop, by simp, by simp⟩
  · rw [process_of_abandoned hend] at hprocess
    obtain ⟨rfl, rfl⟩ := Prod.mk.inj hprocess
    exact ⟨taken, hloop, by simp, fun hP hs => absurd rfl (hanswered hP hs)⟩

end Station

/-! ## Drains -/

namespace Engine

open Station (OnlyErrands Yields process_yields)

section

variable {intrude : Station σ → Intrusion → Station σ} {batch : Nat} {s s' : Station σ}

/-- A drain takes entries away, and it is not given up if the sink replies. -/
theorem Drains.yields {fuel drained : Nat} {outcome : Outcome Nat}
    (hdrain : Drains intrude batch fuel drained s outcome s') (h : OnlyErrands intrude s.busy) :
    ∃ taken, Yields taken s s' ∧ ∀ {P}, Sink.Replies P → P s.sink → outcome ≠ .abandoned := by
  induction hdrain with
  | @exhausted _ s => exact ⟨0, .refl s, by simp⟩
  | empty hprocess _ =>
      obtain ⟨taken, hyields, -, -⟩ := process_yields h hprocess
      exact ⟨taken, hyields, by simp⟩
  | more hprocess _ _ ih =>
      obtain ⟨taken, hyields, -, -⟩ := process_yields h hprocess
      obtain ⟨taken', hyields', hanswered⟩ := ih (h.of_eq hyields.busy)
      exact ⟨taken + taken', hyields.trans hyields', fun hP hs => hanswered hP (hyields.sink hP hs)⟩
  | stopped hprocess =>
      obtain ⟨taken, hyields, -, -⟩ := process_yields h hprocess
      exact ⟨taken, hyields.beside rfl rfl (.refl _), by simp⟩
  | abandoned hprocess =>
      obtain ⟨taken, hyields, -, hanswered⟩ := process_yields h hprocess
      exact ⟨taken, hyields, fun hP hs => absurd rfl (hanswered hP hs)⟩

/-- How a drain goes that has no limit on the number of its batches: after some number of them one
delivers nothing or fails, and the drain stops by itself. -/
inductive Stops (intrude : Station σ → Intrusion → Station σ) (batch : Nat) :
    Nat → Nat → Station σ → Nat → Station σ → Prop
  | empty {drained : Nat} {report : BatchReport} {s s' : Station σ} :
    s.process intrude batch = (.answered report, s') → report.processed = 0 →
    Stops intrude batch 1 drained s drained s'
  | failed {drained : Nat} {why : EngineError} {s s' : Station σ} :
    s.process intrude batch = (.failed why, s') →
    Stops intrude batch 1 drained s (drained + why.processed) (s'.record (.drainStopped why))
  | more {calls drained total : Nat} {report : BatchReport} {s s' s'' : Station σ} :
    s.process intrude batch = (.answered report, s') → report.processed ≠ 0 →
    Stops intrude batch calls (drained + report.processed) s' total s'' →
    Stops intrude batch (calls + 1) drained s total s''

namespace Stops

variable {calls drained total : Nat}

/-- A drain that may run as many batches as it takes, or more, is this one. -/
theorem drain_eq (hstops : Stops intrude batch calls drained s total s') {fuel : Nat}
    (hfuel : calls ≤ fuel) : drain intrude batch fuel drained s = (.answered total, s') := by
  induction hstops generalizing fuel with
  | empty hprocess hzero =>
      obtain ⟨fuel, rfl⟩ := Nat.exists_eq_add_of_le' hfuel
      rw [drain, hprocess]
      exact if_pos hzero
  | failed hprocess =>
      obtain ⟨fuel, rfl⟩ := Nat.exists_eq_add_of_le' hfuel
      rw [drain, hprocess]
  | more hprocess hsome _ ih =>
      obtain ⟨fuel, rfl⟩ := Nat.exists_eq_add_of_le' (Nat.le_trans (Nat.le_add_left 1 _) hfuel)
      rw [drain, hprocess]
      dsimp only
      rw [if_neg hsome]
      exact ih (Nat.le_of_succ_le_succ hfuel)

/-- A drain takes no more batches than there were entries queued or accepted since, and one.  Every batch
but the last one takes an entry away. -/
theorem calls_le (hstops : Stops intrude batch calls drained s total s')
    (h : OnlyErrands intrude s.busy) :
    s.buffer.metrics.totalIngested ≤ s'.buffer.metrics.totalIngested ∧
      calls + s.buffer.metrics.totalIngested ≤
        s.buffer.size + s'.buffer.metrics.totalIngested + 1 := by
  induction hstops with
  | empty hprocess _ =>
      obtain ⟨taken, hyields, -⟩ := process_yields h hprocess
      have hle := hyields.ingested
      exact ⟨hle, by omega⟩
  | @failed _ why _ s' hprocess =>
      obtain ⟨taken, hyields, -⟩ := process_yields h hprocess
      have hle := hyields.ingested
      exact ⟨hle, by show 1 + _ ≤ _ + s'.buffer.metrics.totalIngested + 1; omega⟩
  | more hprocess hsome _ ih =>
      obtain ⟨taken, hyields, hcount, -⟩ := process_yields h hprocess
      obtain ⟨hle', hcalls⟩ := ih (h.of_eq hyields.busy)
      have hle := hyields.ingested
      have hsize := hyields.size
      have htaken : 0 < taken := Nat.pos_of_ne_zero (hcount _ rfl ▸ hsome)
      exact ⟨Nat.le_trans hle hle', by omega⟩

end Stops

/-- A drain ends over a sink that replies, if no number of batches makes more than so many entries
accepted.  The entries that are queued and those that may still be accepted get fewer with every batch
after which the drain goes on. -/
theorem stops_of_intake (hP : Sink.Replies P) {most drained : Nat}
    (hmost : ∀ fuel, (drain intrude batch fuel drained s).2.buffer.metrics.totalIngested ≤ most)
    (h : OnlyErrands intrude s.busy) (hs : P s.sink) :
    ∃ calls total s', Stops intrude batch calls drained s total s' := by
  induction hn : s.buffer.size + (most - s.buffer.metrics.totalIngested)
    using Nat.strong_induction_on generalizing s drained with
  | _ n ih =>
      rcases hend : s.process intrude batch with ⟨report | why | _, t⟩ <;>
        obtain ⟨taken, hyields, hcount, hanswered⟩ := process_yields h hend
      · by_cases hzero : report.processed = 0
        · exact ⟨1, drained, t, .empty hend hzero⟩
        · have hmost' (fuel : Nat) : (drain intrude batch fuel (drained + report.processed)
              t).2.buffer.metrics.totalIngested ≤ most := by
            have hlonger := hmost (fuel + 1)
            rw [drain, hend] at hlonger
            dsimp only at hlonger
            rwa [if_neg hzero] at hlonger
          have hfewer : t.buffer.size + (most - t.buffer.metrics.totalIngested) < n := by
            have hsize := hyields.size
            have htaken : 0 < taken := Nat.pos_of_ne_zero (hcount _ rfl ▸ hzero)
            have hle : t.buffer.metrics.totalIngested ≤ most := hmost' 0
            have hgrown := hyields.ingested
            omega
          obtain ⟨calls, total, s', hstops⟩ :=
            ih _ hfewer hmost' (h.of_eq hyields.busy) (hyields.sink hP hs) rfl
          exact ⟨calls + 1, total, s', .more hend hzero hstops⟩
      · exact ⟨1, drained + why.processed, _, .failed hend⟩
      · exact absurd rfl (hanswered hP hs)

end

/-- Only so many entries are accepted in the final drain of an engine, however many batches it may run. -/
def IntakeEnds (e : Engine σ) : Prop :=
  ∃ most, ∀ fuel, (drain (intrude e.config) e.config.processBatchSize fuel 0
    { e.station with busy := true }).2.buffer.metrics.totalIngested ≤ most

/-- So it is if the sink has a supply: every time that it comes back, it can fill the places that are left,
and no more. -/
theorem intakeEnds_of_supplied {supply : σ → Nat} (h : Sink.Supplied supply) (e : Engine σ) :
    e.IntakeEnds := by
  refine ⟨e.station.buffer.metrics.totalIngested +
    e.station.buffer.capacity * supply e.station.sink, fun fuel => ?_⟩
  obtain ⟨taken, hyields, -⟩ := (drain_drains fuel 0 { e.station with busy := true }).yields
    (intrude_onlyErrands e.config)
  exact Nat.le_trans (Nat.le_add_right _ _) (hyields.supply h)

theorem closeAfter_isOpen (drained : Nat) (s : Station σ) :
    (closeAfter drained s).2.buffer.isOpen = false := by
  have hclosed : s.close.2.buffer.isOpen = false := by
    rw [Station.close_buffer, Buffer.close_snd]
    split
    · rfl
    · simpa using ‹¬s.buffer.isOpen = true›
  exact hclosed

/-- The shutdown of an open engine whose sink replies is answered, and the buffer is closed after it. -/
theorem shutdown_closes (hP : Sink.Replies P) {e : Engine σ} (hidle : e.station.busy = false)
    (hopen : e.isOpen = true) (hs : P e.station.sink) :
    ∃ drained s, e.finalDrain = (.answered drained, s) ∧
      e.shutdown.1 = .answered (closeAfter drained s).1 ∧ e.shutdown.2.isOpen = false := by
  rcases shutdown_of_open hidle hopen with ⟨drained, s, hend, hshutdown⟩ | ⟨s, hend, -⟩
  · rw [hshutdown]
    exact ⟨drained, s, hend, rfl, closeAfter_isOpen drained s⟩
  · obtain ⟨taken, -, hanswered⟩ := e.finalDrain_drains.yields (intrude_onlyErrands e.config)
    exact absurd (congrArg Prod.fst hend) (hanswered hP hs)

/-- The final drain ends.  The engine is open after some session, with whatever storage, and its sink
answers every call.  While it is called it may hand in entries, and fill the queue, but only so many are
accepted during the drain in all.  Then the drain stops by itself, after no more batches than there were
entries queued at first and accepted since, and one; the shutdown is answered, and the buffer is closed
after it.

The number of the batches that the engine allows itself never stops a drain before: it would take as many
entries as there are numbers for them.

Only so many entries are accepted, whatever the engine is, if the sink follows a script. -/
theorem final_drain_ends (hP : Sink.Replies P) {config : EngineConfig} {sink : σ} {clock : Clock}
    {storage : Storage} {e : Engine σ} (he : withSink config sink clock storage = .ok e)
    (ops : List (Operation σ)) (hopen : (e.run ops).isOpen = true) (hs : P (e.run ops).station.sink) :
    let before := e.run ops
    let buffer := before.station.buffer
    (before.IntakeEnds → ∃ calls total ended,
      Stops (intrude before.config) before.config.processBatchSize calls 0
        { before.station with busy := true } total ended ∧
      calls ≤ buffer.size +
        (ended.buffer.metrics.totalIngested - buffer.metrics.totalIngested) + 1 ∧
      (∃ report, before.shutdown.1 = .answered report) ∧ before.shutdown.2.isOpen = false ∧
      (ended.buffer.metrics.totalIngested < 2 ^ 64 → before.finalDrain = (.answered total, ended) ∧
        before.shutdown.1 = .answered (closeAfter total ended).1)) ∧
    ∀ {τ : Type} [Sink τ] (scripted : Engine (Scripted τ)), scripted.IntakeEnds := by
  intro before buffer
  refine ⟨?_, fun scripted => intakeEnds_of_supplied Scripted.supplied scripted⟩
  rintro ⟨most, hmost⟩
  obtain ⟨hidle, hb, acts, hacts, hdescribes⟩ := run_course he ops
  have herrands := intrude_onlyErrands (σ := σ) before.config
  obtain ⟨calls, total, ended, hstops⟩ := stops_of_intake hP hmost herrands hs
  obtain ⟨hle, hcalls⟩ := hstops.calls_le herrands
  have hle : buffer.metrics.totalIngested ≤ ended.buffer.metrics.totalIngested := hle
  have hcalls : calls + buffer.metrics.totalIngested ≤
    buffer.size + ended.buffer.metrics.totalIngested + 1 := hcalls
  obtain ⟨drained, s, hend, hanswered, hclosed⟩ := shutdown_closes hP hidle hopen hs
  refine ⟨calls, total, ended, hstops, by omega, ⟨_, hanswered⟩, hclosed, fun hfew => ?_⟩
  -- all that is queued has a number
  have hsize : buffer.size ≤ buffer.metrics.totalIngested := by
    have hw := Custody.inOrder_run hacts (Custody.inOrder_around hb storage)
    have hqueued := hw.conserved.size_le
    rwa [hdescribes.buffer] at hqueued
  have hlimit : calls ≤ 2 ^ 64 := by omega
  have hdrain : before.finalDrain = (.answered total, ended) := hstops.drain_eq hlimit
  obtain ⟨hdrained, rfl⟩ := Prod.mk.inj (hend.symm.trans hdrain)
  rw [Outcome.answered.inj hdrained] at hanswered
  exact ⟨hdrain, hanswered⟩

/-- One entry is queued.  The sink fills the queue up while it is called with that one, and hands in
another one with the second snapshot, when there is a place again.  So four entries are delivered, though
no more than two are ever queued. -/
theorem final_drain_ends_of_refilled_queue :
    let fields : Fields := ⟨"INFO", "app", "a"⟩
    let sink : Scripted MemorySink :=
      ⟨[⟨⟨0, none, [.fill fields]⟩, .passOn⟩],
        [⟨.none, .passOn⟩, ⟨⟨0, none, [.add fields]⟩, .passOn⟩], [], [], .withRetention 4⟩
    let e : Engine (Scripted MemorySink) := ⟨⟨2, 2, 1, 50⟩,
      (Station.around ⟨2, [], 1, .initial 2 0, true⟩ sink ⟨0, 0⟩ 1).record (.initialized 2 2 1)⟩
    let before := e.run [.addLog fields]
    withSink ⟨2, 2, 1, 0⟩ sink ⟨0, 0⟩ = .ok e ∧ before.IntakeEnds ∧
      (∃ calls total ended, Stops (intrude before.config) 1 calls 0
          { before.station with busy := true } total ended ∧
        calls ≤ 1 + (ended.buffer.metrics.totalIngested - 1) + 1) ∧
      before.shutdown.1 = .answered ⟨4, 0⟩ ∧ before.shutdown.2.isOpen = false := by
  intro fields sink e before
  have he : withSink ⟨2, 2, 1, 0⟩ sink ⟨0, 0⟩ = .ok e := rfl
  have hsink : before.station.sink.Prompt := ⟨by decide, by decide⟩
  obtain ⟨hends, hscripted⟩ := final_drain_ends (Scripted.replies MemorySink.answers) he
    [.addLog fields] (by decide) hsink
  obtain ⟨calls, total, ended, hstops, hcalls, -, hclosed, -⟩ := hends (hscripted before)
  have hsize : (e.run [.addLog fields]).station.buffer.size = 1 := by decide
  have hingested : (e.run [.addLog fields]).station.buffer.metrics.totalIngested = 1 := by decide
  rw [hsize, hingested] at hcalls
  exact ⟨he, hscripted before, ⟨calls, total, ended, hstops, hcalls⟩, by decide, hclosed⟩

end Engine

end LogSpool
