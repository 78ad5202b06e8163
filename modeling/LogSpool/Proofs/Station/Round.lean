import LogSpool.Proofs.Engine.Outage

/-!
# Batches that nobody disturbs

This module follows a batch over a sink that only answers: nobody comes back to the spool while a call
is pending, and no call is left without an answer.  Then a batch is told by the calls that it makes:
deliveries from the head of the queue on, up to the first that is refused, and a snapshot behind them
if none was.

* `Sink.Answers` — what it means that a sink only answers, and keeps notes of its calls.
* `Round` — the calls of one batch; `Round.Effect` — what they do to the buffer.
* `Delivers.round`, `process_round` — every loop of deliveries and every batch is such a round.
-/

namespace LogSpool

variable {σ α : Type} [Sink σ] {P : σ → Prop} {notes : σ → List α} {note : Call × Answer → α}

/-- A call to a sink where nothing comes between its start and its end. -/
def Sink.ask (call : Call) (x : σ) : Answer × σ :=
  Sink.settle call (Sink.receive call x).2

/-- A lasting condition under which a sink only answers: while it is called it does nothing to the
spool but let time pass, and every call is answered and noted. -/
structure Sink.Answers (P : σ → Prop) (notes : σ → List α) (note : Call × Answer → α) : Prop where
  waits : ∀ {x} (call : Call), P x → ∀ i ∈ (Sink.receive call x).1.intrusions, i.isWait = true
  answers : ∀ {x} (call : Call), P x → (Sink.ask call x).1 ≠ .stalled
  lasts : ∀ {x} (call : Call), P x → P (Sink.ask call x).2
  notes : ∀ {x} (call : Call), P x →
    notes (Sink.ask call x).2 = notes x ++ [note (call, (Sink.ask call x).1)]

/-- From one state of a sink to another some calls were made, and noted. -/
structure Sink.Hears (P : σ → Prop) (notes : σ → List α) (note : Call × Answer → α)
    (calls : List (Call × Answer)) (x y : σ) : Prop where
  lasts : P y
  notes : notes y = notes x ++ calls.map note

omit [Sink σ] in
theorem Sink.Hears.refl {x : σ} (hx : P x) : Sink.Hears P notes note [] x x :=
  ⟨hx, (List.append_nil _).symm⟩

omit [Sink σ] in
theorem Sink.Hears.trans {calls calls' : List (Call × Answer)} {x y z : σ}
    (h : Sink.Hears P notes note calls x y) (h' : Sink.Hears P notes note calls' y z) :
    Sink.Hears P notes note (calls ++ calls') x z where
  lasts := h'.lasts
  notes := by rw [h'.notes, h.notes, List.map_append, List.append_assoc]

theorem Sink.Answers.hears (h : Sink.Answers P notes note) (call : Call) {x : σ} (hx : P x) :
    Sink.Hears P notes note [(call, (Sink.ask call x).1)] x (Sink.ask call x).2 :=
  ⟨h.lasts call hx, h.notes call hx⟩

/-! ## Rounds -/

/-- What a batch says to its sink: the deliveries that were taken, the one that was refused and why,
if there was one, and the snapshot with its answer, if one was handed over. -/
structure Round where
  taken : List Delivery
  refused : Option (Delivery × SinkError)
  snapshot : Option (Metrics × Answer)

namespace Round

/-- The deliveries of a round with their answers, the earliest first. -/
def deliveries (r : Round) : List (Delivery × Answer) :=
  r.taken.map (·, .accepted) ++ r.refused.toList.map fun made => (made.1, .refused made.2)

/-- The calls of a round, the earliest first. -/
def calls (r : Round) : List (Call × Answer) :=
  r.deliveries.map (fun made => (.log made.1, made.2)) ++
    r.snapshot.toList.map fun made => (.snapshot made.1, made.2)

/-- The errors that a round counts: one for each call that was refused. -/
def errors (r : Round) : Nat :=
  r.calls.countP fun made => made.2 ≠ .accepted

theorem calls_snapshot {r : Round} (hnone : r.snapshot = none) (m : Metrics) (answer : Answer) :
    calls { r with snapshot := some (m, answer) } = r.calls ++ [(.snapshot m, answer)] := by
  simp [calls, deliveries, hnone]

/-- How the deliveries of a round end, where some entries had been delivered before. -/
def delivered (r : Round) (before : Nat) : Outcome Nat :=
  match r.refused with
  | none => .answered (before + r.taken.length)
  | some (d, why) => .failed (.persistence d.entry.id (before + r.taken.length) why)

/-- How a batch ends that took some time for its round. -/
def outcome (r : Round) (elapsed : Nat) : Outcome BatchReport :=
  match r.refused with
  | none => .answered ⟨r.taken.length, elapsed⟩
  | some (d, why) => .failed (.persistence d.entry.id r.taken.length why)

/-- What a round of at most `limit` deliveries does to an open buffer.  The entries that were taken
have left the queue and are counted; one that was refused is at the head again; and where none was
refused, the round went on to its limit or to the end of the queue. -/
structure Effect (r : Round) (limit : Nat) (b b' : Buffer) : Prop where
  isOpen : b'.isOpen = true
  capacity : b'.capacity = b.capacity
  nextId : b'.nextId = b.nextId
  queue : b.queue = r.taken.map Delivery.entry ++ b'.queue
  head : ∀ made ∈ r.refused, b'.queue.head? = some made.1.entry
  complete : r.refused = none → r.taken.length = min limit b.size
  totalIngested : b'.metrics.totalIngested = b.metrics.totalIngested
  totalProcessed : b'.metrics.totalProcessed = b.metrics.totalProcessed + r.taken.length
  totalErrors : b'.metrics.totalErrors = b.metrics.totalErrors + r.errors

/-- What a batch of at most `limit` deliveries does by a round, and how it ends.  A snapshot is handed
over exactly if something was delivered and nothing refused.  It shows the metrics as they stand at
the end of the batch, but for the error that is counted if the snapshot itself is refused. -/
structure Tells (r : Round) (limit : Nat) (b : Buffer)
    (result : Outcome BatchReport × Station σ) : Prop where
  effect : r.Effect limit b result.2.buffer
  outcome : ∃ elapsed, result.1 = r.outcome elapsed
  snapshot_iff : r.snapshot.isSome = true ↔ r.taken ≠ [] ∧ r.refused = none
  shows : ∀ made ∈ r.snapshot, result.2.buffer.metrics =
    { made.1 with totalErrors := made.1.totalErrors + if made.2 = .accepted then 0 else 1 }

namespace Effect

variable {b b₁ b' : Buffer} {r : Round} {d : Delivery} {rest : List Entry} {limit : Nat}

/-- Where nothing could be taken nothing is done. -/
theorem nothing (hopen : b.isOpen = true) (hnone : limit = 0 ∨ b.queue = []) :
    Effect ⟨[], none, none⟩ limit b b where
  isOpen := hopen
  capacity := rfl
  nextId := rfl
  queue := rfl
  head := by simp
  complete := by
    rcases hnone with rfl | hempty
    · simp
    · simp [Buffer.size, hempty]
  totalIngested := rfl
  totalProcessed := rfl
  totalErrors := rfl

/-- The oldest entry is delivered. -/
theorem taken (hopen : b.isOpen = true) (hqueue : b.queue = d.entry :: rest) (now : Int) :
    Effect ⟨[d], none, none⟩ 1 b ((b.withQueue rest).markProcessed d.latency now) where
  isOpen := by simpa using hopen
  capacity := by simp
  nextId := by simp
  queue := by simp [hqueue]
  head := by simp
  complete := by simp [Buffer.size, hqueue]
  totalIngested := by simp
  totalProcessed := Buffer.markProcessed_totalProcessed _ _ _ hopen
  totalErrors := by simp [errors, calls, deliveries]

/-- The oldest entry is refused and goes back to its place. -/
theorem refused (hopen : b.isOpen = true) (hqueue : b.queue = d.entry :: rest) (why : SinkError) :
    Effect ⟨[], some (d, why), none⟩ limit b
      ((b.withQueue rest).countError.withQueue (d.entry :: rest)) where
  isOpen := by simpa using hopen
  capacity := by simp
  nextId := by simp
  queue := by simp [hqueue]
  head := by simp
  complete := by simp
  totalIngested := by simp
  totalProcessed := by simp
  totalErrors := by simp [errors, calls, deliveries]

/-- A delivery that was taken, and a round after it. -/
theorem cons (h : Effect ⟨[d], none, none⟩ 1 b b₁) (hrest : r.Effect limit b₁ b') :
    Effect { r with taken := d :: r.taken } (limit + 1) b b' where
  isOpen := hrest.isOpen
  capacity := hrest.capacity.trans h.capacity
  nextId := hrest.nextId.trans h.nextId
  queue := by
    rw [h.queue, hrest.queue]
    simp
  head := hrest.head
  complete := by
    intro hnone
    have hsize : b.size = b₁.size + 1 := by
      simp [Buffer.size, h.queue]
    have htaken := hrest.complete hnone
    simp only [List.length_cons]
    omega
  totalIngested := hrest.totalIngested.trans h.totalIngested
  totalProcessed := by
    have hfirst := h.totalProcessed
    have hothers := hrest.totalProcessed
    simp only [List.length_cons, List.length_nil] at hfirst ⊢
    omega
  totalErrors := by
    have hfirst := h.totalErrors
    have hothers := hrest.totalErrors
    simp [errors, calls, deliveries] at hfirst hothers ⊢
    omega

/-- A snapshot is handed over after a round, and counts as an error if it is refused. -/
theorem withSnapshot (h : r.Effect limit b b') (hnone : r.snapshot = none) (m : Metrics)
    (answer : Answer) : Effect { r with snapshot := some (m, answer) } limit b
      (if answer = .accepted then b' else b'.countError) where
  isOpen := by split <;> exact h.isOpen
  capacity := by split <;> exact h.capacity
  nextId := by split <;> exact h.nextId
  queue := by split <;> exact h.queue
  head := by split <;> exact h.head
  complete := h.complete
  totalIngested := by split <;> exact h.totalIngested
  totalProcessed := by split <;> exact h.totalProcessed
  totalErrors := by
    have herrors : errors { r with snapshot := some (m, answer) } =
        r.errors + if answer = .accepted then 0 else 1 := by
      rw [errors, calls_snapshot hnone, List.countP_append, List.countP_singleton, ← errors]
      simp
    have htotal := h.totalErrors
    rw [herrors]
    by_cases haccepted : answer = .accepted
    · simpa [haccepted] using htotal
    · simp [haccepted, htotal, Nat.add_assoc]

end Effect

end Round

namespace Station

variable {intrude : Station σ → Intrusion → Station σ} {s s' : Station σ}

/-! ## The loop of deliveries -/

/-- A call to a sink that only answers moves the clocks, and the sink hears of it. -/
theorem callSink_answers (hlapses : Lapses intrude) (h : Sink.Answers P notes note) (call : Call)
    (hs : P s.sink) :
    ∃ clock, s.callSink intrude call =
      ((Sink.ask call s.sink).1, { s with sink := (Sink.ask call s.sink).2, clock }) :=
  callSink_lapse hlapses call (h.waits call hs)

/-- An entry that was taken out is offered: the sink hears of it, and the buffer is left alone. -/
theorem callSink_offered (hlapses : Lapses intrude) (h : Sink.Answers P notes note) (hs : P s.sink)
    {s₁ s₂ : Station σ} {e : Entry} {answer : Answer} (htaken : s.dequeue = (.ok (some e), s₁))
    (hcall : s₁.callSink intrude (.log (s₁.deliveryOf e)) = (answer, s₂)) :
    answer ≠ .stalled ∧ s₂.buffer = s₁.buffer ∧ s₂.storage = s.storage ∧
      Sink.Hears P notes note [(.log (s₁.deliveryOf e), answer)] s.sink s₂.sink := by
  obtain ⟨-, -, hbeside, -, hstorage⟩ := dequeue_taken htaken
  have hs₁ : P s₁.sink := hbeside.sink ▸ hs
  obtain ⟨clock, hend⟩ := callSink_answers hlapses h (.log (s₁.deliveryOf e)) hs₁
  obtain ⟨rfl, rfl⟩ := Prod.mk.inj (hend.symm.trans hcall)
  refine ⟨h.answers _ hs₁, rfl, hstorage, ?_⟩
  rw [← hbeside.sink]
  exact h.hears _ hs₁

/-- A loop of deliveries from an open buffer, for which there is storage, is a round without a
snapshot. -/
theorem Delivers.round (hlapses : Lapses intrude) (h : Sink.Answers P notes note)
    {started limit processed : Nat} {outcome : Outcome Nat}
    (hloop : Delivers intrude started limit processed s outcome s') (hs : P s.sink)
    (hopen : s.buffer.isOpen = true) (hfits : s.buffer.size ≤ s.buffer.capacity)
    (hstorage : s.storage.shortage? = none) :
    ∃ r : Round, r.snapshot = none ∧ r.Effect limit s.buffer s'.buffer ∧
      outcome = r.delivered processed ∧ Sink.Hears P notes note r.calls s.sink s'.sink ∧
      (s.storage = .ample → s'.storage = .ample) := by
  induction hloop with
  | limit => exact ⟨⟨[], none, none⟩, rfl, .nothing hopen (Or.inl rfl), rfl, .refl hs, id⟩
  | closed hclosed =>
      rw [hopen] at hclosed
      cases hclosed
  | empty _ hempty =>
      exact ⟨⟨[], none, none⟩, rfl, .nothing hopen (Or.inr hempty), rfl, .refl hs, id⟩
  | @accepted remaining processed s s₁ s₂ s' e outcome htaken hcall _ ih =>
      obtain ⟨-, ⟨rest, hqueue, hb⟩, -, -⟩ := dequeue_taken htaken
      obtain ⟨-, hsame, hkept, hhears⟩ := callSink_offered hlapses h hs htaken hcall
      let d := s₁.deliveryOf e
      have hsink : (s₂.delivered d).sink = s₂.sink := (s₂.delivered_beside d).sink
      have hone : Round.Effect ⟨[d], none, none⟩ 1 s.buffer (s₂.delivered d).buffer := by
        rw [delivered_buffer, hsame, hb]
        exact Round.Effect.taken hopen hqueue s₂.now
      have hleft : (s₂.delivered d).buffer.size ≤ (s₂.delivered d).buffer.capacity := by
        have hqueue := congrArg List.length hone.queue
        rw [hone.capacity]
        simp [Buffer.size] at hqueue hfits ⊢
        omega
      have hkept' : (s₂.delivered d).storage = s.storage := (s₂.delivered_storage d).trans hkept
      -- the rest of the loop is a round that starts behind this delivery
      obtain ⟨r, hnone, heffect, houtcome, hrest, hend⟩ :=
        ih (hsink ▸ hhears.lasts) hone.isOpen hleft (hkept' ▸ hstorage)
      rw [hsink] at hrest
      refine ⟨{ r with taken := d :: r.taken }, hnone, hone.cons heffect, ?_, hhears.trans hrest,
        hkept' ▸ hend⟩
      rw [houtcome, Round.delivered, Round.delivered, List.length_cons, Nat.add_assoc,
        Nat.add_comm 1]
  | @refused remaining processed s s₁ s₂ s' e why error htaken hcall hrecover =>
      obtain ⟨-, ⟨rest, hqueue, hb⟩, -, -⟩ := dequeue_taken htaken
      obtain ⟨-, hsame, hkept, hhears⟩ := callSink_offered hlapses h hs htaken hcall
      let d := s₁.deliveryOf e
      let counted := s₂.markError.observeBatch started
      have hcounted : counted.buffer = (s.buffer.withQueue rest).countError := by
        show s₂.buffer.markError = _
        rw [hsame, hb]
        exact if_pos hopen
      have hroom : counted.buffer.size < counted.buffer.capacity := by
        simp [Buffer.size, hqueue] at hfits
        simp [hcounted]
        omega
      -- the place of the entry is still free
      have hkept' : counted.storage = s.storage := hkept
      have hback := requeueFront_of_room (by rw [hcounted]; exact hopen) hroom
        (hkept' ▸ hstorage) e
      rw [recover, hback] at hrecover
      obtain ⟨rfl, rfl⟩ := Prod.mk.inj hrecover
      refine ⟨⟨[], some (d, why), none⟩, rfl, ?_, rfl, hhears,
        fun hample => congrArg Storage.rest (hkept'.trans hample)⟩
      show Round.Effect _ _ _ (counted.buffer.withQueue (e :: counted.buffer.queue))
      rw [hcounted]
      exact Round.Effect.refused hopen hqueue why
  | stalled htaken hcall =>
      obtain ⟨hanswered, -⟩ := callSink_offered hlapses h hs htaken hcall
      exact absurd rfl hanswered

/-! ## Batches -/

/-- A snapshot of an open buffer is handed over and answered. -/
theorem persistSnapshot_answers (hlapses : Lapses intrude) (h : Sink.Answers P notes note)
    (hs : P s.sink) (hopen : s.buffer.isOpen = true) :
    ∃ answer t, s.persistSnapshot intrude = (.answered (), t) ∧
      t.buffer = (if answer = .accepted then s.buffer else s.buffer.countError) ∧
      t.storage = s.storage ∧
      Sink.Hears P notes note [(.snapshot s.buffer.metrics, answer)] s.sink t.sink := by
  obtain ⟨clock, hcall⟩ := callSink_answers hlapses h (.snapshot s.buffer.metrics) hs
  have hhears := h.hears (.snapshot s.buffer.metrics) hs
  have hanswered := h.answers (.snapshot s.buffer.metrics) hs
  have hsnapshot : s.buffer.snapshot = .ok s.buffer.metrics := Buffer.read_of_open hopen _
  rw [persistSnapshot, hsnapshot]
  dsimp only
  rw [hcall]
  cases hanswer : (Sink.ask (.snapshot s.buffer.metrics) s.sink).1 with
  | accepted => exact ⟨.accepted, _, rfl, rfl, rfl, hanswer ▸ hhears⟩
  | refused why => exact ⟨.refused why, _, rfl, if_pos hopen, rfl, hanswer ▸ hhears⟩
  | stalled => exact absurd hanswer hanswered

/-- A batch from an open buffer, for which there is storage, is a round. -/
theorem process_round (hlapses : Lapses intrude) (h : Sink.Answers P notes note) (maxItems : Nat)
    (hs : P s.sink) (hopen : s.buffer.isOpen = true) (hfits : s.buffer.size ≤ s.buffer.capacity)
    (hstorage : s.storage.shortage? = none) :
    ∃ r : Round, r.Tells (s.batchLimit maxItems) s.buffer (s.process intrude maxItems) ∧
      Sink.Hears P notes note r.calls s.sink (s.process intrude maxItems).2.sink ∧
      (s.storage = .ample → (s.process intrude maxItems).2.storage = .ample) := by
  have hloop : Delivers intrude s.clock.elapsed (s.batchLimit maxItems) 0 s _ _ :=
    deliver_delivers _ _ _ _
  obtain ⟨r, hnone, heffect, houtcome, hhears, hample⟩ :=
    hloop.round hlapses h hs hopen hfits hstorage
  rcases hdeliver : s.deliver intrude s.clock.elapsed (s.batchLimit maxItems) 0 with ⟨outcome, s₁⟩
  rw [hdeliver] at heffect houtcome hhears hample
  dsimp only at heffect houtcome hhears hample
  cases hrefused : r.refused with
  | some made =>
      -- a refused delivery ends the batch
      have hfailed : outcome = .failed (.persistence made.1.entry.id r.taken.length made.2) := by
        rw [houtcome, Round.delivered, hrefused, Nat.zero_add]
      rw [hfailed] at hdeliver
      rw [process_of_failed hdeliver]
      refine ⟨r, ⟨heffect, ⟨0, ?_⟩, ?_, ?_⟩, hhears, hample⟩
      · rw [Round.outcome, hrefused]
      · simp [hnone, hrefused]
      · simp [hnone]
  | none =>
      have hanswered : outcome = .answered r.taken.length := by
        rw [houtcome, Round.delivered, hrefused, Nat.zero_add]
      rw [hanswered] at hdeliver
      obtain ⟨answer, t, hpersist, hbuffer, hkept, hheard⟩ :=
        persistSnapshot_answers hlapses h hhears.lasts heffect.isOpen
      rcases process_of_answered hdeliver with ⟨hzero, hs'⟩ | ⟨-, hgone, -⟩ | ⟨hpos, -, hs'⟩
      · -- nothing was delivered, and no snapshot follows
        have htaken : r.taken = [] := List.eq_nil_of_length_eq_zero hzero
        rw [hs']
        refine ⟨r, ⟨heffect, ⟨s₁.clock.elapsed - s.clock.elapsed, ?_⟩, ?_, ?_⟩, hhears, hample⟩
        · rw [Round.outcome, hrefused, hzero]
          rfl
        · simp [hnone, htaken]
        · simp [hnone]
      · simp [hpersist] at hgone
      · have htaken : r.taken ≠ [] := List.ne_nil_of_length_pos hpos
        rw [hs', hpersist]
        have hlast := heffect.withSnapshot hnone s₁.buffer.metrics answer
        rw [← hbuffer] at hlast
        refine ⟨_, ⟨hlast, ⟨t.clock.elapsed - s.clock.elapsed, ?_⟩, ?_, ?_⟩, ?_,
          hkept.trans ∘ hample⟩
        · rw [Round.outcome, hrefused]
          rfl
        · simp [htaken, hrefused]
        · intro made hmade
          obtain rfl := Option.some.inj hmade
          show t.buffer.metrics = _
          rw [hbuffer]
          split
          · rfl
          · rfl
        · rw [Round.calls_snapshot hnone]
          exact hhears.trans hheard

end Station

end LogSpool
