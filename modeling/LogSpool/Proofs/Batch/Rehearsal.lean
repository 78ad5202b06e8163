import LogSpool.Proofs.Session.Succession

/-!
# Rehearsals

This module says beforehand what a sink is going to answer.  Where a sink is left alone with a list of
entries its answers, and the times at which it is asked, depend on nothing but its state and the clocks.
A loop of deliveries asks for the same entries at the same times, and stops at the first that is not
taken.

* `Disturbance.lapse`, `callSink_wait` — how the clocks move while a sink is called that only waits.
* `Sink.rehearse` — the deliveries of some entries, one after the other, with the answers of the sink.
* `untilFailure` — the part of a list of deliveries that is made where the first failure ends it.
* `Delivers.rehearsed`, `process_rehearsed` — the calls of a loop of deliveries and of a batch.
-/

namespace LogSpool

variable {σ τ : Type}

/-! ## How clocks move -/

/-- How the clocks move when a sink waits. -/
def Intrusion.lapse (clock : Clock) : Intrusion → Clock
  | .wait micros => clock.advance micros
  | .setWall ms => clock.setWall ms
  | _ => clock

/-- How the clocks move while a call is pending in which a sink only waits. -/
def Disturbance.lapse (d : Disturbance) (clock : Clock) : Clock :=
  d.intrusions.foldl Intrusion.lapse
    (match d.wall with
      | .none => clock.advance d.elapsed
      | .some ms => (clock.advance d.elapsed).setWall ms)

namespace Station

theorem foldl_wait {intrusions : List Intrusion} (hwaits : ∀ i ∈ intrusions, i.isWait = true)
    (s : Station σ) :
    intrusions.foldl intrude s = { s with clock := intrusions.foldl Intrusion.lapse s.clock } := by
  induction intrusions generalizing s with
  | nil => rfl
  | cons i intrusions ih =>
      have hfirst : s.intrude i = { s with clock := Intrusion.lapse s.clock i } := by
        have hi := hwaits i List.mem_cons_self
        cases i with
        | wait micros => rfl
        | setWall ms => rfl
        | _ => cases hi
      rw [List.foldl_cons, List.foldl_cons, hfirst,
        ih fun j hj => hwaits j (List.mem_cons_of_mem i hj)]

/-- A call to a sink that only waits, with the time that it takes. -/
theorem callSink_wait [Sink σ] {s : Station σ} {call : Call}
    (hwaits : ∀ i ∈ (Sink.receive call s.sink).1.intrusions, i.isWait = true) :
    s.callSink intrude call =
      ((Sink.ask call s.sink).1,
        { s with
          sink := (Sink.ask call s.sink).2
          clock := (Sink.receive call s.sink).1.lapse s.clock }) := by
  unfold callSink
  dsimp only
  rw [foldl_wait hwaits]
  rfl

end Station

/-! ## Rehearsals -/

/-- The deliveries of some entries one after the other, from the time that a clock shows, with the
answers that a sink gives to them if nobody else does anything. -/
def Sink.rehearse [Sink σ] : Clock → σ → List Entry → List (Delivery × Answer)
  | _, _, [] => []
  | clock, x, e :: later =>
    let d := e.deliveryAt clock.now
    (d, (Sink.ask (.log d) x).1) ::
      rehearse ((Sink.receive (.log d) x).1.lapse clock) (Sink.ask (.log d) x).2 later

namespace Sink

variable [Sink σ] [Sink τ]

/-- The entries of a rehearsal are those that were asked for, in their order. -/
theorem rehearse_entries (clock : Clock) (x : σ) (entries : List Entry) :
    (rehearse clock x entries).map (·.1.entry) = entries := by
  induction entries generalizing clock x with
  | nil => rfl
  | cons e later ih => rw [rehearse, List.map_cons, ih, Entry.deliveryAt_entry]

/-- A sink under which deliveries look the same gives the same answers. -/
theorem rehearse_map {g : σ → τ} (hg : ∀ d, Sink.Preserves g (.log d)) (clock : Clock) (x : σ)
    (entries : List Entry) : rehearse clock (g x) entries = rehearse clock x entries := by
  induction entries generalizing clock x with
  | nil => rfl
  | cons e later ih =>
      have hask : ask (.log (e.deliveryAt clock.now)) (g x) =
          ((ask (.log (e.deliveryAt clock.now)) x).1,
            g (ask (.log (e.deliveryAt clock.now)) x).2) := by
        rw [ask, (hg _).receive, (hg _).settle]
        rfl
      simp only [rehearse, hask, (hg _).receive, ih]

end Sink

/-- The deliveries that are made where the first that is not accepted is the last. -/
def untilFailure : List (Delivery × Answer) → List (Delivery × Answer)
  | [] => []
  | made :: later => made :: if made.2 = .accepted then untilFailure later else []

theorem untilFailure_of_accepted {made : List (Delivery × Answer)}
    (h : ∀ one ∈ made, one.2 = .accepted) : untilFailure made = made := by
  induction made with
  | nil => rfl
  | cons one later ih =>
      rw [untilFailure, if_pos (h one List.mem_cons_self),
        ih fun other hother => h other (List.mem_cons_of_mem one hother)]

theorem untilFailure_of_failure {made : List (Delivery × Answer)} {k : Nat}
    {one : Delivery × Answer} (hbefore : ∀ other ∈ made.take k, other.2 = .accepted)
    (hone : made[k]? = some one) (hfails : one.2 ≠ .accepted) :
    untilFailure made = made.take k ++ [one] := by
  induction made generalizing k with
  | nil => simp at hone
  | cons first later ih =>
      cases k with
      | zero =>
          obtain rfl : first = one := by simpa using hone
          rw [untilFailure, if_neg hfails]
          rfl
      | succ k =>
          rw [List.take_succ_cons] at hbefore ⊢
          rw [untilFailure, if_pos (hbefore first List.mem_cons_self),
            ih (fun other hother => hbefore other (List.mem_cons_of_mem first hother))
              (by simpa using hone), List.cons_append]

theorem untilFailure_isPrefix (made : List (Delivery × Answer)) : untilFailure made <+: made := by
  induction made with
  | nil => exact List.prefix_rfl
  | cons one later ih =>
      rw [untilFailure]
      split
      · exact (List.prefix_cons_inj one).2 ih
      · exact (List.prefix_cons_inj one).2 List.nil_prefix

theorem head?_untilFailure (made : List (Delivery × Answer)) :
    (untilFailure made).head? = made.head? := by
  cases made <;> rfl

/-- If no failure has ended it, all of it is accepted. -/
theorem accepted_of_untilFailure {made : List (Delivery × Answer)}
    (h : ∀ one ∈ untilFailure made, one.2 = .accepted) : ∀ one ∈ made, one.2 = .accepted := by
  induction made with
  | nil => exact h
  | cons one later ih =>
      rw [untilFailure] at h
      have hfirst : one.2 = .accepted := h one List.mem_cons_self
      rw [if_pos hfirst] at h
      have hlater := ih fun other hother => h other (List.mem_cons_of_mem one hother)
      intro other hother
      rcases List.mem_cons.1 hother with rfl | hother
      · exact hfirst
      · exact hlater other hother

/-! ## Loops and batches -/

namespace Station

variable [Sink σ] {P : σ → Prop} {notes : σ → List (Call × Answer)} {s s' : Station σ}

/-- The call for the oldest entry is the first of a rehearsal, and it takes the time that the sink
waits. -/
theorem callSink_rehearsed (h : Sink.Answers P notes id) (hs : P s.sink) {s₁ s₂ : Station σ}
    {e : Entry} {answer : Answer} (htaken : s.dequeue = (.ok (some e), s₁))
    (hcall : s₁.callSink intrude (.log (s₁.deliveryOf e)) = (answer, s₂)) :
    s₁.deliveryOf e = e.deliveryAt s.clock.now ∧
      answer = (Sink.ask (.log (e.deliveryAt s.clock.now)) s.sink).1 ∧
      s₂ = { s₁ with
        sink := (Sink.ask (.log (e.deliveryAt s.clock.now)) s.sink).2
        clock := (Sink.receive (.log (e.deliveryAt s.clock.now)) s.sink).1.lapse s.clock } := by
  obtain ⟨-, -, hbeside, hclock, -⟩ := dequeue_taken htaken
  have hdelivery : s₁.deliveryOf e = e.deliveryAt s.clock.now := by
    rw [deliveryOf, now, hclock]
    rfl
  rw [hdelivery, callSink_wait (by rw [hbeside.sink]; exact h.waits _ hs), hbeside.sink,
    hclock] at hcall
  obtain ⟨rfl, rfl⟩ := Prod.mk.inj hcall
  exact ⟨hdelivery, rfl, rfl⟩

/-- A loop of deliveries makes the calls that a rehearsal tells, up to the first failure. -/
theorem Delivers.rehearsed (h : Sink.Answers P notes id) {started remaining processed : Nat}
    {outcome : Outcome Nat} (hloop : Delivers intrude started remaining processed s outcome s')
    (hs : P s.sink) (hopen : s.buffer.isOpen = true) :
    notes s'.sink = notes s.sink ++
      callsOf (untilFailure (Sink.rehearse s.clock s.sink (s.buffer.queue.take remaining))) := by
  induction hloop with
  | limit => simp [Sink.rehearse, untilFailure, callsOf]
  | closed hclosed =>
      rw [hopen] at hclosed
      cases hclosed
  | empty _ hempty => simp [hempty, Sink.rehearse, untilFailure, callsOf]
  | @accepted remaining processed s s₁ s₂ s' e outcome htaken hcall _ ih =>
      obtain ⟨-, ⟨rest, hqueue, hb⟩, -, -⟩ := dequeue_taken htaken
      obtain ⟨hdelivery, haccepted, rfl⟩ := callSink_rehearsed h hs htaken hcall
      rw [hdelivery] at ih
      have hlater := ih
        (by rw [(delivered_beside _ _).sink]; exact h.lasts _ hs)
        (by rw [delivered_buffer, Buffer.markProcessed_isOpen, hb]; exact hopen)
      rw [(delivered_beside _ _).sink, delivered_clock, delivered_buffer,
        Buffer.markProcessed_queue, hb] at hlater
      have hfirst := h.notes (.log (e.deliveryAt s.clock.now)) hs
      rw [← haccepted] at hfirst
      rw [hlater, hqueue, List.take_succ_cons, Sink.rehearse, untilFailure, ← haccepted,
        if_pos rfl]
      dsimp only at hfirst ⊢
      rw [hfirst, List.append_assoc]
      rfl
  | @refused remaining processed s s₁ s₂ s' e why error htaken hcall hrecover =>
      obtain ⟨-, ⟨rest, hqueue, -⟩, -, -⟩ := dequeue_taken htaken
      obtain ⟨-, hrefused, hended⟩ := callSink_rehearsed h hs htaken hcall
      have haside := (s₂.markError.observeBatch started).recover_aside e processed why
      rw [hrecover] at haside
      have hsink : s'.sink = (Sink.ask (.log (e.deliveryAt s.clock.now)) s.sink).2 := by
        rw [haside.sink]
        exact congrArg Station.sink hended
      rw [hsink, h.notes _ hs, hqueue, List.take_succ_cons, Sink.rehearse, untilFailure, ← hrefused]
      rfl
  | stalled htaken hcall =>
      obtain ⟨-, hstalled, -⟩ := callSink_rehearsed h hs htaken hcall
      exact absurd hstalled.symm (h.answers _ hs)

/-- A batch makes the calls that a rehearsal tells, up to the first failure, and no delivery after
that. -/
theorem process_rehearsed (h : Sink.Answers P notes id) (maxItems : Nat) (hs : P s.sink)
    (hopen : s.buffer.isOpen = true) (hfits : s.buffer.size ≤ s.buffer.capacity)
    (hstorage : s.storage.shortage? = none) :
    ∃ shown, deliveriesOf shown = [] ∧
      notes (s.process intrude maxItems).2.sink = notes s.sink ++
        callsOf (untilFailure (Sink.rehearse s.clock s.sink
          (s.buffer.queue.take (s.batchLimit maxItems)))) ++ shown := by
  rcases hend : s.deliver intrude s.clock.elapsed (s.batchLimit maxItems) 0 with ⟨outcome, t⟩
  have hloop := delivers_of_deliver hend
  have hmade := hloop.rehearsed h hs hopen
  obtain ⟨r, -, heffect, -, hhears, -⟩ := hloop.round intrude_lapses h hs hopen hfits hstorage
  cases outcome with
  | failed why =>
      rw [process_of_failed hend, hmade]
      exact ⟨[], rfl, (List.append_nil _).symm⟩
  | abandoned =>
      rw [process_of_abandoned hend, hmade]
      exact ⟨[], rfl, (List.append_nil _).symm⟩
  | answered n =>
      obtain ⟨answer, t', hpersist, -, -, hheard⟩ :=
        persistSnapshot_answers intrude_lapses h hhears.lasts heffect.isOpen
      rcases process_of_answered hend with ⟨-, hs'⟩ | ⟨-, hgone, -⟩ | ⟨-, -, hs'⟩
      · rw [hs', ← hmade]
        exact ⟨[], rfl, (List.append_nil _).symm⟩
      · simp [hpersist] at hgone
      · rw [hs', hpersist, ← hmade]
        exact ⟨[(.snapshot t.buffer.metrics, answer)], rfl, hheard.notes⟩

end Station

end LogSpool
