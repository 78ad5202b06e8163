import LogSpool.Proofs.Batch.Attempt
import LogSpool.Proofs.Batch.Effect
import LogSpool.Proofs.Session.Image
import LogSpool.Proofs.Station.Move

/-!
# Batches that are given up

This module follows a batch whose caller gives up while a call to the sink is pending.  Wherever that
happens, the deliveries that were accepted before stay made, and the one that is pending, if it is one,
comes to nothing.  So the buffer is the one that a shorter batch would have left.

* `Advanced` — a number of deliveries that are all accepted, one after the other.
* `Delivers.advances` — how far a loop of deliveries gets, and what is pending where it is given up.
* `process_given_up` — the same of a batch, in which the snapshot may be pending too.
* `Resumes`, `process_resumed` — what a batch after that does, over a new sink that answers.
* `cancelled_batch_is_shorter` — a batch that is given up anywhere is one for fewer entries.
-/

namespace LogSpool

/-- A trace tells the deliveries that are among its calls. -/
theorem deliveriesIn_eq (trace : List Moment) : deliveriesIn trace = deliveriesOf (callsIn trace) := by
  induction trace with
  | nil => rfl
  | cons m later ih =>
      have hfirst : m.delivery = deliveriesOf m.call := by
        cases m with
        | ended call answer => exact (List.append_nil _).symm
        | _ => rfl
      have hcons : callsIn (m :: later) = m.call ++ callsIn later := rfl
      rw [hcons, deliveriesOf_append, ← hfirst, ← ih]
      rfl

namespace Station

variable {σ : Type} [Sink σ] {P : σ → Prop} {s t s' : Station (Traced σ)}

/-- A call to a sink that only waits leaves the buffer and the storage alone and is noted. -/
theorem callSink_noted (hP : Sink.Confined (fun i => i.isWait = true) P) (hs : P s.sink.inner)
    {call : Call} {answer : Answer} (hcall : s.callSink intrude call = (answer, t)) :
    t.buffer = s.buffer ∧ t.storage = s.storage ∧ P t.sink.inner ∧
      callsIn t.sink.trace = callsIn s.sink.trace ++ [(call, answer)] := by
  have hwaits : ∀ i ∈ (Sink.receive call s.sink).1.intrusions, i.isWait = true :=
    hP.intrusions call hs
  rw [callSink_wait hwaits] at hcall
  obtain ⟨rfl, rfl⟩ := Prod.mk.inj hcall
  exact ⟨rfl, rfl, hP.settle call (hP.receive call hs), Traced.callsIn_settle call s.sink⟩

/-- The same of the call for an entry that was taken out. -/
theorem callSink_log_noted (hP : Sink.Confined (fun i => i.isWait = true) P) (hs : P s.sink.inner)
    {s₁ s₂ : Station (Traced σ)} {e : Entry} {answer : Answer}
    (htaken : s.dequeue = (.ok (some e), s₁))
    (hcall : s₁.callSink intrude (.log (s₁.deliveryOf e)) = (answer, s₂)) :
    ∃ rest, s.buffer.queue = e :: rest ∧ s₂.buffer = s.buffer.withQueue rest ∧
      s₂.storage = s.storage ∧ P s₂.sink.inner ∧
      callsIn s₂.sink.trace =
        callsIn s.sink.trace ++ [(.log (s₁.deliveryOf e), answer)] := by
  obtain ⟨-, ⟨rest, hqueue, hb⟩, hbeside, -, hkept⟩ := dequeue_taken htaken
  obtain ⟨hbuffer, hstorage, hsink, hcalls⟩ :=
    callSink_noted hP (by rw [hbeside.sink]; exact hs) hcall
  rw [hbeside.sink] at hcalls
  exact ⟨rest, hqueue, hbuffer.trans hb, hstorage.trans hkept, hsink, hcalls⟩

/-- Some deliveries were accepted, one after the other, and nothing else has happened but that time has
passed.  Nobody has asked for storage. -/
structure Advanced (P : σ → Prop) (s : Station (Traced σ)) (taken : List Delivery)
    (t : Station (Traced σ)) : Prop where
  loop : ∀ started processed, s.deliver intrude started taken.length processed =
    (.answered (processed + taken.length), t)
  queue : s.buffer.queue = taken.map Delivery.entry ++ t.buffer.queue
  isOpen : t.buffer.isOpen = true
  gauged : t.buffer.Gauged
  storage : t.storage = s.storage
  sink : P t.sink.inner
  calls : callsIn t.sink.trace = callsIn s.sink.trace ++ callsOf (taken.map (·, .accepted))

namespace Advanced

variable {taken : List Delivery}

theorem refl (hs : P s.sink.inner) (hopen : s.buffer.isOpen = true) (hgauged : s.buffer.Gauged) :
    Advanced P s [] s where
  loop _ _ := rfl
  queue := rfl
  isOpen := hopen
  gauged := hgauged
  storage := rfl
  sink := hs
  calls := (List.append_nil _).symm

/-- The entries that were delivered are those at the head of the queue, and the others are left. -/
theorem cut (h : Advanced P s taken t) :
    taken.map Delivery.entry = s.buffer.queue.take taken.length ∧
      t.buffer.queue = s.buffer.queue.drop taken.length := by
  have hlength : taken.length = (taken.map Delivery.entry).length := by simp
  rw [h.queue, hlength]
  exact ⟨List.take_left.symm, List.drop_left.symm⟩

/-- One delivery that is accepted, and the others. -/
theorem cons {s₁ s₂ : Station (Traced σ)} {e : Entry}
    (hP : Sink.Confined (fun i => i.isWait = true) P) (hs : P s.sink.inner)
    (htaken : s.dequeue = (.ok (some e), s₁))
    (hcall : s₁.callSink intrude (.log (s₁.deliveryOf e)) = (.accepted, s₂))
    (hrest : Advanced P (s₂.delivered (s₁.deliveryOf e)) taken t) :
    Advanced P s (s₁.deliveryOf e :: taken) t := by
  obtain ⟨rest, hqueue, hbuffer, hkept, -, hcalls⟩ := callSink_log_noted hP hs htaken hcall
  have hnext := hrest.queue
  rw [delivered_buffer, Buffer.markProcessed_queue, hbuffer] at hnext
  have hlater := hrest.calls
  rw [(delivered_beside _ _).sink, hcalls] at hlater
  exact
    { loop := by
        intro started processed
        rw [List.length_cons, deliver, htaken]
        simp only [hcall]
        rw [hrest.loop, Nat.add_assoc, Nat.add_comm 1]
      queue := by
        rw [hqueue, List.map_cons, List.cons_append]
        exact congrArg (e :: ·) hnext
      isOpen := hrest.isOpen
      gauged := hrest.gauged
      storage := hrest.storage.trans ((delivered_storage _ _).trans hkept)
      sink := hrest.sink
      calls := by
        rw [hlater, List.append_assoc]
        rfl }

end Advanced

/-- How far a loop of deliveries gets.  It is answered where the last accepted delivery has left the
station; or an entry is refused; or it is given up while the next entry is pending, and then that entry
is back, for which there was storage. -/
theorem Delivers.advances (hP : Sink.Confined (fun i => i.isWait = true) P)
    {started remaining processed : Nat} {outcome : Outcome Nat}
    (hloop : Delivers intrude started remaining processed s outcome s') (hs : P s.sink.inner)
    (hopen : s.buffer.isOpen = true) (hgauged : s.buffer.Gauged)
    (hstorage : s.storage.shortage? = none) :
    ∃ taken t, Advanced P s taken t ∧
      ((outcome = .answered (processed + taken.length) ∧ s' = t) ∨
        (∃ why, outcome = .failed why) ∨
        ∃ d, outcome = .abandoned ∧ taken.length < remaining ∧ t.buffer.queue.head? = some d.entry ∧
          s'.buffer = t.buffer ∧ s'.storage = t.storage.rest ∧
          callsIn s'.sink.trace = callsIn t.sink.trace ++ [(.log d, .stalled)]) := by
  induction hloop with
  | limit => exact ⟨[], _, .refl hs hopen hgauged, Or.inl ⟨rfl, rfl⟩⟩
  | closed hclosed =>
      rw [hopen] at hclosed
      cases hclosed
  | empty _ _ => exact ⟨[], _, .refl hs hopen hgauged, Or.inl ⟨rfl, rfl⟩⟩
  | @accepted remaining processed s s₁ s₂ s' e outcome htaken hcall _ ih =>
      obtain ⟨rest, hqueue, hbuffer, hkept, hsink, -⟩ := callSink_log_noted hP hs htaken hcall
      let d := s₁.deliveryOf e
      have hopen' : (s₂.delivered d).buffer.isOpen = true := by
        rw [delivered_buffer, Buffer.markProcessed_isOpen, hbuffer]
        exact hopen
      have hgauged' : (s₂.delivered d).buffer.Gauged := by
        rw [delivered_buffer, hbuffer]
        exact (hgauged.taken hopen hqueue).markProcessed d.latency
      obtain ⟨taken, t, hrest, hend⟩ :=
        ih (by rw [(delivered_beside _ _).sink]; exact hsink) hopen' hgauged'
          (by rw [delivered_storage, hkept]; exact hstorage)
      refine ⟨d :: taken, t, hrest.cons hP hs htaken hcall, ?_⟩
      rcases hend with ⟨houtcome, ht⟩ | hfailed | ⟨d', houtcome, hbelow, hpending⟩
      · exact Or.inl ⟨by rw [houtcome, List.length_cons, Nat.add_assoc, Nat.add_comm 1], ht⟩
      · exact Or.inr (Or.inl hfailed)
      · exact Or.inr (Or.inr ⟨d', houtcome, Nat.succ_lt_succ hbelow, hpending⟩)
  | refused _ _ _ => exact ⟨[], _, .refl hs hopen hgauged, Or.inr (Or.inl ⟨_, rfl⟩)⟩
  | @stalled remaining processed s s₁ s₂ e htaken hcall =>
      obtain ⟨rest, hqueue, hbuffer, hkept, -, hcalls⟩ := callSink_log_noted hP hs htaken hcall
      have hstorage' : s₂.storage.shortage? = none := hkept ▸ hstorage
      have hroom : s₂.buffer.size < s₂.buffer.capacity := by
        have hbounded := hgauged.bounded
        rw [hbuffer]
        simp [Buffer.size, hqueue] at hbounded ⊢
        omega
      have hback : (s₂.abandon e).buffer = s.buffer := by
        rw [abandon_of_room (by rw [hbuffer]; exact hopen) hroom hstorage', hbuffer]
        have hself := hgauged.withQueue_queue
        rw [hqueue] at hself
        exact hself
      refine ⟨[], s, .refl hs hopen hgauged,
        Or.inr (Or.inr ⟨s₁.deliveryOf e, rfl, ?_, ?_, hback, ?_, ?_⟩)⟩
      · exact Nat.succ_pos remaining
      · rw [hqueue]
        rfl
      · rw [abandon, requeueFront_of_room (by rw [hbuffer]; exact hopen) hroom hstorage']
        exact congrArg Storage.rest hkept
      · rw [(s₂.abandon_aside e).sink]
        exact hcalls

/-- Where a batch is given up: the next entry is pending, or the snapshot is.  Storage was asked for
once at most. -/
theorem process_given_up (hP : Sink.Confined (fun i => i.isWait = true) P) (hs : P s.sink.inner)
    (hopen : s.buffer.isOpen = true) (hgauged : s.buffer.Gauged)
    (hstorage : s.storage.shortage? = none) {maxItems : Nat}
    (h : s.process intrude maxItems = (.abandoned, s')) :
    ∃ taken t pending, Advanced P s taken t ∧ s'.buffer = t.buffer ∧
      (s'.storage = s.storage ∨ s'.storage = s.storage.rest) ∧
      callsIn s'.sink.trace = callsIn t.sink.trace ++ [(pending, .stalled)] ∧
      ((∃ d, pending = .log d ∧ taken.length < s.batchLimit maxItems ∧
          t.buffer.queue.head? = some d.entry) ∨
        pending = .snapshot t.buffer.metrics ∧ 0 < taken.length) := by
  rcases hend : s.deliver intrude s.clock.elapsed (s.batchLimit maxItems) 0 with ⟨outcome, s₁⟩
  have hloop := delivers_of_deliver hend
  obtain ⟨taken, t, hadvanced,
      ⟨rfl, rfl⟩ | ⟨why, rfl⟩ | ⟨d, rfl, hbelow, hhead, hbuffer, hrest, hcalls⟩⟩ :=
    hloop.advances hP hs hopen hgauged hstorage
  · rw [Nat.zero_add] at hend
    rcases process_of_answered hend with ⟨-, hs'⟩ | ⟨hpos, hgone, hs'⟩ | ⟨-, -, hs'⟩ <;> rw [hs'] at h
    · cases h
    · -- the deliveries were made, and the snapshot is pending
      obtain ⟨-, rfl⟩ := Prod.mk.inj h
      have hsnapshot : s₁.buffer.snapshot = .ok s₁.buffer.metrics :=
        Buffer.read_of_open hadvanced.isOpen _
      rcases hcall : s₁.callSink intrude (.snapshot s₁.buffer.metrics) with ⟨answer, s₂⟩
      obtain ⟨hbuffer, hkept, -, hcalls⟩ := callSink_noted hP hadvanced.sink hcall
      unfold persistSnapshot at hgone ⊢
      rw [hsnapshot] at hgone ⊢
      dsimp only at hgone ⊢
      rw [hcall] at hgone ⊢
      cases answer with
      | stalled =>
          exact ⟨taken, s₁, _, hadvanced, hbuffer, Or.inl (hkept.trans hadvanced.storage), hcalls,
            Or.inr ⟨rfl, hpos⟩⟩
      | accepted => cases hgone
      | refused why => cases hgone
    · cases h
  · rw [process_of_failed hend] at h
    cases h
  · rw [process_of_abandoned hend] at h
    obtain ⟨-, rfl⟩ := Prod.mk.inj h
    exact ⟨taken, t, _, hadvanced, hbuffer, Or.inr (hadvanced.storage ▸ hrest), hcalls,
      Or.inl ⟨d, rfl, hbelow, hhead⟩⟩

/-! ## Batches afterwards -/

variable {τ : Type} [Sink τ] {Q : τ → Prop}

/-- Another sink takes the place of the old one, and the clocks show another time. -/
def resumed (s : Station σ) (y : τ) (clock : Clock) : Station (Traced τ) :=
  (s.map fun _ => Traced.ofSink y).moveClock fun _ => clock

/-- What a batch over a new sink does: it offers what the queue holds, from its head on, and if all of
that is accepted it takes as much as it may. -/
structure Resumes (queue : List Entry) (limit : Nat) (trace : List Moment) : Prop where
  prefixed : (deliveriesIn trace).map (·.1.entry) <+: queue
  first : 0 < limit → ((deliveriesIn trace).map (·.1.entry)).head? = queue.head?
  all : (∀ made ∈ deliveriesIn trace, made.2 = .accepted) → takenIn trace = queue.take limit

omit [Sink σ] in
/-- A batch over a new sink that answers goes on where the queue begins. -/
theorem process_resumed (hQ : Sink.Answering Q) {y : τ} (hy : Q y)
    (hopen : s.buffer.isOpen = true) (hfits : s.buffer.size ≤ s.buffer.capacity)
    (hstorage : s.storage.shortage? = none) (clock : Clock) (maxItems : Nat) :
    Resumes s.buffer.queue (s.batchLimit maxItems)
      ((s.resumed y clock).process intrude maxItems).2.sink.trace := by
  let next := (s.resumed y clock).process intrude maxItems
  let offers := Sink.rehearse clock y (s.buffer.queue.take (s.batchLimit maxItems))
  have hentries : offers.map (·.1.entry) = s.buffer.queue.take (s.batchLimit maxItems) :=
    Sink.rehearse_entries _ _ _
  obtain ⟨r, -, hcalls, hoffers⟩ :=
    process_deliveries (s := s.resumed y clock) hQ maxItems hy hopen hfits hstorage
  have hmade : deliveriesIn next.2.sink.trace = untilFailure offers := by
    rw [deliveriesIn_eq, hcalls, deliveriesOf_append, r.deliveriesOf_calls, hoffers]
    rfl
  refine ⟨?_, ?_, ?_⟩
  · rw [hmade]
    have hpart := (untilFailure_isPrefix offers).map (·.1.entry)
    rw [hentries] at hpart
    exact hpart.trans <| List.take_prefix _ _
  · intro hpos
    rw [hmade, List.head?_map, head?_untilFailure, ← List.head?_map, hentries, List.head?_take,
      if_neg (Nat.ne_of_gt hpos)]
  · intro haccepted
    rw [hmade] at haccepted
    have hall := accepted_of_untilFailure haccepted
    rw [takenIn, hmade, untilFailure_of_accepted hall, takenOf_of_accepted hall, hentries]

end Station

/-! ## Cancelled batches -/

section

variable {σ τ : Type} [Sink σ] [Sink τ] {P : σ → Prop} {Q : τ → Prop}

open Station

/-- A batch that is given up is one that was asked for less.  The sink only lets time pass while it is
called, there is storage for the entry that goes back and for one more, and the batch is given up while
a call is pending: for an entry, or for the snapshot.  Before
that it has delivered some entries from the head of the queue, each of which was accepted.  Then the
buffer is the one that the loop of deliveries leaves after exactly these entries.  So it is the one from
before if there are none, and otherwise the one that a batch for just as many leaves where the snapshot
is accepted.  A batch after that, over any sink that answers, goes on with the entries that are left, of
which the interrupted one is the first. -/
theorem cancelled_batch_is_shorter (hP : Sink.Confined (fun i => i.isWait = true) P)
    (hQ : Sink.Answering Q) {s : Station (Traced σ)} (hs : P s.sink.inner)
    (hopen : s.buffer.isOpen = true) (hgauged : s.buffer.Gauged)
    (hstorage : s.storage.shortage? = none) (hlater : s.storage.rest.shortage? = none)
    {maxItems : Nat} (hgone : (s.process Station.intrude maxItems).1 = .abandoned) :
    let ended := (s.process Station.intrude maxItems).2
    ∃ taken pending,
      callsIn ended.sink.trace = callsIn s.sink.trace ++
        callsOf (taken.map (·, .accepted)) ++ [(pending, .stalled)] ∧
      taken.map Delivery.entry = s.buffer.queue.take taken.length ∧
      ((∃ d, pending = .log d ∧ taken.length < s.batchLimit maxItems ∧
          s.buffer.queue[taken.length]? = some d.entry) ∨
        pending = .snapshot ended.buffer.metrics ∧ 0 < taken.length) ∧
      ended.buffer.queue = s.buffer.queue.drop taken.length ∧
      (∃ t, s.deliver Station.intrude s.clock.elapsed taken.length 0 =
          (.answered taken.length, t) ∧ ended.buffer = t.buffer) ∧
      (taken = [] → ended.buffer = s.buffer) ∧
      (0 < taken.length → ∃ elapsed u,
        (s.map Obliging.mk).process Station.intrude taken.length =
            (.answered ⟨taken.length, elapsed⟩, u) ∧ ended.buffer = u.buffer) ∧
      ∀ y, Q y → ∀ clock n, Resumes (s.buffer.queue.drop taken.length) (s.batchLimit n)
        ((ended.resumed y clock).process Station.intrude n).2.sink.trace := by
  intro ended
  obtain ⟨taken, t, pending, hadvanced, hbuffer, hkept, hcalls, hpending⟩ :=
    process_given_up hP hs hopen hgauged hstorage (Prod.ext hgone rfl)
  have hbuffer : ended.buffer = t.buffer := hbuffer
  -- the loop of the shorter batch ends at `t`
  have hloop : s.deliver Station.intrude s.clock.elapsed taken.length 0 =
      (.answered taken.length, t) := by
    rw [hadvanced.loop, Nat.zero_add]
  obtain ⟨htaken, hrest⟩ := hadvanced.cut
  have hqueue : ended.buffer.queue = s.buffer.queue.drop taken.length := by
    rw [hbuffer, hrest]
  refine ⟨taken, pending, ?_, htaken, ?_, hqueue, ⟨t, hloop, hbuffer⟩, ?_, ?_, ?_⟩
  · rw [← hadvanced.calls]
    exact hcalls
  · rcases hpending with ⟨d, rfl, hbelow, hhead⟩ | ⟨rfl, hpos⟩
    · refine Or.inl ⟨d, rfl, hbelow, ?_⟩
      rw [← hhead, ← hbuffer, hqueue, List.head?_drop]
    · exact Or.inr ⟨by rw [hbuffer], hpos⟩
  · rintro rfl
    have hsame := hloop
    rw [List.length_nil, deliver] at hsame
    rw [hbuffer, ← (Prod.mk.inj hsame).2]
  · intro hpos
    -- in front of the same sink every snapshot is accepted
    have hfront : (s.map Obliging.mk).deliver Station.intrude (s.map Obliging.mk).clock.elapsed
        taken.length 0 = (.answered taken.length, t.map Obliging.mk) := by
      have hsame := deliver_map_of_preserves s (Obliging.preserves_log (σ := Traced σ))
        (sameIntrusions_intrude _) s.clock.elapsed taken.length 0
      rw [hloop] at hsame
      exact hsame
    obtain ⟨elapsed, u, hprocess, halike⟩ := process_obliging Obliging.obliges hpos hfront
    exact ⟨elapsed, u, hprocess, hbuffer.trans halike.buffer.symm⟩
  · intro y hy clock n
    have hlimit : ended.batchLimit n = s.batchLimit n := by
      have hbatch := (process_moves maxItems (intrude_onlyErrands s.busy)).defaultBatch
      rw [batchLimit, batchLimit, ← hbatch]
    have hopen' : ended.buffer.isOpen = true := by
      rw [hbuffer]
      exact hadvanced.isOpen
    have hfits : ended.buffer.size ≤ ended.buffer.capacity := by
      rw [hbuffer]
      exact hadvanced.gauged.bounded
    have hstorage' : ended.storage.shortage? = none := by
      rcases hkept with hsame | hrest
      · exact (congrArg Storage.shortage? hsame).trans hstorage
      · exact (congrArg Storage.shortage? hrest).trans hlater
    rw [← hqueue, ← hlimit]
    exact process_resumed hQ hy hopen' hfits hstorage' clock n

/-- Three entries in the queue, of which the second is pending when the batch is given up: it is at the
head again, and the next batch takes it first. -/
theorem cancelled_batch_is_shorter_of_second_stall :
    let fields : Fields := ⟨"INFO", "app", "a"⟩
    let script : List Action := [⟨⟨5000, none, [.wait 7000]⟩, .passOn⟩, ⟨.none, .stall⟩]
    let sink : Scripted MemorySink :=
      { Scripted.ofSink (MemorySink.withRetention 8) with logs := script }
    let steady : Scripted MemorySink := Scripted.ofSink (MemorySink.withRetention 8)
    ∃ buffer, Buffer.create 4 0 = .ok buffer ∧
      let s := ((Station.around buffer (Traced.ofSink sink) ⟨0, 0⟩ 1).enqueue fields).2
      let s := ((s.enqueue fields).2.enqueue fields).2
      let ended := (s.process Station.intrude 3).2
      (s.process Station.intrude 3).1 = .abandoned ∧
        ended.buffer.queue.map Entry.id = [2, 3] ∧
        (takenIn ((ended.resumed steady ⟨20, 0⟩).process Station.intrude 0).2.sink.trace).map
          Entry.id = [2] := by
  intro fields script sink steady
  have hb : Buffer.create 4 0 = .ok _ := rfl
  refine ⟨_, hb, ?_⟩
  intro s s' ended
  have hgone : (s'.process Station.intrude 3).1 = .abandoned := by
    dsimp only [s', s, sink, script, fields]
    rfl
  have hwaits : ∀ a ∈ s'.sink.inner.actions, ∀ i ∈ a.disturbance.intrusions, i.isWait = true := by
    dsimp only [s', s, sink, script, fields]
    decide
  have hopen : s'.buffer.isOpen = true := by
    dsimp only [s', s, fields]
    rfl
  have hgauged : s'.buffer.Gauged := by
    dsimp only [s', s, fields]
    exact (((Buffer.gauged_create hb).accept rfl).accept rfl).accept rfl
  have hstorage : s'.storage.shortage? = none := by
    dsimp only [s', s, fields]
    rfl
  have hlater : s'.storage.rest.shortage? = none := by
    dsimp only [s', s, fields]
    rfl
  have hsteady : steady.Harmless := ⟨by decide, by decide, by decide⟩
  obtain ⟨taken, pending, hcalls, -, -, hqueue, -, -, -, hnext⟩ :=
    cancelled_batch_is_shorter Scripted.confined (Scripted.answering MemorySink.answers) hwaits
      hopen hgauged hstorage hlater hgone
  -- two calls were made, of which the second was pending
  have hone : taken.length = 1 := by
    have htwo : (callsIn ended.sink.trace).length = 2 := by
      dsimp only [ended, s', s, sink, script, fields]
      rfl
    have hnone : callsIn s'.sink.trace = [] := by
      dsimp only [s', s, sink, script, fields]
      rfl
    rw [hcalls, hnone] at htwo
    simpa [callsOf] using htwo
  rw [hone] at hqueue hnext
  refine ⟨hgone, ?_, ?_⟩
  · rw [hqueue]
    dsimp only [s', s, fields]
    rfl
  · rw [(hnext steady hsteady ⟨20, 0⟩ 0).all ?_]
    · dsimp only [s', s, fields]
      rfl
    · have hanswers : (deliveriesIn ((ended.resumed steady ⟨20, 0⟩).process
          Station.intrude 0).2.sink.trace).map Prod.snd = [.accepted] := by
        dsimp only [ended, s', s, sink, script, steady, fields]
        rfl
      intro made hmade
      have hanswer := List.mem_map_of_mem (f := Prod.snd) hmade
      rw [hanswers] at hanswer
      simpa using hanswer

end

end LogSpool
