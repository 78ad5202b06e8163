import LogSpool.Proofs.Custody.Conservation

/-!
# Order of deliveries

This module treats courses in which nobody but the processor takes entries out of the buffer.
While the buffer is open its queue is then an unbroken run of numbers that ends with the last one
given out, and the calls to the sink follow the numbers.

* `Attempt.Before` — the relation of an attempt to a number offered later: the attempt was for a
  smaller number, or for the same one and its entry went back.
* `InOrder` — the invariant: it ties the queue, the entry in flight and the history together.
* `inOrder_perform`, `inOrder_run` — every internal act and every course of them keeps it.
* `Orderly` — what the invariant says of the calls of the sink, number by number.
-/

namespace LogSpool

/-- An attempt after which `id` may be offered to the sink. -/
def Attempt.Before (a : Attempt) (id : Nat) : Prop :=
  a.entry.id < id ∨ (a.entry.id = id ∧ a.isReturned = true)

theorem Attempt.Before.of_lt {a : Attempt} {id id' : Nat} (h : a.Before id) (hlt : id < id') :
    a.Before id' := by
  rcases h with h | ⟨h, -⟩
  · exact Or.inl (Nat.lt_trans h hlt)
  · exact Or.inl (h ▸ hlt)

theorem Attempt.Before.le {a : Attempt} {id : Nat} (h : a.Before id) : a.entry.id ≤ id := by
  rcases h with h | ⟨h, -⟩
  · exact Nat.le_of_lt h
  · exact Nat.le_of_eq h

/-- Only what went back may be offered under the same number again. -/
theorem Attempt.Before.isReturned {a : Attempt} {id : Nat} (h : a.Before id)
    (hid : a.entry.id = id) : a.isReturned = true := by
  rcases h with h | ⟨-, h⟩
  · omega
  · exact h

/-- What the sink took is not offered again. -/
theorem Attempt.Before.lt_of_isDelivered {a : Attempt} {id : Nat} (h : a.Before id)
    (hd : a.isDelivered = true) : a.entry.id < id := by
  rcases h with h | ⟨-, h⟩
  · exact h
  · simp [Attempt.isReturned, hd] at h

/-- The number at the head of a queue that nothing was taken out of; with an empty queue, the next
number to come. -/
def Buffer.headId (b : Buffer) : Nat :=
  b.nextId - b.size

/-- The queue holds the last numbers that were given out, each once and in order. -/
structure Buffer.Consecutive (b : Buffer) : Prop where
  ids : b.queue.map Entry.id = List.range' b.headId b.size
  size_le : b.size ≤ b.nextId

namespace Buffer.Consecutive

variable {b : Buffer}

theorem accept (h : b.Consecutive) (f : Fields) (now : Int) : (b.accept f now).Consecutive where
  ids := by
    have hhead : (b.accept f now).headId = b.headId := by
      simp [headId]
    have hlast : b.headId + b.size = b.nextId := Nat.sub_add_cancel h.size_le
    have hid : (Entry.ofFields b.nextId f now).id = b.headId + b.size := hlast.symm
    rw [hhead, accept_queue, accept_size, List.map_append, h.ids, List.range'_1_concat]
    simp [hid]
  size_le := by
    simpa using h.size_le

/-- The oldest entry carries the head number, and without it the run starts one later. -/
theorem uncons (h : b.Consecutive) {e : Entry} {rest : List Entry} (hqueue : b.queue = e :: rest) :
    e.id = b.headId ∧ (b.withQueue rest).headId = b.headId + 1 ∧
      (b.withQueue rest).Consecutive := by
  have hsize : b.size = rest.length + 1 := by simp [size, hqueue]
  have hle := h.size_le
  have hids := h.ids
  rw [hqueue, hsize, List.range'_succ, List.map_cons] at hids
  obtain ⟨hid, hrest⟩ := List.cons.inj hids
  have hhead : (b.withQueue rest).headId = b.headId + 1 := by
    simp only [headId, withQueue_nextId, withQueue_size]
    omega
  refine ⟨hid, hhead, { ids := ?_, size_le := ?_ }⟩
  · rw [hhead]
    exact hrest
  · simp only [withQueue_nextId, withQueue_size]
    omega

/-- The entry just before the head number extends the run at the head. -/
theorem cons (h : b.Consecutive) {e : Entry} (hid : e.id + 1 = b.headId) :
    (b.withQueue (e :: b.queue)).headId = e.id ∧ (b.withQueue (e :: b.queue)).Consecutive := by
  have hsize : b.queue.length = b.size := rfl
  have hhead : (b.withQueue (e :: b.queue)).headId = e.id := by
    simp only [headId, withQueue_nextId, withQueue_size, List.length_cons, hsize] at hid ⊢
    omega
  refine ⟨hhead, { ids := ?_, size_le := ?_ }⟩
  · rw [hhead, withQueue_queue, withQueue_size, List.length_cons, List.range'_succ, List.map_cons,
      h.ids, hid, hsize]
  · simp only [headId, withQueue_nextId, withQueue_size, List.length_cons, hsize] at hid ⊢
    omega

end Buffer.Consecutive

namespace Custody

/-- The invariant of courses in which only the processor takes entries out.  With no call pending
every attempt comes before the head of the queue; with one pending, before the entry in flight, and
this is the one just before the head. -/
structure InOrder (w : Custody) : Prop where
  conserved : w.Conserved
  hands : w.hands = .empty
  thrown : w.thrown = []
  discarded : w.buffer.isOpen = true → w.discarded = []
  processed : w.buffer.isOpen = true → w.buffer.metrics.totalProcessed = w.delivered.length
  queue : w.buffer.isOpen = true → w.buffer.Consecutive
  attempts : w.attempts.Pairwise fun a a' => a.Before a'.entry.id
  flight : ∀ d ∈ w.inFlight, ∀ a ∈ w.attempts, a.Before d.entry.id
  flight_head : ∀ d ∈ w.inFlight, w.buffer.isOpen = true → d.entry.id + 1 = w.buffer.headId
  idle : w.inFlight = none → w.buffer.isOpen = true → ∀ a ∈ w.attempts, a.Before w.buffer.headId
  known : ∀ d ∈ w.calls, d.entry ∈ w.accepted

theorem inOrder_around {capacity : Nat} {now : Int} {b : Buffer}
    (hb : Buffer.create capacity now = .ok b) (storage : Storage) :
    (around b storage).InOrder := by
  have hconserved := conserved_around hb storage
  obtain rfl := Buffer.create_ok hb
  exact
    { conserved := hconserved
      hands := rfl
      thrown := rfl
      discarded := fun _ => rfl
      processed := fun _ => rfl
      queue := fun _ => { ids := rfl, size_le := Nat.zero_le 1 }
      attempts := List.Pairwise.nil
      flight := by simp [around]
      flight_head := by simp [around]
      idle := by simp [around]
      known := by simp [around, calls] }

theorem calls_conclude {w : Custody} {a : Attempt} (hflight : w.inFlight = some a.delivery)
    (b : Buffer) (storage : Storage) : (w.conclude b storage a).calls = w.calls := by
  simp [calls, conclude, hflight]

/-- An act that only changes the counts of errors, and the storage, keeps the order. -/
theorem InOrder.of_buffer {w : Custody} (hw : w.InOrder) {b : Buffer} (storage : Storage)
    (hb : b = w.buffer ∨ b = w.buffer.countError) :
    InOrder { w with buffer := b, storage } := by
  have hconserved := hw.conserved.of_buffer storage hb
  rcases hb with rfl | rfl
  · exact
      { conserved := hconserved
        hands := hw.hands
        thrown := hw.thrown
        discarded := hw.discarded
        processed := hw.processed
        queue := hw.queue
        attempts := hw.attempts
        flight := hw.flight
        flight_head := hw.flight_head
        idle := hw.idle
        known := hw.known }
  · exact
      { conserved := hconserved
        hands := hw.hands
        thrown := hw.thrown
        discarded := hw.discarded
        processed := hw.processed
        queue := fun hopen => { ids := (hw.queue hopen).ids, size_le := (hw.queue hopen).size_le }
        attempts := hw.attempts
        flight := hw.flight
        flight_head := hw.flight_head
        idle := hw.idle
        known := hw.known }

theorem InOrder.enqueue {w : Custody} (hw : w.InOrder) (f : Fields) (now : Int) :
    (w.perform (.enqueue f now)).InOrder := by
  have hconserved := conserved_perform hw.conserved (.enqueue f now)
  rcases w.perform_enqueue f now with ⟨-, h⟩ | ⟨b, storage, hb, h⟩
  · rw [h] at hconserved ⊢
    -- a new number at the tail leaves the head where it is
    have hhead : (w.buffer.accept f now).headId = w.buffer.headId := by
      simp [Buffer.headId]
    exact
      { conserved := hconserved
        hands := hw.hands
        thrown := hw.thrown
        discarded := hw.discarded
        processed := hw.processed
        queue := fun hopen => (hw.queue hopen).accept f now
        attempts := hw.attempts
        flight := hw.flight
        flight_head := fun d hd hopen => (hw.flight_head d hd hopen).trans hhead.symm
        idle := fun hnone hopen a ha => by
          change a.Before (w.buffer.accept f now).headId
          rw [hhead]
          exact hw.idle hnone hopen a ha
        known := fun d hd => List.mem_append_left _ (hw.known d hd) }
  · rw [h]
    exact hw.of_buffer storage hb

theorem InOrder.offer {w : Custody} (hw : w.InOrder) (now : Int) :
    (w.perform (.offer now)).InOrder := by
  have hconserved := conserved_perform hw.conserved (.offer now)
  rcases w.perform_offer now with ⟨e, rest, hflight, hopen, hqueue, h⟩ | h
  · rw [h] at hconserved ⊢
    -- the entry that goes into flight has the number that all attempts come before
    obtain ⟨hid, hhead, hrest⟩ := (hw.queue hopen).uncons hqueue
    have hmem : e ∈ w.accepted := by
      refine hw.conserved.perm.mem_iff.1 (List.mem_flatMap.2 ⟨.queue, Place.mem_all _, ?_⟩)
      simp [entriesAt, hqueue]
    exact
      { conserved := hconserved
        hands := hw.hands
        thrown := hw.thrown
        discarded := hw.discarded
        processed := hw.processed
        queue := fun _ => hrest
        attempts := hw.attempts
        flight := by
          rintro d ⟨⟩ a ha
          rw [Entry.deliveryAt_entry, hid]
          exact hw.idle hflight hopen a ha
        flight_head := by
          rintro d ⟨⟩ -
          rw [Entry.deliveryAt_entry, hid]
          exact hhead.symm
        idle := by simp
        known := by
          intro d hd
          rcases List.mem_append.1 hd with hd | hd
          · exact hw.known d (List.mem_append_left _ hd)
          · obtain rfl : d = e.deliveryAt now := by simpa using hd
            exact hmem }
  · rw [h]
    exact hw

/-- However the pending delivery is settled, the order is kept, if the new buffer has the entry
back exactly when the attempt says so, and counts it exactly when it was delivered. -/
theorem InOrder.conclude {w : Custody} (hw : w.InOrder) {b : Buffer} {storage : Storage}
    {a : Attempt} (hflight : w.inFlight = some a.delivery)
    (hconserved : (w.conclude b storage a).Conserved)
    (hopen : b.isOpen = w.buffer.isOpen)
    (hprocessed : w.buffer.isOpen = true → b.metrics.totalProcessed =
      w.buffer.metrics.totalProcessed + if a.isDelivered then 1 else 0)
    (hqueue : w.buffer.isOpen = true →
      b.Consecutive ∧ b.headId = if a.isReturned then a.entry.id else w.buffer.headId) :
    (w.conclude b storage a).InOrder := by
  have hbefore := hw.flight a.delivery hflight
  refine
    { conserved := hconserved
      hands := hw.hands
      thrown := hw.thrown
      discarded := fun h => hw.discarded (hopen ▸ h)
      processed := fun h => ?_
      queue := fun h => (hqueue (hopen ▸ h)).1
      attempts := ?_
      flight := by simp [Custody.conclude]
      flight_head := by simp [Custody.conclude]
      idle := fun _ h => ?_
      known := ?_ }
  · have hw' := hprocessed (hopen ▸ h)
    rw [hw.processed (hopen ▸ h)] at hw'
    rw [delivered_conclude]
    cases hd : a.isDelivered <;> simp_all [Custody.conclude]
  · refine List.pairwise_append.2 ⟨hw.attempts, List.pairwise_singleton _ _, ?_⟩
    intro a₁ ha₁ a₂ ha₂
    obtain rfl := List.mem_singleton.1 ha₂
    exact hbefore a₁ ha₁
  · -- the entry that was in flight is the one just before the old head
    have hw' : w.buffer.isOpen = true := hopen ▸ h
    have hhead := hw.flight_head a.delivery hflight hw'
    change ∀ a' ∈ w.attempts ++ [a], a'.Before b.headId
    rw [(hqueue hw').2]
    intro a' ha'
    rcases List.mem_append.1 ha' with ha' | ha'
    · have hold := hbefore a' ha'
      split
      · exact hold
      · exact hold.of_lt (by omega)
    · obtain rfl := List.mem_singleton.1 ha'
      split
      · rename_i hreturned
        exact Or.inr ⟨rfl, hreturned⟩
      · exact Or.inl (by rw [← hhead]; exact Nat.lt_succ_self _)
  · rw [calls_conclude hflight b storage]
    exact hw.known

theorem InOrder.settle {w : Custody} (hw : w.InOrder) (answer : Answer) (now : Int) :
    (w.perform (.settle answer now)).InOrder := by
  have hconserved := conserved_perform hw.conserved (.settle answer now)
  rcases w.perform_settle answer now with
    ⟨d, hflight, ⟨-, h⟩ | ⟨hrefused, -, -, h⟩ | ⟨hrefused, -, storage, h⟩⟩ | h
  · rw [h] at hconserved ⊢
    refine hw.conclude hflight hconserved (Buffer.markProcessed_isOpen _ _ _) ?_ ?_
    · intro hopen
      simp [Buffer.markProcessed_totalProcessed _ _ _ hopen, Attempt.isDelivered]
    · intro hopen
      have hq := hw.queue hopen
      refine ⟨{ ids := ?_, size_le := ?_ }, ?_⟩
      · simpa [Buffer.headId] using hq.ids
      · simpa using hq.size_le
      · simp [Buffer.headId, Attempt.isReturned, Attempt.isDelivered]
  · rw [h] at hconserved ⊢
    refine hw.conclude hflight hconserved rfl ?_ ?_
    · intro _
      simp [Attempt.isDelivered, hrefused]
    · intro hopen
      obtain ⟨hhead, hq⟩ := (hw.queue hopen).cons (hw.flight_head d hflight hopen)
      refine ⟨hq, ?_⟩
      simp [hhead, Attempt.isReturned, Attempt.isDelivered, Attempt.entry, hrefused]
  · rw [h] at hconserved ⊢
    refine hw.conclude hflight hconserved rfl ?_ ?_
    · intro _
      simp [Attempt.isDelivered, hrefused]
    · intro hopen
      exact ⟨hw.queue hopen, by simp [Attempt.isReturned]⟩
  · rw [h]
    exact hw

theorem InOrder.close {w : Custody} (hw : w.InOrder) : (w.perform .close).InOrder := by
  have hconserved := conserved_perform hw.conserved .close
  rcases w.perform_close with ⟨-, h⟩ | ⟨-, h⟩
  · rw [h] at hconserved ⊢
    exact
      { conserved := hconserved
        hands := hw.hands
        thrown := hw.thrown
        discarded := by simp
        processed := by simp
        queue := by simp
        attempts := hw.attempts
        flight := hw.flight
        flight_head := by simp
        idle := by simp
        known := hw.known }
  · rw [h]
    exact hw

/-- Every act of the spool itself keeps the order. -/
theorem inOrder_perform {w : Custody} {a : Act} (ha : a.isInternal = true) (hw : w.InOrder) :
    (w.perform a).InOrder := by
  cases a with
  | enqueue f now => exact hw.enqueue f now
  | take hand => simp [Act.isInternal] at ha
  | giveBack hand => simp [Act.isInternal] at ha
  | discard hand => simp [Act.isInternal] at ha
  | offer now => exact hw.offer now
  | settle answer now => exact hw.settle answer now
  | countError =>
      obtain ⟨b, hb, h⟩ := w.perform_countError
      rw [h]
      exact hw.of_buffer w.storage hb
  | close => exact hw.close

/-- Every course of acts of the spool itself keeps the order. -/
theorem inOrder_run {w : Custody} {acts : List Act} (hacts : ∀ a ∈ acts, a.isInternal = true)
    (hw : w.InOrder) : (w.run acts).InOrder :=
  run_induction InOrder Act.isInternal (fun _ _ => inOrder_perform) hacts hw

/-! ## What the order says of the calls -/

/-- The calls of the sink follow the numbers. -/
structure Orderly (w : Custody) : Prop where
  /-- The queue of an open buffer is the unbroken run of numbers that ends with the last one. -/
  queue : w.buffer.isOpen = true → w.buffer.queue.map Entry.id =
    List.range' (w.buffer.metrics.totalIngested + 1 - w.buffer.size) w.buffer.size
  /-- Calls never go back to a smaller number. -/
  calls : (w.calls.map fun d => d.entry.id).Pairwise (· ≤ ·)
  /-- A number is offered again only after its entry was refused or given up, and went back. -/
  again : w.attempts.Pairwise fun a a' => a.entry.id = a'.entry.id → a.isReturned = true
  again_pending : ∀ d ∈ w.inFlight, ∀ a ∈ w.attempts,
    a.entry.id = d.entry.id → a.isReturned = true
  /-- The sink takes the numbers in their order, each once. -/
  delivered : (w.delivered.map Entry.id).Pairwise (· < ·)
  /-- Every call carries the entry that was accepted under its number. -/
  known : ∀ d ∈ w.calls, 1 ≤ d.entry.id ∧ w.accepted[d.entry.id - 1]? = some d.entry
  /-- Between calls every number is accounted for. -/
  balance : w.buffer.isOpen = true → w.inFlight = none → w.buffer.metrics.totalIngested =
    w.buffer.metrics.totalProcessed + w.lost.length + w.buffer.size

/-- The list of accepted entries is indexed by their numbers. -/
theorem Conserved.getElem?_accepted {w : Custody} (hw : w.Conserved) {e : Entry}
    (he : e ∈ w.accepted) : 1 ≤ e.id ∧ w.accepted[e.id - 1]? = some e := by
  obtain ⟨i, hi, rfl⟩ := List.mem_iff_getElem.1 he
  have htotal : w.accepted.length = w.buffer.metrics.totalIngested := by
    simpa using congrArg List.length hw.ids
  have hrange : (w.accepted.map Entry.id)[i]? = some (1 + i) := by
    rw [hw.ids]
    simp [← htotal, hi]
  have hid : w.accepted[i].id = 1 + i := by
    simpa [hi] using hrange
  rw [hid]
  exact ⟨by omega, by simp [hi]⟩

theorem InOrder.calls_pairwise {w : Custody} (hw : w.InOrder) :
    (w.calls.map fun d => d.entry.id).Pairwise (· ≤ ·) := by
  rw [List.pairwise_map, calls, List.pairwise_append]
  refine ⟨?_, ?_, ?_⟩
  · rw [List.pairwise_map]
    exact hw.attempts.imp fun h => h.le
  · cases w.inFlight <;> simp
  · intro d hd d' hd'
    obtain ⟨a, ha, rfl⟩ := List.mem_map.1 hd
    exact (hw.flight d' (by simpa using hd') a ha).le

theorem InOrder.delivered_pairwise {w : Custody} (hw : w.InOrder) :
    (w.delivered.map Entry.id).Pairwise (· < ·) := by
  rw [List.pairwise_map, delivered, List.pairwise_map, List.pairwise_filter]
  exact hw.attempts.imp fun h hd _ => h.lt_of_isDelivered hd

/-- Where no entry is in a hand or in flight and none was discarded, what was accepted is queued,
delivered or lost. -/
theorem InOrder.balance {w : Custody} (hw : w.InOrder) (hopen : w.buffer.isOpen = true)
    (hflight : w.inFlight = none) : w.buffer.metrics.totalIngested =
      w.buffer.metrics.totalProcessed + w.lost.length + w.buffer.size := by
  have htotal : w.accepted.length = w.buffer.metrics.totalIngested := by
    simpa using congrArg List.length hw.conserved.ids
  have hlength := hw.conserved.perm.length_eq
  have hplaces : w.entries.length = w.buffer.size + w.delivered.length + w.lost.length := by
    simp [entries, Place.all, entriesAt, hw.hands, Hands.empty, Hands.entries, hw.thrown, hflight,
      hw.discarded hopen, Buffer.size]
    omega
  rw [hw.processed hopen]
  omega

/-- Whatever is in order looks orderly from outside. -/
theorem InOrder.orderly {w : Custody} (hw : w.InOrder) : w.Orderly where
  queue hopen := by
    rw [(hw.queue hopen).ids, Buffer.headId, hw.conserved.nextId]
  calls := hw.calls_pairwise
  again := hw.attempts.imp fun h hid => h.isReturned hid
  again_pending d hd a ha hid := (hw.flight d hd a ha).isReturned hid
  delivered := hw.delivered_pairwise
  known d hd := hw.conserved.getElem?_accepted (hw.known d hd)
  balance := hw.balance

end Custody

end LogSpool
