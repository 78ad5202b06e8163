import LogSpool.Buffer

/-!
# What each operation of the buffer does

This module says, for each operation of `Buffer`, what its answer tells about the buffer before and
what the buffer is after it.  Developments on runs of a buffer cite these statements and do not
open the operations.

* `create_ok` — what a new buffer is.
* `refusal?_eq_none_iff` — the condition under which an entry is accepted.
* `enqueue_accepted`, `enqueue_refused` — the two exits of an enqueue.
* `dequeue_taken`, `dequeue_nothing`, `dequeue_refused` — the three exits of a dequeue.
* `requeueFront_accepted`, `requeueFront_refused` — the two exits of a return to the head.
* `dequeue_of_closed` and its like — every operation refuses once the buffer is closed, and changes
  nothing.
-/

namespace LogSpool.Buffer

variable (b : Buffer) (q : List Entry) (f : Fields) (now : Int) {shortage : Option Shortage}

/-! ## Parts of the results -/

@[simp] theorem withQueue_queue : (b.withQueue q).queue = q := rfl
@[simp] theorem withQueue_capacity : (b.withQueue q).capacity = b.capacity := rfl
@[simp] theorem withQueue_nextId : (b.withQueue q).nextId = b.nextId := rfl
@[simp] theorem withQueue_isOpen : (b.withQueue q).isOpen = b.isOpen := rfl
@[simp] theorem withQueue_size : (b.withQueue q).size = q.length := rfl
@[simp] theorem withQueue_totalIngested :
    (b.withQueue q).metrics.totalIngested = b.metrics.totalIngested := rfl
@[simp] theorem withQueue_totalProcessed :
    (b.withQueue q).metrics.totalProcessed = b.metrics.totalProcessed := rfl
@[simp] theorem withQueue_totalErrors :
    (b.withQueue q).metrics.totalErrors = b.metrics.totalErrors := rfl

@[simp] theorem countError_queue : b.countError.queue = b.queue := rfl
@[simp] theorem countError_capacity : b.countError.capacity = b.capacity := rfl
@[simp] theorem countError_nextId : b.countError.nextId = b.nextId := rfl
@[simp] theorem countError_isOpen : b.countError.isOpen = b.isOpen := rfl
@[simp] theorem countError_size : b.countError.size = b.size := rfl
@[simp] theorem countError_totalIngested :
    b.countError.metrics.totalIngested = b.metrics.totalIngested := rfl
@[simp] theorem countError_totalProcessed :
    b.countError.metrics.totalProcessed = b.metrics.totalProcessed := rfl
@[simp] theorem countError_totalErrors :
    b.countError.metrics.totalErrors = b.metrics.totalErrors + 1 := rfl

@[simp] theorem accept_queue :
    (b.accept f now).queue = b.queue ++ [Entry.ofFields b.nextId f now] := rfl
@[simp] theorem accept_capacity : (b.accept f now).capacity = b.capacity := rfl
@[simp] theorem accept_nextId : (b.accept f now).nextId = b.nextId + 1 := rfl
@[simp] theorem accept_isOpen : (b.accept f now).isOpen = b.isOpen := rfl
@[simp] theorem accept_size : (b.accept f now).size = b.size + 1 := by
  simp [size]
@[simp] theorem accept_totalIngested :
    (b.accept f now).metrics.totalIngested = b.metrics.totalIngested + 1 := rfl
@[simp] theorem accept_totalProcessed :
    (b.accept f now).metrics.totalProcessed = b.metrics.totalProcessed := rfl

/-- A new buffer is open and empty, and its first number is 1. -/
theorem create_ok {capacity : Nat} {now : Int} {b : Buffer} (h : create capacity now = .ok b) :
    b = ⟨capacity, [], 1, .initial capacity now, true⟩ := by
  unfold create at h
  split at h
  · simp at h
  · exact (Except.ok.inj h).symm

/-! ## Enqueue -/

/-- An entry is accepted exactly when its fields break no rule, the buffer is open and there is
room. -/
theorem refusal?_eq_none_iff :
    b.refusal? f = none ↔ f.fault? = none ∧ b.isOpen = true ∧ b.size < b.capacity := by
  unfold refusal?
  cases f.fault? with
  | some fault => simp
  | none =>
      cases b.isOpen with
      | false => simp
      | true =>
          by_cases hroom : b.capacity ≤ b.size
          · simp [hroom]
          · simp [hroom, Nat.lt_of_not_le hroom]

/-- Without storage nothing is accepted, and storage alone does not make an entry acceptable. -/
theorem refusal?_short_eq_none_iff :
    b.refusal? f shortage = none ↔ b.refusal? f = none ∧ shortage = none := by
  unfold refusal?
  cases f.fault? with
  | some fault => simp
  | none =>
      dsimp only
      split
      · simp
      · split
        · simp
        · simp

/-- An accepted entry gets the next number and stands at the tail of the queue. -/
theorem enqueue_accepted {b : Buffer} {f : Fields} {now : Int} {id : Nat} {b' : Buffer}
    (h : b.enqueue f now shortage = (.ok id, b')) :
    b.refusal? f = none ∧ shortage = none ∧ id = b.nextId ∧ b' = b.accept f now := by
  unfold enqueue at h
  split at h
  · rename_i hnone
    obtain ⟨hrefusal, hstorage⟩ := (b.refusal?_short_eq_none_iff f).1 hnone
    obtain ⟨hid, rfl⟩ := Prod.mk.inj h
    exact ⟨hrefusal, hstorage, (Except.ok.inj hid).symm, rfl⟩
  · simp at h
  · simp at h
  · simp at h

/-- A refused entry leaves nothing behind, but for one more counted error when the queue was
full, or had no storage for it. -/
theorem enqueue_refused {b : Buffer} {f : Fields} {now : Int} {why : EngineError} {b' : Buffer}
    (h : b.enqueue f now shortage = (.error why, b')) :
    b.refusal? f shortage = some why ∧ (b' = b ∨ b' = b.countError) := by
  unfold enqueue at h
  split at h
  · simp at h
  · rename_i hfull
    obtain ⟨hwhy, rfl⟩ := Prod.mk.inj h
    exact ⟨by rw [hfull, Except.error.inj hwhy], Or.inr rfl⟩
  · rename_i hshort
    obtain ⟨hwhy, rfl⟩ := Prod.mk.inj h
    exact ⟨by rw [hshort, Except.error.inj hwhy], Or.inr rfl⟩
  · rename_i error _ _ hsome
    obtain ⟨hwhy, rfl⟩ := Prod.mk.inj h
    exact ⟨by rw [hsome, Except.error.inj hwhy], Or.inl rfl⟩

/-- Fields that break a rule are refused before anything else is looked at. -/
theorem enqueue_of_fault {b : Buffer} {f : Fields} {fault : FieldFault}
    (hfault : f.fault? = some fault) (now : Int) :
    b.enqueue f now shortage = (.error (.validation fault.reason), b) := by
  have hrefusal : b.refusal? f shortage = some (.validation fault.reason) := by
    simp [refusal?, hfault]
  unfold enqueue
  rw [hrefusal]

/-- A full buffer refuses what it would else accept, and counts an error. -/
theorem enqueue_full {b : Buffer} {f : Fields} (hfields : f.fault? = none) (hopen : b.isOpen = true)
    (hfull : b.capacity ≤ b.size) (now : Int) :
    b.enqueue f now shortage = (.error (.capacityExceeded b.capacity), b.countError) := by
  have hrefusal : b.refusal? f shortage = some (.capacityExceeded b.capacity) := by
    simp [refusal?, hfields, hopen, hfull]
  unfold enqueue
  rw [hrefusal]

/-- What would be accepted else is refused for want of storage, and an error is counted. -/
theorem enqueue_short {b : Buffer} {f : Fields} (hrefusal : b.refusal? f = none) (now : Int)
    (why : Shortage) :
    b.enqueue f now (some why) = (.error (.allocationFailure why), b.countError) := by
  obtain ⟨hfields, hopen, hroom⟩ := (b.refusal?_eq_none_iff f).1 hrefusal
  have hshort : b.refusal? f (some why) = some (.allocationFailure why) := by
    simp [refusal?, hfields, hopen, Nat.not_le.2 hroom]
  unfold enqueue
  rw [hshort]

/-! ## Dequeue -/

/-- A taken entry was the oldest of an open buffer. -/
theorem dequeue_taken {b : Buffer} {e : Entry} {b' : Buffer}
    (h : b.dequeue = (.ok (some e), b')) :
    b.isOpen = true ∧ ∃ rest, b.queue = e :: rest ∧ b' = b.withQueue rest := by
  unfold dequeue at h
  split at h
  · simp at h
  · rename_i hopen
    split at h
    · simp at h
    · rename_i head rest hqueue
      obtain ⟨he, rfl⟩ := Prod.mk.inj h
      have hhead : head = e := by simpa using he
      exact ⟨by simpa using hopen, rest, by rw [hqueue, hhead], rfl⟩

/-- Nothing to take means that the buffer is open and empty. -/
theorem dequeue_nothing {b : Buffer} {b' : Buffer} (h : b.dequeue = (.ok none, b')) :
    b.isOpen = true ∧ b.queue = [] ∧ b' = b := by
  unfold dequeue at h
  split at h
  · simp at h
  · rename_i hopen
    split at h
    · rename_i hqueue
      exact ⟨by simpa using hopen, hqueue, (Prod.mk.inj h).2.symm⟩
    · simp at h

/-- Only a closed buffer refuses a dequeue. -/
theorem dequeue_refused {b : Buffer} {why : EngineError} {b' : Buffer}
    (h : b.dequeue = (.error why, b')) :
    b.isOpen = false ∧ why = .notInitialized ∧ b' = b := by
  unfold dequeue at h
  split at h
  · rename_i hclosed
    obtain ⟨hwhy, rfl⟩ := Prod.mk.inj h
    exact ⟨by simpa using hclosed, (Except.error.inj hwhy).symm, rfl⟩
  · split at h <;> simp at h

/-! ## Return to the head -/

/-- An entry that goes back stands at the head again. -/
theorem requeueFront_accepted {b : Buffer} {e : Entry} {u : Unit} {b' : Buffer}
    (h : b.requeueFront e shortage = (.ok u, b')) :
    b.isOpen = true ∧ b.size < b.capacity ∧ shortage = none ∧
      b' = b.withQueue (e :: b.queue) := by
  unfold requeueFront at h
  split at h
  · simp at h
  · rename_i hopen
    split at h
    · simp at h
    · rename_i hroom
      split at h
      · simp at h
      · exact ⟨by simpa using hopen, Nat.lt_of_not_le hroom, rfl, (Prod.mk.inj h).2.symm⟩

/-- An entry is not taken back by a closed buffer, by a full one, or without storage, and then
nothing changes. -/
theorem requeueFront_refused {b : Buffer} {e : Entry} {why : EngineError} {b' : Buffer}
    (h : b.requeueFront e shortage = (.error why, b')) :
    (b.isOpen = false ∨ b.capacity ≤ b.size ∨ shortage ≠ none) ∧ b' = b := by
  unfold requeueFront at h
  split at h
  · rename_i hclosed
    exact ⟨Or.inl (by simpa using hclosed), (Prod.mk.inj h).2.symm⟩
  · split at h
    · rename_i hfull
      exact ⟨Or.inr (Or.inl hfull), (Prod.mk.inj h).2.symm⟩
    · split at h
      · exact ⟨Or.inr (Or.inr (by simp)), (Prod.mk.inj h).2.symm⟩
      · simp at h

/-! ## Marks, and the end -/

@[simp] theorem markProcessed_queue (latency : Float) :
    (b.markProcessed latency now).queue = b.queue := by
  unfold markProcessed; split <;> rfl

@[simp] theorem markProcessed_nextId (latency : Float) :
    (b.markProcessed latency now).nextId = b.nextId := by
  unfold markProcessed; split <;> rfl

@[simp] theorem markProcessed_capacity (latency : Float) :
    (b.markProcessed latency now).capacity = b.capacity := by
  unfold markProcessed; split <;> rfl

@[simp] theorem markProcessed_isOpen (latency : Float) :
    (b.markProcessed latency now).isOpen = b.isOpen := by
  unfold markProcessed; split <;> rfl

@[simp] theorem markProcessed_size (latency : Float) :
    (b.markProcessed latency now).size = b.size := by
  simp [size]

@[simp] theorem markProcessed_totalIngested (latency : Float) :
    (b.markProcessed latency now).metrics.totalIngested = b.metrics.totalIngested := by
  unfold markProcessed; split <;> rfl

@[simp] theorem markProcessed_totalErrors (latency : Float) :
    (b.markProcessed latency now).metrics.totalErrors = b.metrics.totalErrors := by
  unfold markProcessed; split <;> rfl

/-- A delivery counts while the buffer is open. -/
theorem markProcessed_totalProcessed (latency : Float) (h : b.isOpen = true) :
    (b.markProcessed latency now).metrics.totalProcessed = b.metrics.totalProcessed + 1 := by
  simp [markProcessed, h]

/-- Counting a failure changes nothing, or it is one more counted error. -/
theorem markError_eq : b.markError = b ∨ b.markError = b.countError := by
  unfold markError; split
  · exact Or.inr rfl
  · exact Or.inl rfl

/-- Closing an open buffer empties it; a closed one stays as it is. -/
theorem close_snd :
    b.close.2 = if b.isOpen then { b.withQueue [] with isOpen := false } else b := by
  unfold close; split <;> rfl

/-- An open buffer can be read. -/
theorem read_of_open {b : Buffer} (h : b.isOpen = true) {α : Type} (view : Buffer → α) :
    b.read view = .ok (view b) :=
  if_pos h

/-! ## A closed buffer -/

section

variable {b : Buffer} {shortage : Option Shortage} (hclosed : b.isOpen = false)

include hclosed

/-- A closed buffer refuses an entry, of which the fields are still checked first. -/
theorem enqueue_of_closed {f : Fields} (hfields : f.fault? = none) (now : Int) :
    b.enqueue f now shortage = (.error .notInitialized, b) := by
  simp [enqueue, refusal?, hfields, hclosed]

theorem enqueue_snd_of_closed (f : Fields) (now : Int) : (b.enqueue f now shortage).2 = b := by
  cases hfault : f.fault? with
  | some fault => rw [enqueue_of_fault hfault]
  | none => rw [enqueue_of_closed hclosed hfault]

theorem dequeue_of_closed : b.dequeue = (.error .notInitialized, b) := by
  simp [dequeue, hclosed]

theorem requeueFront_of_closed (e : Entry) :
    b.requeueFront e shortage = (.error .notInitialized, b) := by
  simp [requeueFront, hclosed]

theorem markProcessed_of_closed (latency : Float) (now : Int) :
    b.markProcessed latency now = b := by
  simp [markProcessed, hclosed]

theorem markError_of_closed : b.markError = b := by
  simp [markError, hclosed]

theorem close_of_closed : b.close = (0, b) := by
  simp [close, hclosed]

/-- A closed buffer cannot be read. -/
theorem read_of_closed {α : Type} (view : Buffer → α) : b.read view = .error .notInitialized := by
  simp [read, hclosed]

end

end LogSpool.Buffer
