import Mathlib.Algebra.Group.Nat.Defs
import LogSpool.Proofs.Buffer.Invariant
import LogSpool.Proofs.Custody.Conservation

/-!
# The representation of a buffer

This module says what is true of a buffer at every moment, whoever has acted on it.  Besides the
acts of a course, somebody may record a delivery on behalf of the processor; that concerns no entry
but is a moment of the buffer like any other.

* `Buffer.WellFormed` — the relations between queue, gauges, counters and numbers.
* `Custody.Sound` — a well-formed buffer, and admissible fields of every entry wherever it is.
* `gauged_perform`, `vetted_perform` — what one act preserves.
* `Reachable`, `Reachable.sound` — every custody that acts and records lead to is sound.
-/

namespace LogSpool

/-- What is true of a buffer at every moment. -/
structure Buffer.WellFormed (b : Buffer) : Prop where
  depth : b.metrics.queueDepth = b.queue.length
  depth_le : b.metrics.queueDepth ≤ b.capacity
  memory : b.metrics.memoryBytes = b.metrics.queueDepth * 632
  capacity : b.metrics.bufferCapacity = b.capacity
  capacity_pos : 0 < b.capacity
  nextId : b.nextId = b.metrics.totalIngested + 1
  distinct : (b.queue.map Entry.id).Nodup
  below : ∀ e ∈ b.queue, e.id < b.nextId
  admissible : ∀ e ∈ b.queue, e.fields.Admissible
  closed : b.isOpen = false →
    b.queue = [] ∧ b.metrics.queueDepth = 0 ∧ b.metrics.memoryBytes = 0
  /-- Numbers and bytes stay within 64 bits. -/
  fits : b.metrics.totalIngested < 2 ^ 50 → b.nextId < 2 ^ 64 ∧ b.metrics.memoryBytes < 2 ^ 64

namespace Custody

/-- Every act keeps the gauges in agreement with the queue. -/
theorem gauged_perform {w : Custody} (hw : w.buffer.Gauged) (a : Act) :
    (w.perform a).buffer.Gauged := by
  cases a with
  | enqueue f now =>
      rcases w.perform_enqueue f now with ⟨hrefusal, h⟩ | ⟨b, storage, hb, h⟩
      · rw [h]
        exact hw.accept hrefusal
      · rw [h]
        rcases hb with rfl | rfl
        · exact hw
        · exact hw.countError
  | take hand =>
      rcases w.perform_take hand with ⟨e, rest, hopen, hqueue, h⟩ | h
      · rw [h]
        exact hw.taken hopen hqueue
      · rw [h]
        exact hw
  | giveBack hand =>
      rcases w.perform_giveBack hand with ⟨e, -, hopen, hroom, h⟩ | ⟨storage, h⟩
      · rw [h]
        exact hw.returned hopen hroom e
      · rw [h]
        exact hw
  | discard hand => exact hw
  | offer now =>
      rcases w.perform_offer now with ⟨e, rest, -, hopen, hqueue, h⟩ | h
      · rw [h]
        exact hw.taken hopen hqueue
      · rw [h]
        exact hw
  | settle answer now =>
      rcases w.perform_settle answer now with
        ⟨d, -, ⟨-, h⟩ | ⟨-, hopen, hroom, h⟩ | ⟨-, -, storage, h⟩⟩ | h
      · rw [h]
        exact hw.markProcessed d.latency
      · rw [h]
        exact hw.returned hopen hroom d.entry
      · rw [h]
        exact hw
      · rw [h]
        exact hw
  | countError => exact hw.markError
  | close =>
      rcases w.perform_close with ⟨-, h⟩ | ⟨-, h⟩
      · rw [h]
        exact hw.closed_empty
      · rw [h]
        exact hw

theorem gauged_run {w : Custody} (hw : w.buffer.Gauged) (acts : List Act) :
    (w.run acts).buffer.Gauged :=
  run_induction (fun w => w.buffer.Gauged) (fun _ => true) (fun _ a _ h => gauged_perform h a)
    (fun _ _ => rfl) hw

/-- Every entry was checked before it was accepted. -/
def Vetted (w : Custody) : Prop :=
  ∀ e ∈ w.accepted, e.fields.Admissible

/-- Only an enqueue accepts an entry. -/
theorem perform_accepted (w : Custody) {a : Act} (ha : ∀ f now, a ≠ .enqueue f now) :
    (w.perform a).accepted = w.accepted := by
  cases a with
  | enqueue f now => exact absurd rfl (ha f now)
  | take hand => rcases w.perform_take hand with ⟨e, rest, -, -, h⟩ | h <;> rw [h]
  | giveBack hand => rcases w.perform_giveBack hand with ⟨e, -, -, -, h⟩ | ⟨storage, h⟩ <;> rw [h]
  | discard hand => rfl
  | offer now => rcases w.perform_offer now with ⟨e, rest, -, -, -, h⟩ | h <;> rw [h]
  | settle answer now =>
      rcases w.perform_settle answer now with
        ⟨d, -, ⟨-, h⟩ | ⟨-, -, -, h⟩ | ⟨-, -, storage, h⟩⟩ | h <;> rw [h] <;> rfl
  | countError => rfl
  | close => rcases w.perform_close with ⟨-, h⟩ | ⟨-, h⟩ <;> rw [h]

/-- Only an enqueue takes a number. -/
theorem perform_nextId (w : Custody) {a : Act} (ha : ∀ f now, a ≠ .enqueue f now) :
    (w.perform a).buffer.nextId = w.buffer.nextId := by
  cases a with
  | enqueue f now => exact absurd rfl (ha f now)
  | take hand =>
      rcases w.perform_take hand with ⟨e, rest, -, -, h⟩ | h <;> rw [h]
      rfl
  | giveBack hand =>
      rcases w.perform_giveBack hand with ⟨e, -, -, -, h⟩ | ⟨storage, h⟩ <;> rw [h]
      rfl
  | discard hand => rfl
  | offer now =>
      rcases w.perform_offer now with ⟨e, rest, -, -, -, h⟩ | h <;> rw [h]
      rfl
  | settle answer now =>
      rcases w.perform_settle answer now with
        ⟨d, -, ⟨-, h⟩ | ⟨-, -, -, h⟩ | ⟨-, -, storage, h⟩⟩ | h <;> rw [h]
      · exact Buffer.markProcessed_nextId _ _ _
      · rfl
      · rfl
  | countError =>
      obtain ⟨b, hb, h⟩ := w.perform_countError
      rw [h]
      rcases hb with rfl | rfl <;> rfl
  | close =>
      rcases w.perform_close with ⟨-, h⟩ | ⟨-, h⟩ <;> rw [h]
      rfl

/-- What is accepted later has later numbers. -/
theorem run_accepted (w : Custody) (acts : List Act) :
    ∃ later, (w.run acts).accepted = w.accepted ++ later ∧ ∀ e ∈ later, w.buffer.nextId ≤ e.id := by
  suffices h : w.buffer.nextId ≤ (w.run acts).buffer.nextId ∧
      ∃ later, (w.run acts).accepted = w.accepted ++ later ∧
        ∀ e ∈ later, w.buffer.nextId ≤ e.id from h.2
  refine run_induction (fun w' => w.buffer.nextId ≤ w'.buffer.nextId ∧
    ∃ later, w'.accepted = w.accepted ++ later ∧ ∀ e ∈ later, w.buffer.nextId ≤ e.id)
    (fun _ => true) ?_ (fun _ _ => rfl) ⟨Nat.le_refl _, [], by simp, by simp⟩
  rintro w' a - ⟨hnext, later, haccepted, hlater⟩
  by_cases henqueue : ∃ f now, a = .enqueue f now
  · obtain ⟨f, now, rfl⟩ := henqueue
    rcases w'.perform_enqueue f now with ⟨-, h⟩ | ⟨b, storage, hb, h⟩
    · rw [h]
      refine ⟨Nat.le_succ_of_le hnext, later ++ [Entry.ofFields w'.buffer.nextId f now], ?_, ?_⟩
      · rw [haccepted, List.append_assoc]
      · intro e he
        rcases List.mem_append.1 he with he | he
        · exact hlater e he
        · obtain rfl := List.mem_singleton.1 he
          exact hnext
    · rw [h]
      refine ⟨?_, later, haccepted, hlater⟩
      rcases hb with rfl | rfl <;> exact hnext
  · have hother : ∀ f now, a ≠ .enqueue f now := fun f now h => henqueue ⟨f, now, h⟩
    rw [w'.perform_accepted hother, w'.perform_nextId hother]
    exact ⟨hnext, later, haccepted, hlater⟩

theorem vetted_perform {w : Custody} (hw : w.Vetted) (a : Act) : (w.perform a).Vetted := by
  by_cases henqueue : ∃ f now, a = .enqueue f now
  · obtain ⟨f, now, rfl⟩ := henqueue
    rcases w.perform_enqueue f now with ⟨hrefusal, h⟩ | ⟨b, storage, -, h⟩
    · have hfields := (f.fault?_eq_none_iff).1 ((w.buffer.refusal?_eq_none_iff f).1 hrefusal).1
      rw [h]
      intro e he
      rcases List.mem_append.1 he with he | he
      · exact hw e he
      · obtain rfl := List.mem_singleton.1 he
        exact hfields
    · rw [h]
      exact hw
  · unfold Vetted
    rw [w.perform_accepted fun f now h => henqueue ⟨f, now, h⟩]
    exact hw

/-! ## Every moment -/

/-- The buffer is well-formed, and every entry has admissible fields, whether it is queued, in
flight, in a hand or anywhere else. -/
structure Sound (w : Custody) : Prop where
  buffer : w.buffer.WellFormed
  entries : ∀ p, ∀ e ∈ w.entriesAt p, e.fields.Admissible

/-- The queue is no longer than the list of all entries that were accepted. -/
theorem Conserved.size_le {w : Custody} (hw : w.Conserved) :
    w.buffer.size ≤ w.buffer.metrics.totalIngested := by
  have haccepted : w.accepted.length = w.buffer.metrics.totalIngested := by
    simpa using congrArg List.length hw.ids
  have hall : w.entries.length = w.accepted.length := hw.perm.length_eq
  have hqueue : w.buffer.size ≤ w.entries.length := by
    simp [entries, Place.all, entriesAt, Buffer.size]
  omega

theorem sound_of {w : Custody} (hconserved : w.Conserved) (hgauged : w.buffer.Gauged)
    (hvetted : w.Vetted) : w.Sound := by
  have hentries (p : Place) (e : Entry) (he : e ∈ w.entriesAt p) : e.fields.Admissible :=
    hvetted e (hconserved.perm.mem_iff.1 (List.mem_flatMap.2 ⟨p, p.mem_all, he⟩))
  have hpartitioned := hconserved.partitioned
  have hmemory : w.buffer.metrics.memoryBytes = w.buffer.metrics.queueDepth * 632 := by
    rw [hgauged.memory, hgauged.depth]
    rfl
  have hdepth := hgauged.depth
  have hbounded := hgauged.bounded
  have hsize := hconserved.size_le
  have hnext := hconserved.nextId
  refine { buffer := ?_, entries := hentries }
  exact
    { depth := hdepth
      depth_le := by omega
      memory := hmemory
      capacity := hgauged.capacity
      capacity_pos := hgauged.positive
      nextId := hnext
      distinct := hpartitioned.once .queue
      below := by
        intro e he
        have hgiven := (hpartitioned.given_out .queue e.id (List.mem_map_of_mem he)).2
        omega
      admissible := hentries .queue
      closed := by
        intro hclosed
        have hempty := hgauged.closed hclosed
        have hzero : w.buffer.metrics.queueDepth = 0 := by
          rw [hdepth, Buffer.size, hempty]
          rfl
        exact ⟨hempty, hzero, by omega⟩
      fits := by
        intro hfew
        constructor <;> omega }

/-- What acts of anybody, and deliveries recorded by anybody, can make of a new buffer, with any
storage. -/
inductive Reachable (b : Buffer) : Custody → Prop where
  | opened (storage : Storage) : Reachable b (around b storage)
  | act {w : Custody} (a : Act) : Reachable b w → Reachable b (w.perform a)
  | record {w : Custody} (latency : Float) (now : Int) :
    Reachable b w → Reachable b { w with buffer := w.buffer.markProcessed latency now }

theorem Reachable.run {b : Buffer} {w : Custody} (hw : Reachable b w) (acts : List Act) :
    Reachable b (w.run acts) :=
  run_induction (Reachable b) (fun _ => true) (fun _ a _ h => h.act a) (fun _ _ => rfl) hw

/-- Recording a delivery moves no entry. -/
theorem Conserved.record {w : Custody} (hw : w.Conserved) (latency : Float) (now : Int) :
    Conserved { w with buffer := w.buffer.markProcessed latency now } := by
  refine hw.of_move (fun x => ?_) hw.distinct rfl (Buffer.markProcessed_totalIngested _ _ _)
    (Buffer.markProcessed_nextId _ _ _)
  simp only [count_entries, Buffer.markProcessed_queue, delivered, lost]

/-- Every custody that is reached from a new buffer is sound, and has the capacity that the buffer
was made with. -/
theorem Reachable.sound {capacity : Nat} {now : Int} {b : Buffer}
    (hb : Buffer.create capacity now = .ok b) {w : Custody} (hw : Reachable b w) :
    w.Sound ∧ w.buffer.capacity = capacity := by
  have hall : w.Conserved ∧ w.buffer.Gauged ∧ w.Vetted ∧ w.buffer.capacity = capacity := by
    induction hw with
    | opened storage =>
        have hvetted : (around b storage).Vetted := by simp [Vetted, around]
        have hcapacity : b.capacity = capacity := congrArg Buffer.capacity (Buffer.create_ok hb)
        exact ⟨conserved_around hb storage, Buffer.gauged_create hb, hvetted, hcapacity⟩
    | act a _ ih =>
        obtain ⟨hconserved, hgauged, hvetted, hcapacity⟩ := ih
        exact ⟨conserved_perform hconserved a, gauged_perform hgauged a, vetted_perform hvetted a,
          (perform_untouched _ a).capacity.trans hcapacity⟩
    | record latency now _ ih =>
        obtain ⟨hconserved, hgauged, hvetted, hcapacity⟩ := ih
        exact ⟨hconserved.record latency now, hgauged.markProcessed latency, hvetted,
          (Buffer.markProcessed_capacity _ _ _).trans hcapacity⟩
  obtain ⟨hconserved, hgauged, hvetted, hcapacity⟩ := hall
  exact ⟨sound_of hconserved hgauged hvetted, hcapacity⟩

end Custody

end LogSpool
