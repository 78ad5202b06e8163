import LogSpool.Proofs.Buffer.Operations

/-!
# What holds of every buffer

This module says which fields an accepted entry has, and how the parts of a buffer hang together:
the gauges follow the queue, the queue stays within the capacity, and a closed buffer is empty.
Each operation restates the gauges for itself; here each of them is shown to keep them right.

* `Fields.Admissible` — the limits on the fields, as one condition; `fault?_eq_none_iff` says that
  the check finds no fault exactly then.
* `Buffer.Gauged` — the invariant of a buffer by itself, whoever holds the entries that have left
  it.
-/

namespace LogSpool

/-! ## Admissible fields -/

/-- The fields of an entry that can be accepted: they keep to the limits in bytes, the message is
not empty, and no field holds a NUL. -/
structure Fields.Admissible (f : Fields) : Prop where
  level_le : f.level.utf8ByteSize ≤ 15
  source_le : f.source.utf8ByteSize ≤ 63
  message_pos : 1 ≤ f.message.utf8ByteSize
  message_le : f.message.utf8ByteSize ≤ 511
  level_nul : '\x00' ∉ f.level.toList
  source_nul : '\x00' ∉ f.source.toList
  message_nul : '\x00' ∉ f.message.toList

theorem holdsNul_eq_true_iff (s : String) : holdsNul s = true ↔ '\x00' ∈ s.toList := by
  rw [holdsNul, List.any_eq_true]
  constructor
  · rintro ⟨c, hc, hnul⟩
    exact of_decide_eq_true hnul ▸ hc
  · intro hmem
    exact ⟨_, hmem, rfl⟩

/-- A rule that is checked before others. -/
theorem rule_eq_none_iff {α : Type} {p : Prop} [Decidable p] {fault : α} {others : Option α} :
    (if p then some fault else others) = none ↔ ¬ p ∧ others = none := by
  by_cases hp : p <;> simp [hp]

/-- The check finds no fault exactly in admissible fields. -/
theorem Fields.fault?_eq_none_iff (f : Fields) : f.fault? = none ↔ f.Admissible := by
  have hempty : 1 ≤ f.message.utf8ByteSize ↔ ¬ f.message = "" := by
    rw [← String.utf8ByteSize_eq_zero_iff]
    omega
  -- no fault is found when every rule in turn is passed
  have hrules : f.fault? = none ↔ ¬ f.message = "" ∧ ¬ holdsNul f.level = true ∧
      ¬ holdsNul f.source = true ∧ ¬ holdsNul f.message = true ∧
      f.level.utf8ByteSize ≤ maxLevelBytes ∧ f.source.utf8ByteSize ≤ maxSourceBytes ∧
      f.message.utf8ByteSize ≤ maxMessageBytes := by
    simp only [fault?, rule_eq_none_iff, Nat.not_lt, and_true]
  rw [hrules, holdsNul_eq_true_iff, holdsNul_eq_true_iff, holdsNul_eq_true_iff]
  constructor
  · rintro ⟨hmessage, hlevelNul, hsourceNul, hmessageNul, hlevel, hsource, hlength⟩
    exact ⟨hlevel, hsource, hempty.2 hmessage, hlength, hlevelNul, hsourceNul, hmessageNul⟩
  · intro h
    exact ⟨hempty.1 h.message_pos, h.level_nul, h.source_nul, h.message_nul, h.level_le,
      h.source_le, h.message_le⟩

/-- A property that the default has, and the empty text too, is not affected when an empty text is
filled in. -/
theorem filled_iff (p : String → Prop) (s filling : String) (hfilling : p filling)
    (hempty : p "") : p (if s = "" then filling else s) ↔ p s := by
  split
  · rename_i hs
    rw [hs]
    exact iff_of_true hfilling hempty
  · rfl

/-- The defaults make no fields admissible that are not, and none inadmissible that are. -/
theorem Fields.withDefaults_admissible_iff (f : Fields) :
    f.withDefaults.Admissible ↔ f.Admissible := by
  have hlevel := filled_iff (·.utf8ByteSize ≤ 15) f.level defaultLevel (by decide) (by decide)
  have hsource := filled_iff (·.utf8ByteSize ≤ 63) f.source defaultSource (by decide) (by decide)
  have hlevelNul := filled_iff ('\x00' ∉ ·.toList) f.level defaultLevel (by decide) (by decide)
  have hsourceNul := filled_iff ('\x00' ∉ ·.toList) f.source defaultSource (by decide) (by decide)
  constructor
  · intro h
    exact ⟨hlevel.1 h.level_le, hsource.1 h.source_le, h.message_pos, h.message_le,
      hlevelNul.1 h.level_nul, hsourceNul.1 h.source_nul, h.message_nul⟩
  · intro h
    exact ⟨hlevel.2 h.level_le, hsource.2 h.source_le, h.message_pos, h.message_le,
      hlevelNul.2 h.level_nul, hsourceNul.2 h.source_nul, h.message_nul⟩

/-! ## Gauges -/

namespace Buffer

/-- The gauges of a buffer show its queue, which stays within the capacity; a closed buffer is
empty. -/
structure Gauged (b : Buffer) : Prop where
  depth : b.metrics.queueDepth = b.size
  memory : b.metrics.memoryBytes = b.size * entryFootprint
  capacity : b.metrics.bufferCapacity = b.capacity
  positive : 0 < b.capacity
  bounded : b.size ≤ b.capacity
  closed : b.isOpen = false → b.queue = []

theorem gauged_create {capacity : Nat} {now : Int} {b : Buffer}
    (hb : create capacity now = .ok b) : b.Gauged := by
  have hpositive : capacity ≠ 0 := by
    rintro rfl
    simp [create] at hb
  obtain rfl := create_ok hb
  exact
    { depth := rfl
      memory := (Nat.zero_mul _).symm
      capacity := rfl
      positive := Nat.pos_of_ne_zero hpositive
      bounded := Nat.zero_le _
      closed := fun _ => rfl }

namespace Gauged

variable {b : Buffer} {q : List Entry} {f : Fields} {now : Int}

/-- Another queue that fits into an open buffer. -/
theorem withQueue (h : b.Gauged) (hopen : b.isOpen = true) (hfits : q.length ≤ b.capacity) :
    (b.withQueue q).Gauged where
  depth := rfl
  memory := rfl
  capacity := h.capacity
  positive := h.positive
  bounded := hfits
  closed hclosed := absurd (hopen.symm.trans hclosed) (by decide)

/-- What moves neither the queue nor the gauges keeps them in agreement. -/
theorem of_same {b' : Buffer} (h : b.Gauged) (hqueue : b'.queue = b.queue)
    (hcapacity : b'.capacity = b.capacity) (hopen : b'.isOpen = b.isOpen)
    (hdepth : b'.metrics.queueDepth = b.metrics.queueDepth)
    (hmemory : b'.metrics.memoryBytes = b.metrics.memoryBytes)
    (hgauge : b'.metrics.bufferCapacity = b.metrics.bufferCapacity) : b'.Gauged := by
  have hsize : b'.size = b.size := congrArg List.length hqueue
  exact
    { depth := by rw [hdepth, hsize, h.depth]
      memory := by rw [hmemory, hsize, h.memory]
      capacity := by rw [hgauge, hcapacity, h.capacity]
      positive := hcapacity ▸ h.positive
      bounded := by rw [hsize, hcapacity]; exact h.bounded
      closed := fun hclosed => hqueue.trans (h.closed (hopen ▸ hclosed)) }

theorem countError (h : b.Gauged) : b.countError.Gauged :=
  h.of_same rfl rfl rfl rfl rfl rfl

theorem markProcessed (h : b.Gauged) (latency : Float) : (b.markProcessed latency now).Gauged := by
  unfold Buffer.markProcessed
  split
  · exact h.of_same rfl rfl rfl rfl rfl rfl
  · exact h

theorem markError (h : b.Gauged) : b.markError.Gauged := by
  rcases b.markError_eq with hsame | hcount
  · rw [hsame]
    exact h
  · rw [hcount]
    exact h.countError

/-- An entry is accepted only where there is room for it. -/
theorem accept (h : b.Gauged) (hrefusal : b.refusal? f = none) : (b.accept f now).Gauged := by
  obtain ⟨-, hopen, hroom⟩ := (b.refusal?_eq_none_iff f).1 hrefusal
  have hfits : (b.queue ++ [Entry.ofFields b.nextId f now]).length ≤ b.capacity := by
    simpa [size, Nat.succ_le_iff] using hroom
  exact (h.withQueue hopen hfits).of_same rfl rfl rfl rfl rfl rfl

/-- The queue without its oldest entry. -/
theorem taken (h : b.Gauged) (hopen : b.isOpen = true) {e : Entry} {rest : List Entry}
    (hqueue : b.queue = e :: rest) : (b.withQueue rest).Gauged := by
  have hsize : b.size = rest.length + 1 := by simp [size, hqueue]
  have hbounded := h.bounded
  exact h.withQueue hopen (by omega)

/-- An entry goes back only where there is room for it. -/
theorem returned (h : b.Gauged) (hopen : b.isOpen = true) (hroom : b.size < b.capacity)
    (e : Entry) : (b.withQueue (e :: b.queue)).Gauged :=
  h.withQueue hopen hroom

theorem closed_empty (h : b.Gauged) :
    ({ b.withQueue [] with isOpen := false } : Buffer).Gauged where
  depth := rfl
  memory := rfl
  capacity := h.capacity
  positive := h.positive
  bounded := Nat.zero_le _
  closed _ := rfl

end Gauged

end Buffer

end LogSpool
