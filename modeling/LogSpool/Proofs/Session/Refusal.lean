import LogSpool.Proofs.Session.Finality

/-!
# What is refused, and what a refusal leaves

This module says exactly when a buffer refuses an entry, with which error, and what is left behind.  The
fields are checked first, rule by rule; then whether the buffer is open; then whether there is room;
and last whether there is storage.

* `FieldFault.inOrder`, `Fields.Breaks` — the rules in the order in which they are checked, and the
  condition under which fields break each of them; `fault?_eq_find?` says that the check looks for the
  first one that is broken.
* `Buffer.Decides` — what handing in an entry comes to, case by case.
* `Buffer.decides` — every well-formed buffer decides so.
* `enqueue_decides_exactly` — so does every buffer that anybody can bring about.
-/

namespace LogSpool

/-! ## The rules -/

/-- The text of a field, by its name. -/
def Fields.text (f : Fields) (field : String) : String :=
  if field = "level" then f.level else if field = "source" then f.source else f.message

/-- When fields break a rule.  What counts for a length are the bytes of the encoding in UTF-8. -/
def Fields.Breaks (f : Fields) : FieldFault → Prop
  | .emptyMessage => f.message = ""
  | .containsNul field => '\x00' ∈ (f.text field).toList
  | .tooLong field limit => limit < (f.text field).toUTF8.size

instance (f : Fields) (rule : FieldFault) : Decidable (f.Breaks rule) :=
  match rule with
  | .emptyMessage => inferInstanceAs (Decidable (f.message = ""))
  | .containsNul field => inferInstanceAs (Decidable ('\x00' ∈ (f.text field).toList))
  | .tooLong field limit => inferInstanceAs (Decidable (limit < (f.text field).toUTF8.size))

/-- The rules, in the order in which they are checked. -/
def FieldFault.inOrder : List FieldFault :=
  [.emptyMessage, .containsNul "level", .containsNul "source", .containsNul "message",
    .tooLong "level" 15, .tooLong "source" 63, .tooLong "message" 511]

namespace Fields

/-- Fields that break none of the rules. -/
def Obeys (f : Fields) : Prop :=
  ∀ rule ∈ FieldFault.inOrder, ¬ f.Breaks rule

/-- Fields break a rule, and none of those that are checked before it. -/
def BreaksFirst (f : Fields) (rule : FieldFault) : Prop :=
  ∃ before after, FieldFault.inOrder = before ++ rule :: after ∧ f.Breaks rule ∧
    ∀ earlier ∈ before, ¬ f.Breaks earlier

/-- A rule that is checked before others. -/
theorem find?_rule (f : Fields) (rule : FieldFault) (others : List FieldFault) :
    (rule :: others).find? (fun rule => decide (f.Breaks rule)) =
      if f.Breaks rule then some rule else others.find? fun rule => decide (f.Breaks rule) := by
  rw [List.find?_cons]
  by_cases hbreaks : f.Breaks rule <;> simp [hbreaks]

/-- The check looks for the first rule that is broken. -/
theorem fault?_eq_find? (f : Fields) :
    f.fault? = FieldFault.inOrder.find? fun rule => decide (f.Breaks rule) := by
  simp only [FieldFault.inOrder, find?_rule, List.find?_nil]
  simp only [fault?, Breaks, holdsNul_eq_true_iff]
  rfl

theorem fault?_eq_some_iff (f : Fields) (rule : FieldFault) :
    f.fault? = some rule ↔ f.BreaksFirst rule := by
  rw [fault?_eq_find?, List.find?_eq_some_iff_append]
  simp only [BreaksFirst, decide_eq_true_eq, Bool.not_eq_true', decide_eq_false_iff_not]
  constructor
  · rintro ⟨hbreaks, before, after, horder, hbefore⟩
    exact ⟨before, after, horder, hbreaks, hbefore⟩
  · rintro ⟨before, after, horder, hbreaks, hbefore⟩
    exact ⟨hbreaks, before, after, horder, hbefore⟩

theorem fault?_eq_none_iff_obeys (f : Fields) : f.fault? = none ↔ f.Obeys := by
  rw [fault?_eq_find?, List.find?_eq_none]
  simp only [Obeys, decide_eq_true_eq]

theorem breaksFirst_or_obeys (f : Fields) : (∃ rule, f.BreaksFirst rule) ∨ f.Obeys := by
  cases hfault : f.fault? with
  | some rule => exact Or.inl ⟨rule, (f.fault?_eq_some_iff rule).1 hfault⟩
  | none => exact Or.inr (f.fault?_eq_none_iff_obeys.1 hfault)

end Fields

/-! ## Decisions -/

namespace Buffer

/-- What handing in an entry comes to, case by case.  The cases exclude one another, and one of them
holds.  A refusal leaves the buffer as it was, but for one more counted error where there was no room
or no storage. -/
structure Decides (b : Buffer) (f : Fields) (now : Int) (shortage : Option Shortage)
    (result : Except EngineError Nat × Buffer) : Prop where
  broken : ∀ rule, f.BreaksFirst rule → result = (.error (.validation rule.reason), b)
  closed : f.Obeys → b.isOpen = false → result = (.error .notInitialized, b)
  full : f.Obeys → b.isOpen = true → b.size = b.capacity →
    result = (.error (.capacityExceeded b.capacity),
      { b with metrics := { b.metrics with totalErrors := b.metrics.totalErrors + 1 } })
  short : f.Obeys → b.isOpen = true → b.size ≠ b.capacity → ∀ why, shortage = some why →
    result = (.error (.allocationFailure why),
      { b with metrics := { b.metrics with totalErrors := b.metrics.totalErrors + 1 } })
  /-- The entry is appended under the next number, with its texts and the present time; the entries
  before it stay as they were. -/
  accepted : f.Obeys → b.isOpen = true → b.size ≠ b.capacity → shortage = none →
    result = (.ok (b.metrics.totalIngested + 1),
      { b with
        queue := b.queue ++
          [⟨b.metrics.totalIngested + 1, f.level, f.source, f.message, now⟩]
        nextId := b.metrics.totalIngested + 2
        metrics := { b.metrics with
          totalIngested := b.metrics.totalIngested + 1
          queueDepth := b.size + 1
          memoryBytes := (b.size + 1) * 632 } })
  full_iff : (∃ capacity, result.1 = .error (.capacityExceeded capacity)) ↔
    f.Obeys ∧ b.isOpen = true ∧ b.size = b.capacity
  refused : ∀ why, result.1 = .error why → result.2 = b ∨
    (why = .capacityExceeded b.capacity ∨
        ∃ missing, shortage = some missing ∧ why = .allocationFailure missing) ∧
      result.2 = { b with metrics := { b.metrics with totalErrors := b.metrics.totalErrors + 1 } }

variable {b : Buffer}

/-- One of the cases always holds. -/
theorem standing (b : Buffer) (f : Fields) : (∃ rule, f.BreaksFirst rule) ∨
    (f.Obeys ∧ b.isOpen = false) ∨ (f.Obeys ∧ b.isOpen = true ∧ b.size = b.capacity) ∨
      (f.Obeys ∧ b.isOpen = true ∧ b.size ≠ b.capacity) := by
  rcases f.breaksFirst_or_obeys with hbroken | hobeys
  · exact Or.inl hbroken
  · right
    cases b.isOpen with
    | false => exact Or.inl ⟨hobeys, rfl⟩
    | true =>
        right
        by_cases hsize : b.size = b.capacity
        · exact Or.inl ⟨hobeys, rfl, hsize⟩
        · exact Or.inr ⟨hobeys, rfl, hsize⟩

/-- The buffer that has accepted an entry, in all its parts. -/
theorem accept_eq (h : b.WellFormed) (f : Fields) (now : Int) : b.accept f now =
    { b with
      queue := b.queue ++ [⟨b.metrics.totalIngested + 1, f.level, f.source, f.message, now⟩]
      nextId := b.metrics.totalIngested + 2
      metrics := { b.metrics with
        totalIngested := b.metrics.totalIngested + 1
        queueDepth := b.size + 1
        memoryBytes := (b.size + 1) * 632 } } := by
  have hlength (e : Entry) : (b.queue ++ [e]).length = b.size + 1 := by simp [size]
  simp only [accept, withQueue, Metrics.setDepth, Entry.ofFields, h.nextId, hlength]
  rfl

/-- Every well-formed buffer decides so. -/
theorem decides (h : b.WellFormed) (f : Fields) (now : Int) (shortage : Option Shortage) :
    b.Decides f now shortage (b.enqueue f now shortage) := by
  have hfits : b.size ≤ b.capacity := Nat.le_trans (Nat.le_of_eq h.depth.symm) h.depth_le
  have hbroken {rule : FieldFault} (hrule : f.BreaksFirst rule) :
      b.enqueue f now shortage = (.error (.validation rule.reason), b) :=
    enqueue_of_fault ((f.fault?_eq_some_iff rule).2 hrule) now
  have hclosed (hobeys : f.Obeys) (hshut : b.isOpen = false) :
      b.enqueue f now shortage = (.error .notInitialized, b) :=
    enqueue_of_closed hshut (f.fault?_eq_none_iff_obeys.2 hobeys) now
  have hfull (hobeys : f.Obeys) (hopen : b.isOpen = true) (hsize : b.size = b.capacity) :
      b.enqueue f now shortage = (.error (.capacityExceeded b.capacity), b.countError) :=
    enqueue_full (f.fault?_eq_none_iff_obeys.2 hobeys) hopen (Nat.le_of_eq hsize.symm) now
  have hroom (hobeys : f.Obeys) (hopen : b.isOpen = true) (hsize : b.size ≠ b.capacity) :
      b.refusal? f = none := (b.refusal?_eq_none_iff f).2
    ⟨f.fault?_eq_none_iff_obeys.2 hobeys, hopen, Nat.lt_of_le_of_ne hfits hsize⟩
  have hshort (hobeys : f.Obeys) (hopen : b.isOpen = true) (hsize : b.size ≠ b.capacity)
      {why : Shortage} (hwhy : shortage = some why) :
      b.enqueue f now shortage = (.error (.allocationFailure why), b.countError) := by
    rw [hwhy]
    exact enqueue_short (hroom hobeys hopen hsize) now why
  have haccepted (hobeys : f.Obeys) (hopen : b.isOpen = true) (hsize : b.size ≠ b.capacity)
      (hstorage : shortage = none) :
      b.enqueue f now shortage = (.ok (b.metrics.totalIngested + 1), b.accept f now) := by
    rw [hstorage, enqueue, hroom hobeys hopen hsize, h.nextId]
  refine ⟨fun _ => hbroken, hclosed, hfull, fun hobeys hopen hsize why hwhy =>
    hshort hobeys hopen hsize hwhy, fun hobeys hopen hsize hstorage => ?_, ?_, ?_⟩
  · rw [haccepted hobeys hopen hsize hstorage, accept_eq h]
  · constructor
    · rintro ⟨capacity, herror⟩
      -- in every other case the answer is a different one
      rcases b.standing f with ⟨rule, hrule⟩ | ⟨hobeys, hshut⟩ | hfilled | ⟨hobeys, hopen, hsize⟩
      · simp [hbroken hrule] at herror
      · simp [hclosed hobeys hshut] at herror
      · exact hfilled
      · rcases Option.eq_none_or_eq_some shortage with hstorage | ⟨missing, hstorage⟩
        · simp [haccepted hobeys hopen hsize hstorage] at herror
        · simp [hshort hobeys hopen hsize hstorage] at herror
    · rintro ⟨hobeys, hopen, hsize⟩
      exact ⟨b.capacity, congrArg Prod.fst (hfull hobeys hopen hsize)⟩
  · intro why herror
    rcases b.standing f with
      ⟨rule, hrule⟩ | ⟨hobeys, hshut⟩ | ⟨hobeys, hopen, hsize⟩ | ⟨hobeys, hopen, hsize⟩
    · exact Or.inl (congrArg Prod.snd (hbroken hrule))
    · exact Or.inl (congrArg Prod.snd (hclosed hobeys hshut))
    · rw [hfull hobeys hopen hsize] at herror ⊢
      exact Or.inr ⟨Or.inl (Except.error.inj herror).symm, rfl⟩
    · rcases Option.eq_none_or_eq_some shortage with hstorage | ⟨missing, hstorage⟩
      · simp [haccepted hobeys hopen hsize hstorage] at herror
      · rw [hshort hobeys hopen hsize hstorage] at herror ⊢
        exact Or.inr ⟨Or.inr ⟨missing, hstorage, (Except.error.inj herror).symm⟩, rfl⟩

end Buffer

/-! ## Every buffer -/

namespace Desk

variable {σ : Type}

/-- The station after storage was asked for an entry that was given back, and was refused for this
reason. -/
def afterRefusal (d : Desk σ) (why : EngineError) : Station σ :=
  { d.station with storage := d.station.storage.after (.error why : Except EngineError Unit) }

/-- Only where it was storage that was missing have the answers of storage moved on. -/
theorem afterRefusal_eq {d : Desk σ} {why : EngineError}
    (h : d.station.storage = .ample ∨ ∀ missing, why ≠ .allocationFailure missing) :
    d.afterRefusal why = d.station := by
  have hstorage : d.station.storage.after (.error why : Except EngineError Unit) =
      d.station.storage := by
    rcases h with hample | hother
    · exact (Storage.after_ample _ hample).trans hample.symm
    · cases why with
      | allocationFailure missing => exact absurd rfl (hother missing)
      | _ => rfl
  rw [afterRefusal, hstorage]

/-- What is refused at a desk leaves it as it is.  That goes for the buffer, to which any entry may be
given back, and for the whole desk, where the entry that is given back stays in the hand. -/
structure ReturnsIntact (d : Desk σ) : Prop where
  station : ∀ e why s, d.station.requeueFront e = (.error why, s) → s = d.afterRefusal why ∧
    (why = .notInitialized ∧ d.station.buffer.isOpen = false ∨
      why = .capacityExceeded d.station.buffer.capacity ∧
        d.station.buffer.capacity ≤ d.station.buffer.size ∨
      ∃ missing, d.station.storage.shortage? = some missing ∧ why = .allocationFailure missing)
  hand : ∀ hand e why, (d.giveBack hand).1 = .refused e why →
    d.hands.get? hand = some e ∧ (d.giveBack hand).2 = ⟨d.afterRefusal why, d.hands⟩

theorem returnsIntact (d : Desk σ) : d.ReturnsIntact := by
  have hstation (e : Entry) (why : EngineError) (s : Station σ)
      (hrefused : d.station.requeueFront e = (.error why, s)) : s = d.afterRefusal why ∧
      (why = .notInitialized ∧ d.station.buffer.isOpen = false ∨
        why = .capacityExceeded d.station.buffer.capacity ∧
          d.station.buffer.capacity ≤ d.station.buffer.size ∨
        ∃ missing, d.station.storage.shortage? = some missing ∧
          why = .allocationFailure missing) := by
    obtain ⟨answer, s', hs, hexit⟩ := d.station.requeueFront_exits e
    obtain ⟨rfl, rfl⟩ := Prod.mk.inj (hs.symm.trans hrefused)
    cases hexit with
    | closed hclosed => exact ⟨rfl, Or.inl ⟨rfl, hclosed⟩⟩
    | full _ hfull => exact ⟨rfl, Or.inr (Or.inl ⟨rfl, hfull⟩)⟩
    | short _ _ hshort => exact ⟨rfl, Or.inr (Or.inr ⟨_, hshort, rfl⟩)⟩
  refine ⟨hstation, ?_⟩
  intro hand e why hrefused
  unfold giveBack at hrefused ⊢
  cases hget : d.hands.get? hand with
  | none => simp [hget] at hrefused
  | some held =>
      rcases hback : d.station.requeueFront held with ⟨error | u, s⟩
      · simp only [hget, hback, Return.refused.injEq] at hrefused ⊢
        obtain ⟨rfl, rfl⟩ := hrefused
        obtain ⟨rfl, -⟩ := hstation _ _ _ hback
        exact ⟨rfl, rfl⟩
      · simp [hget, hback] at hrefused

end Desk

/-- To hand in an entry is decided exactly, and fails without a trace.  Whoever has acted on the buffer,
and in whatever order, it refuses the entry with the first rule that the fields break; else because it
is closed; else exactly if it holds as many entries as it can; else for want of storage; and else the
entry gets the next number and stands at the tail.  A refusal changes nothing but the count of errors,
and that only where there was no room or no storage.  An entry that is given back and refused changes
nothing at all.

So it is at every moment that acts of anybody lead to; after every session at a desk, where an entry that
is refused when it is given back is still in the hand; and after every session of an engine. -/
theorem enqueue_decides_exactly {capacity : Nat} {now : Int} {b : Buffer}
    (hb : Buffer.create capacity now = .ok b) :
    (∀ w, Custody.Reachable b w → ∀ f time shortage,
      w.buffer.Decides f time shortage (w.buffer.enqueue f time shortage)) ∧
    (∀ (σ : Type) [Sink σ] (sink : σ) (clock : Clock) (batch : Nat) (storage : Storage)
      (requests : List (Desk.Request σ)),
      let d := (Desk.opened b sink clock batch storage).serveAll requests
      (∀ f, d.station.buffer.Decides f d.station.now d.station.storage.shortage?
        ((d.station.enqueue f).1, (d.station.enqueue f).2.buffer)) ∧ d.ReturnsIntact) ∧
    (∀ (σ : Type) [Sink σ] (config : EngineConfig) (sink : σ) (clock : Clock) (storage : Storage)
      (e : Engine σ), Engine.withSink config sink clock storage = .ok e →
      ∀ ops : List (Engine.Operation σ),
      let s := (e.run ops).station
      ∀ f, s.buffer.Decides f s.now s.storage.shortage?
        ((s.enqueue f).1, (s.enqueue f).2.buffer)) := by
  have hstation {σ : Type} {s : Station σ} (hs : s.buffer.WellFormed) (f : Fields) :
      s.buffer.Decides f s.now s.storage.shortage?
        ((s.enqueue f).1, (s.enqueue f).2.buffer) := by
    obtain ⟨hanswer, hbuffer⟩ := s.enqueue_buffer f
    rw [hanswer, hbuffer]
    exact Buffer.decides hs f s.now s.storage.shortage?
  refine ⟨fun w hw f time => Buffer.decides (hw.sound hb).1.buffer f time, ?_, ?_⟩
  · intro σ _ sink clock batch storage requests d
    obtain ⟨w, hw, hdescribes⟩ := Desk.serveAll_describes b sink clock batch storage requests
    have hwellFormed : d.station.buffer.WellFormed := hdescribes.buffer ▸ (hw.sound hb).1.buffer
    exact ⟨hstation hwellFormed, d.returnsIntact⟩
  · intro σ _ config sink clock storage e he ops s
    exact hstation (Engine.run_wellFormed he ops)

/-- There is room for one entry, and it is taken by the second one while a caller holds the first.  A
level of eight letters is too long where each of them takes two bytes; fields without a fault are refused
for want of room; and the first entry stays in the hand of the caller. -/
theorem enqueue_decides_exactly_of_taken_place :
    let fields : Fields := ⟨"INFO", "app", "a"⟩
    let wide : Fields := ⟨"éééééééé", "app", "a"⟩
    let b : Buffer := ⟨1, [], 1, .initial 1 0, true⟩
    let d := (Desk.opened b (MemorySink.withRetention 1) ⟨0, 0⟩ 1).serveAll
      [.operation (.station (.enqueue fields)), .operation (.take "left"),
        .operation (.station (.enqueue fields))]
    Buffer.create 1 0 = .ok b ∧
      (d.station.enqueue wide).1 = .error (.validation "level exceeds 15 bytes") ∧
      (d.station.enqueue wide).2.buffer = d.station.buffer ∧
      (d.station.enqueue fields).1 = .error (.capacityExceeded 1) ∧
      (d.station.enqueue fields).2.buffer.metrics.totalErrors = 1 ∧
      (d.giveBack "left").1 = .refused ⟨1, "INFO", "app", "a", 0⟩ (.capacityExceeded 1) ∧
      (d.giveBack "left").2 = d := by
  intro fields wide b d
  have hb : Buffer.create 1 0 = .ok b := rfl
  obtain ⟨hdecides, hintact⟩ := (enqueue_decides_exactly hb).2.1 MemorySink
    (MemorySink.withRetention 1) ⟨0, 0⟩ 1 .ample
    [.operation (.station (.enqueue fields)), .operation (.take "left"),
      .operation (.station (.enqueue fields))]
  have hwide : wide.BreaksFirst (.tooLong "level" 15) := (wide.fault?_eq_some_iff _).1 (by decide)
  have hobeys : fields.Obeys := fields.fault?_eq_none_iff_obeys.1 (by decide)
  have hrefused : (d.giveBack "left").1 =
      .refused ⟨1, "INFO", "app", "a", 0⟩ (.capacityExceeded 1) := by decide
  have hbroken := (hdecides wide).broken _ hwide
  have hfull := (hdecides fields).full hobeys (by decide) (by decide)
  have hcapacity : d.station.buffer.capacity = 1 := by decide
  have herrors : d.station.buffer.metrics.totalErrors = 0 := by decide
  have hanswer : (d.station.enqueue fields).1 = .error (.capacityExceeded 1) := by
    rw [← hcapacity]
    exact congrArg Prod.fst hfull
  have hcounted : (d.station.enqueue fields).2.buffer.metrics.totalErrors = 0 + 1 := by
    rw [← herrors]
    exact congrArg (fun result => result.2.metrics.totalErrors) hfull
  have hsame : d.afterRefusal (.capacityExceeded 1) = d.station :=
    Desk.afterRefusal_eq (Or.inr (by simp))
  have hback : (d.giveBack "left").2 = ⟨d.afterRefusal (.capacityExceeded 1), d.hands⟩ :=
    (hintact.hand _ _ _ hrefused).2
  rw [hsame] at hback
  exact ⟨hb, congrArg Prod.fst hbroken, congrArg Prod.snd hbroken, hanswer, hcounted, hrefused,
    hback⟩

end LogSpool
