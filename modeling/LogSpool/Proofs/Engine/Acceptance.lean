import LogSpool.Proofs.Engine.Outage
import LogSpool.Proofs.Session.Representation
import LogSpool.Proofs.Station.Kept

/-!
# Whether an entry was taken

This module says what a producer can tell from the outcome of handing in an entry.  The outcome
joins two things: whether the entry was accepted, and how the batch ended that may be due then.
Both can fail, and the errors are of one type; but a batch whose buffer stays open never fails with
an error of the kinds that a refusal has.  An engine hands its buffer to nobody, so a sink can come
back to it as a producer, and can wait, but cannot close the buffer.

* `processAlone_failed`, `processAlone_quiet` — what a batch fails with as long as nobody closes the
  buffer, and that it takes no entry in if nobody hands one in.
* `Refused`, `Accepted`, `Concludes` — what a refusal leaves, what an acceptance adds, and how the
  call ends after it.
* `addLog_outcome_tells` — the kind of the outcome tells which of the two it was.
-/

namespace LogSpool

variable {σ : Type} [Sink σ] {P : σ → Prop}

/-! ## Outcomes -/

namespace Outcome

/-- The outcomes that tell that an entry was refused: the fields break a rule, there is no room, the
buffer is closed, or there is no storage. -/
def TellsRefusal {α : Type} (outcome : Outcome α) : Prop :=
  ∃ why, outcome = .failed why ∧
    (why.kind = .validationError ∨ why.kind = .capacityExceeded ∨ why.kind = .notInitialized ∨
      why.kind = .allocationFailure)

/-- The outcomes that tell that an entry was taken: an answer, an error of a delivery, or that the
call was given up. -/
def TellsAcceptance {α : Type} (outcome : Outcome α) : Prop :=
  (∃ a, outcome = .answered a) ∨
    (∃ why, outcome = .failed why ∧
      (why.kind = .persistenceError ∨ why.kind = .requeueLoss)) ∨
    outcome = .abandoned

/-- No outcome tells both. -/
theorem TellsRefusal.not_acceptance {α : Type} {outcome : Outcome α} (h : outcome.TellsRefusal) :
    ¬ outcome.TellsAcceptance := by
  obtain ⟨why, rfl, hkind⟩ := h
  rintro (⟨a, ha⟩ | ⟨why', hwhy, hkind'⟩ | habandoned)
  · simp at ha
  · obtain rfl := Outcome.failed.inj hwhy
    rcases hkind with hkind | hkind | hkind | hkind <;> simp [hkind] at hkind'
  · simp at habandoned

/-- An outcome that fails in a delivery at most tells that the entry was taken. -/
theorem tellsAcceptance_of_delivery {α : Type} {outcome : Outcome α}
    (h : ∀ why, outcome = .failed why → why.isRefusal = false) : outcome.TellsAcceptance := by
  cases outcome with
  | answered a => exact Or.inl ⟨a, rfl⟩
  | failed why =>
      have hdelivery := h why rfl
      refine Or.inr (Or.inl ⟨why, rfl, ?_⟩)
      cases why with
      | persistence id processed why => exact Or.inl rfl
      | requeueLoss id processed reason why => exact Or.inr rfl
      | _ => simp [EngineError.isRefusal] at hdelivery
  | abandoned => exact Or.inr (Or.inr rfl)

end Outcome

/-- A refusal is of one of four kinds. -/
theorem Buffer.refusal?_kind {b : Buffer} {f : Fields} {shortage : Option Shortage}
    {why : EngineError} (h : b.refusal? f shortage = some why) :
    why.kind = .validationError ∨ why.kind = .capacityExceeded ∨ why.kind = .notInitialized ∨
      why.kind = .allocationFailure := by
  unfold refusal? at h
  cases hfault : f.fault? with
  | some fault =>
      simp only [hfault, Option.some.injEq] at h
      exact Or.inl (by rw [← h]; rfl)
  | none =>
      simp only [hfault] at h
      split at h
      · exact Or.inr (Or.inr (Or.inl (by rw [← Option.some.inj h]; rfl)))
      · split at h
        · exact Or.inr (Or.inl (by rw [← Option.some.inj h]; rfl))
        · obtain ⟨short, -, rfl⟩ := Option.map_eq_some_iff.1 h
          exact Or.inr (Or.inr (Or.inr rfl))

namespace Station

variable (config : EngineConfig) (intrude : Station σ → Intrusion → Station σ) (f : Fields)
  {s : Station σ}

/-! ## The batch -/

/-- An entry that is handed in while the engine is busy starts no batch and closes nothing. -/
theorem addLog_isOpen (hbusy : s.busy = true) :
    (s.addLog config intrude f).2.buffer.isOpen = s.buffer.isOpen := by
  obtain ⟨hbeside, ⟨why, -, hsame | hcount, h⟩ | ⟨-, -, haccept, ⟨-, h⟩ | ⟨-, h⟩⟩⟩ :=
    s.addLog_exits config intrude f
  · rw [h, hsame]
  · rw [h, hcount, Buffer.countError_isOpen]
  · rw [h, haccept, Buffer.accept_isOpen]
  · -- the batch that is due is not started
    have hstill := hbeside.busy.trans hbusy
    rw [h, dueBatch_of_busy config intrude hstill]
    change (s.enqueue f.withDefaults).2.buffer.isOpen = s.buffer.isOpen
    rw [haccept, Buffer.accept_isOpen]

/-- Whatever a sink does to an engine that is busy, short of closing the buffer, leaves it open. -/
theorem intrudeThrough_isOpen (depth : Nat) {i : Intrusion} (hi : i ≠ .close)
    (hbusy : s.busy = true) :
    (intrudeThrough config depth s i).buffer.isOpen = s.buffer.isOpen := by
  cases depth with
  | zero => rfl
  | succ depth =>
      cases i with
      | add f => exact addLog_isOpen config _ f hbusy
      | fill f =>
          refine (fillThrough_induction
            (P := fun t => t.busy = true ∧ t.buffer.isOpen = s.buffer.isOpen) config f ?_ _
            ⟨hbusy, rfl⟩).2
          rintro t ⟨hbusy', hopen⟩
          exact ⟨(addLog_errands config f hbusy').aside.busy.trans hbusy',
            (addLog_isOpen config _ f hbusy').trans hopen⟩
      | close => exact absurd rfl hi
      | wait micros => rfl
      | setWall ms => rfl

/-- During a batch, a sink that does not close the buffer leaves it open. -/
theorem keeps_isOpen (hconfined : Sink.Confined (· ≠ .close) P) :
    Keeps (Engine.intrude config) true (· ≠ .close) P fun b => b.isOpen = true where
  produces := Engine.intrude_onlyProduces config
  confined := hconfined
  kept := Buffer.kept_isOpen
  intrude hi hbusy hopen := (intrudeThrough_isOpen config Engine.nesting hi hbusy).trans hopen

/-- During a batch, a sink that only waits hands no entry in. -/
theorem keeps_totalIngested (hconfined : Sink.Confined (·.isWait = true) P) (n : Nat) :
    Keeps (Engine.intrude config) true (·.isWait = true) P
      fun b => b.metrics.totalIngested = n where
  produces := Engine.intrude_onlyProduces config
  confined := hconfined
  kept := Buffer.kept_totalIngested n
  intrude := by
    intro s i hi _ hcount
    cases i with
    | wait micros => exact hcount
    | setWall ms => exact hcount
    | _ => simp [Intrusion.isWait] at hi

/-- As long as nobody closes the buffer, a batch fails in a delivery only. -/
theorem processAlone_failed (hconfined : Sink.Confined (· ≠ .close) P) {maxItems : Nat}
    (hidle : s.busy = false) (hopen : s.buffer.isOpen = true) (hsink : P s.sink)
    {why : EngineError}
    (h : (s.processAlone (Engine.intrude config) maxItems).1 = .failed why) :
    why.isRefusal = false := by
  let running : Station σ := { s with busy := true }
  have hholds : running.Holds true P fun b => b.isOpen = true := ⟨rfl, hsink, hopen⟩
  rcases hprocess : running.process (Engine.intrude config) maxItems with ⟨outcome, t⟩
  have houtcome : outcome = .failed why := by
    rw [processAlone, hidle] at h
    simpa only [Bool.false_eq_true, if_false, running, hprocess] using h
  have hloop : Delivers (Engine.intrude config) running.clock.elapsed
      (running.batchLimit maxItems) 0 running _ _ := deliver_delivers _ _ _ _
  rw [process_failed (houtcome ▸ hprocess)] at hloop
  rcases hloop.failed rfl with hdelivery | hclosed
  · exact hdelivery
  · have hstill := hloop.keeps (keeps_isOpen config hconfined) hholds
    exact absurd (hclosed.symm.trans hstill.buffer) (by decide)

/-- As long as the sink only waits, a batch takes no entry in. -/
theorem processAlone_quiet (hconfined : Sink.Confined (·.isWait = true) P) (maxItems : Nat)
    (hidle : s.busy = false) (hsink : P s.sink) :
    (s.processAlone (Engine.intrude config) maxItems).2.buffer.metrics.totalIngested =
      s.buffer.metrics.totalIngested := by
  let running : Station σ := { s with busy := true }
  have hkeeps := keeps_totalIngested config hconfined s.buffer.metrics.totalIngested
  have hholds : running.Holds true P fun b =>
      b.metrics.totalIngested = s.buffer.metrics.totalIngested := ⟨rfl, hsink, rfl⟩
  rw [processAlone, hidle]
  exact (process_keeps hkeeps maxItems hholds).buffer

/-! ## What the outcome tells -/

variable (s)

/-- What a refusal leaves: the call has done no more than to hand the entry in, which is done
without any sink, and neither the queue nor a number has changed. -/
structure Refused (after : Station σ) : Prop where
  only : after = (s.enqueue f.withDefaults).2
  sink : after.sink = s.sink
  queue : after.buffer.queue = s.buffer.queue
  nextId : after.buffer.nextId = s.buffer.nextId
  totalIngested : after.buffer.metrics.totalIngested = s.buffer.metrics.totalIngested
  totalProcessed : after.buffer.metrics.totalProcessed = s.buffer.metrics.totalProcessed

/-- What an acceptance adds, before any batch: one entry at the tail of the queue, under the next
number, with the texts that were handed in and the defaults for empty ones. -/
structure Accepted (taken : Station σ) : Prop where
  only : taken = (s.enqueue f.withDefaults).2
  sink : taken.sink = s.sink
  queue : taken.buffer.queue = s.buffer.queue ++
    [⟨s.buffer.metrics.totalIngested + 1, if f.level = "" then "INFO" else f.level,
      if f.source = "" then "api" else f.source, f.message, s.now⟩]
  nextId : taken.buffer.nextId = s.buffer.nextId + 1
  totalIngested : taken.buffer.metrics.totalIngested = s.buffer.metrics.totalIngested + 1
  totalProcessed : taken.buffer.metrics.totalProcessed = s.buffer.metrics.totalProcessed

/-- How a call ends that has taken an entry under a number.  Below the threshold the number is the
answer.  Else one batch runs, and unless it is answered its outcome is the outcome of the call. -/
inductive Concludes (id : Nat) : Outcome Nat → Station σ → Prop where
  | below (hbelow : s.buffer.size < config.autoProcessThreshold) :
      Concludes id (.answered id) s
  | batch (hreached : config.autoProcessThreshold ≤ s.buffer.size) :
      Concludes id ((s.dueBatch config intrude).1.map fun _ => id) (s.dueBatch config intrude).2

variable {config intrude f s}

omit [Sink σ] in
/-- At most an error is counted when an entry is refused. -/
theorem refused_of_left {t : Station σ} (ht : t = (s.enqueue f.withDefaults).2)
    (hleft : t.buffer = s.buffer ∨ t.buffer = s.buffer.countError) : s.Refused f t := by
  have hsink : t.sink = s.sink := by
    rw [ht]
    exact (Produces.enqueue s f.withDefaults).beside.sink
  rcases hleft with h | h <;>
    exact ⟨ht, hsink, by simp [h], by simp [h], by simp [h], by simp [h]⟩

omit [Sink σ] in
theorem accepted_of_accept (hwellFormed : s.buffer.WellFormed) {t : Station σ}
    (ht : t = (s.enqueue f.withDefaults).2)
    (haccept : t.buffer = s.buffer.accept f.withDefaults s.now) : s.Accepted f t where
  only := ht
  sink := by
    rw [ht]
    exact (Produces.enqueue s f.withDefaults).beside.sink
  queue := by
    rw [haccept, Buffer.accept_queue, hwellFormed.nextId]
    rfl
  nextId := by rw [haccept]; rfl
  totalIngested := by rw [haccept]; rfl
  totalProcessed := by rw [haccept]; rfl

theorem Concludes.answered {id n : Nat} {outcome : Outcome Nat} {after : Station σ}
    (h : s.Concludes config intrude id outcome after) (hanswer : outcome = .answered n) :
    n = id := by
  cases h with
  | below hbelow => exact (Outcome.answered.inj hanswer).symm
  | batch hreached =>
      cases hend : (s.dueBatch config intrude).1 with
      | answered report =>
          rw [hend] at hanswer
          exact (Outcome.answered.inj hanswer).symm
      | failed why => simp [hend, Outcome.map] at hanswer
      | abandoned => simp [hend, Outcome.map] at hanswer

/-- Nothing that comes after an acceptance is like a refusal. -/
theorem Concludes.tells (hconfined : Sink.Confined (· ≠ .close) P) {id : Nat}
    {outcome : Outcome Nat} {after : Station σ}
    (h : s.Concludes config (Engine.intrude config) id outcome after) (hidle : s.busy = false)
    (hopen : s.buffer.isOpen = true) (hsink : P s.sink) : outcome.TellsAcceptance := by
  apply Outcome.tellsAcceptance_of_delivery
  intro why hfailed
  cases h with
  | below hbelow => simp at hfailed
  | batch hreached =>
      have hbatch : (s.dueBatch config (Engine.intrude config)).1 = .failed why := by
        cases hend : (s.dueBatch config (Engine.intrude config)).1 <;>
          simp_all [Outcome.map]
      exact processAlone_failed (s := s.record (.thresholdReached s.buffer.size)) config hconfined
        hidle hopen hsink hbatch

theorem Concludes.quiet (hconfined : Sink.Confined (·.isWait = true) P) {id : Nat}
    {outcome : Outcome Nat} {after : Station σ}
    (h : s.Concludes config (Engine.intrude config) id outcome after) (hidle : s.busy = false)
    (hsink : P s.sink) :
    after.buffer.metrics.totalIngested = s.buffer.metrics.totalIngested := by
  cases h with
  | below hbelow => rfl
  | batch hreached => exact processAlone_quiet config hconfined _ hidle hsink

end Station

namespace Engine

/-- The outcome of handing in an entry tells whether it was taken.  A validation error, an exceeded
capacity, a closed buffer and a want of storage are refusals: no sink was called, and the queue and
the numbers are what they were.  An answer, an error of a delivery and a call that was given up are
acceptances: the call has taken one entry, under the number that follows all accepted ones, which is
the one answered; and an error is that of the one batch that was due.  There is no other outcome,
and an entry is taken exactly if its fields are admissible, the buffer is open and there is room and
storage.  If the sink only waits, no entry but this one has been taken in.

The sink may do anything but close the buffer, which it cannot reach through an engine. -/
theorem addLog_outcome_tells (hconfined : Sink.Confined (· ≠ .close) P) {config : EngineConfig}
    {sink : σ} {clock : Clock} {storage : Storage} {e : Engine σ}
    (he : withSink config sink clock storage = .ok e) (ops : List (Operation σ))
    (hsink : P (e.run ops).station.sink) (f : Fields) :
    let before := (e.run ops).station
    let outcome := ((e.run ops).addLog f).1
    let after := ((e.run ops).addLog f).2.station
    let id := before.buffer.metrics.totalIngested + 1
    (outcome.TellsRefusal ∨ outcome.TellsAcceptance) ∧
    (outcome.TellsAcceptance ↔ f.Admissible ∧ before.buffer.isOpen = true ∧
      before.buffer.size < before.buffer.capacity ∧ before.storage.shortage? = none) ∧
    (outcome.TellsRefusal → before.Refused f after) ∧
    (outcome.TellsAcceptance →
      (∀ n, outcome = .answered n → n = id) ∧
      (∃ taken, before.Accepted f taken ∧
        taken.Concludes e.config (intrude e.config) id outcome after) ∧
      ∀ Q : σ → Prop, Sink.Confined (·.isWait = true) Q → Q before.sink →
        after.buffer.metrics.totalIngested = id) := by
  intro before outcome after id
  obtain ⟨hidle, -⟩ := run_course he ops
  have hwellFormed : before.buffer.WellFormed := run_wellFormed he ops
  have hnext : before.buffer.nextId = id := hwellFormed.nextId
  have hcall : (outcome, after) = before.addLog e.config (intrude e.config) f := by
    simp only [outcome, after, addLog, onStation, e.run_config ops, before]
  have hwhen : before.buffer.refusal? f.withDefaults before.storage.shortage? = none ↔
      f.Admissible ∧ before.buffer.isOpen = true ∧ before.buffer.size < before.buffer.capacity ∧
        before.storage.shortage? = none := by
    rw [Buffer.refusal?_short_eq_none_iff, Buffer.refusal?_eq_none_iff, Fields.fault?_eq_none_iff,
      Fields.withDefaults_admissible_iff, and_assoc, and_assoc]
  obtain ⟨hbeside, ⟨why, hrefusal, hleft, hexit⟩ | ⟨hrefusal, hstorage, haccept, hexit⟩⟩ :=
    before.addLog_exits e.config (intrude e.config) f
  · obtain ⟨houtcome, hafter⟩ := Prod.mk.inj (hcall.trans hexit)
    have htells : outcome.TellsRefusal := ⟨why, houtcome, Buffer.refusal?_kind hrefusal⟩
    refine ⟨Or.inl htells, ⟨fun haccepted => absurd haccepted htells.not_acceptance, ?_⟩,
      fun _ => Station.refused_of_left hafter (hafter ▸ hleft),
      fun haccepted => absurd haccepted htells.not_acceptance⟩
    intro hroom
    have hnone := hwhen.2 hroom
    rw [hrefusal] at hnone
    cases hnone
  · let taken := (before.enqueue f.withDefaults).2
    have hbusy : taken.busy = false := hbeside.busy.trans hidle
    have hopen : taken.buffer.isOpen = true := by
      rw [haccept]
      exact ((before.buffer.refusal?_eq_none_iff _).1 hrefusal).2.1
    have haccepted : before.Accepted f taken :=
      Station.accepted_of_accept hwellFormed rfl haccept
    have hconcludes : taken.Concludes e.config (intrude e.config) id outcome after := by
      rcases hexit with ⟨hbelow, hexit⟩ | ⟨hreached, hexit⟩ <;>
        obtain ⟨houtcome, hafter⟩ := Prod.mk.inj (hcall.trans hexit) <;>
        rw [houtcome, hafter, hnext]
      · exact .below hbelow
      · exact .batch hreached
    have htells : outcome.TellsAcceptance :=
      hconcludes.tells hconfined hbusy hopen (hbeside.sink ▸ hsink)
    have hroom := hwhen.1
      ((before.buffer.refusal?_short_eq_none_iff f.withDefaults).2 ⟨hrefusal, hstorage⟩)
    refine ⟨Or.inr htells, ⟨fun _ => hroom, fun _ => htells⟩,
      fun hrefused => absurd htells hrefused.not_acceptance, fun _ => ?_⟩
    refine ⟨fun n => hconcludes.answered, ⟨taken, haccepted, hconcludes⟩, ?_⟩
    intro Q hwaits hquiet
    exact (hconcludes.quiet hwaits hbusy (hbeside.sink ▸ hquiet)).trans haccepted.totalIngested

/-- The second entry fills the queue up to the threshold.  While the batch that is due delivers the
first one, the sink fills the queue and then refuses: the error is about the first entry, which is
lost, and it tells that the second one was taken. -/
theorem addLog_outcome_tells_of_other_entry :
    let sink : Scripted MemorySink :=
      ⟨[⟨⟨0, none, [.fill ⟨"INFO", "racer", "filler"⟩]⟩, .refuse (.unavailable "")⟩], [], [], [],
        .withRetention 1⟩
    ∃ e, withSink ⟨2, 2, 1, 0⟩ sink ⟨0, 0⟩ = .ok e ∧
      let before := e.run [.addLog ⟨"", "", "a"⟩]
      let call := before.addLog ⟨"", "", "b"⟩
      (∃ reason, call.1 = .failed (.requeueLoss 1 0 reason (.unavailable ""))) ∧
        call.2.station.lostIds = [1] ∧
        ∃ taken, before.station.Accepted ⟨"", "", "b"⟩ taken ∧
          taken.Concludes e.config (intrude e.config) 2 call.1 call.2.station := by
  intro sink
  have he : withSink ⟨2, 2, 1, 0⟩ sink ⟨0, 0⟩ = .ok _ := rfl
  refine ⟨_, he, ?_⟩
  obtain ⟨-, -, -, haccepted⟩ := addLog_outcome_tells Scripted.confined he [.addLog ⟨"", "", "a"⟩]
    (by decide) ⟨"", "", "b"⟩
  refine ⟨⟨_, rfl⟩, rfl, ?_⟩
  exact (haccepted (Or.inr (Or.inl ⟨_, rfl, Or.inr rfl⟩))).2.1

end Engine

end LogSpool
