import LogSpool.Proofs.Session.Erasure
import LogSpool.Proofs.Station.Offer

/-!
# Moments of a session

This module finds the moments of a session at which a call of a batch is pending.  A buffer with its
processor begins a batch where it is asked to; an engine begins its batches in the midst of its
calls: when it has marked itself busy, when an entry has filled the queue up to the threshold, and
one after the other when it is shut down.

* `Engine.Begins` — the stations at which an engine begins a batch in the course of an operation.
* `Station.AmidRun`, `Engine.AmidRun` — the moments of an operation at which a call of a batch is
  pending.
* `Station.AmidRun.course`, `Engine.AmidRun.course` — what has happened then is the beginning of the
  chronicle of the operation.
-/

namespace LogSpool

variable {σ : Type} {track : List (Delivery × Answer) → σ → Prop}

variable [Sink σ]

/-! ## A buffer with its processor -/

namespace Station

/-- In the midst of an operation a call is pending; the last station is the one at that moment. -/
inductive AmidRun (s : Station σ) : Operation σ → Call → Station σ → Prop where
  | process {maxItems : Nat} {call : Call} {t : Station σ} : Pending intrude maxItems s call t →
    AmidRun s (.process maxItems) call t

/-- While a call is pending its delivery is in flight, and what has happened is the beginning of the
chronicle. -/
theorem AmidRun.course (htrack : Sink.Tracks track) {s t : Station σ} {op : Operation σ} {call : Call}
    (h : s.AmidRun op call t) :
    ∃ before, before <+: s.performActs op ∧
      Custody.LeadsBy before (·.Describes track s) (·.Shows track call.delivery? t) := by
  cases h with
  | process hpending => exact hpending.course htrack (intrude_onlyProducesBy s.busy)

end Station

/-! ## An engine -/

namespace Engine

/-- A drain that may run so many batches comes to a station where it runs the next one. -/
inductive DrainsTo (intrude : Station σ → Intrusion → Station σ) (batch : Nat) :
    Nat → Station σ → Station σ → Prop where
  | first {fuel : Nat} {s : Station σ} : DrainsTo intrude batch (fuel + 1) s s
  | later {fuel : Nat} {s s' t : Station σ} {report : BatchReport} :
    s.process intrude batch = (.answered report, s') → report.processed ≠ 0 →
    DrainsTo intrude batch fuel s' t → DrainsTo intrude batch (fuel + 1) s t

/-- The batches of a drain before the next one, and that one, are the beginning of its chronicle. -/
theorem DrainsTo.course (htrack : Sink.Tracks track) {intrude : Station σ → Intrusion → Station σ}
    {acts : Station σ → Intrusion → List Act} {batch fuel : Nat} {s t : Station σ}
    (hdrains : DrainsTo intrude batch fuel s t) (h : Station.OnlyProducesBy acts intrude s.busy) :
    ∃ before, before ++ t.processActs intrude acts batch <+: s.drainActs intrude acts batch fuel ∧
      Station.FollowsBy track before s t := by
  induction hdrains with
  | first => exact ⟨[], List.prefix_append _ _, .refl _⟩
  | @later fuel s s' t report hprocess hsome _ ih =>
      have hfirst := Station.process_followsBy htrack batch h
      rw [hprocess] at hfirst
      obtain ⟨before, hbefore, hrest⟩ := ih (h.of_eq hfirst.busy)
      refine ⟨_, ?_, hfirst.trans hrest⟩
      rw [Station.drainActs, hprocess, List.append_assoc, List.prefix_append_right_inj]
      dsimp only
      rw [if_neg hsome]
      exact hbefore

/-- In the course of an operation an engine begins a batch that may take so many entries. -/
inductive Begins (e : Engine σ) : Operation σ → Station σ → Nat → Prop where
  | process {maxItems : Nat} : e.station.busy = false →
    Begins e (.process maxItems) { e.station with busy := true } maxItems
  | addLog {f : Fields} {id : Nat} {s : Station σ} : e.station.busy = false →
    e.station.enqueue f.withDefaults = (.ok id, s) →
    e.config.autoProcessThreshold ≤ s.buffer.size →
    Begins e (.addLog f) { s.record (.thresholdReached s.buffer.size) with busy := true }
      e.config.processBatchSize
  | shutdown {s : Station σ} : e.station.busy = false → e.isOpen = true →
    DrainsTo (intrude e.config) e.config.processBatchSize drainLimit
      { e.station with busy := true } s →
    Begins e .shutdown s e.config.processBatchSize

/-- What an operation has done before it begins a batch, and that batch, are the beginning of its
chronicle. -/
theorem Begins.course (htrack : Sink.Tracks track) {e : Engine σ} {op : Operation σ} {s : Station σ}
    {maxItems : Nat} (h : e.Begins op s maxItems) :
    s.busy = true ∧ ∃ before,
      before ++ s.processActs (intrude e.config) (intrudeActs e.config) maxItems <+:
        e.performActs op ∧
      Custody.LeadsBy before (·.Describes track e.station) (·.Describes track s) := by
  cases h with
  | process hidle =>
      refine ⟨rfl, [], ?_, .of_imp fun w hw => hw.mark true⟩
      rw [performActs, Station.processAloneActs, if_neg (by simp [hidle])]
      exact List.prefix_refl _
  | @addLog f id s hidle hs hreached =>
      have henqueue := Station.ProducesBy.enqueue e.station f.withDefaults
      rw [hs] at henqueue
      have hrecord : Station.FollowsBy track [] s (s.record (.thresholdReached s.buffer.size)) :=
        .record s rfl
      have hidle' : s.busy = false := henqueue.beside.busy.trans hidle
      have hmarked := (henqueue.follows.andThen hrecord).course.trans
        (.of_imp fun w hw => hw.mark true)
      refine ⟨rfl, _, ?_, hmarked⟩
      rw [performActs, Station.addLogActs, hs]
      dsimp only
      rw [if_pos hreached, Station.processAloneActs, if_neg (by simp [Station.record, hidle'])]
      exact List.prefix_refl _
  | shutdown hidle hopen hdrains =>
      obtain ⟨before, hbefore, hfollows⟩ := hdrains.course htrack (intrude_onlyProducesBy e.config)
      refine ⟨hfollows.busy, before, ?_, ?_⟩
      · rw [performActs, shutdownActs, if_neg (by simp [hidle]), if_neg (by simp [hopen])]
        exact hbefore.trans (List.prefix_append _ _)
      · exact (Custody.LeadsBy.of_imp fun w hw => hw.mark true).trans hfollows.course

/-- In the midst of an operation a call of a batch is pending; the last station is the one at that
moment. -/
inductive AmidRun (e : Engine σ) : Operation σ → Call → Station σ → Prop where
  | batch {op : Operation σ} {s t : Station σ} {maxItems : Nat} {call : Call} :
    e.Begins op s maxItems → s.Pending (intrude e.config) maxItems call t → AmidRun e op call t

/-- While a call of a batch is pending its delivery is in flight, and what has happened is the
beginning of the chronicle. -/
theorem AmidRun.course (htrack : Sink.Tracks track) {e : Engine σ} {op : Operation σ} {call : Call}
    {t : Station σ} (h : e.AmidRun op call t) :
    ∃ before, before <+: e.performActs op ∧
      Custody.LeadsBy before (·.Describes track e.station) (·.Shows track call.delivery? t) := by
  cases h with
  | batch hbegins hpending =>
      obtain ⟨hbusy, before, hbefore, hbegun⟩ := hbegins.course htrack
      obtain ⟨during, hduring, hshown⟩ :=
        hpending.course htrack ((intrude_onlyProducesBy e.config).of_eq hbusy)
      exact ⟨before ++ during, ((List.prefix_append_right_inj before).2 hduring).trans hbefore,
        hbegun.trans hshown⟩

end Engine

end LogSpool
