import LogSpool.Proofs.Engine.Acceptance
import LogSpool.Proofs.Station.Loss
import LogSpool.Proofs.Station.Move
import LogSpool.Proofs.Station.Report

/-!
# How a drain goes

This module follows the batches that are run before an engine is closed, one after the other until one
delivers nothing or fails.  The number that a drain is answered with is added up over all of them; the
last one, if it fails, adds what its error carries.

* `stopIn`, `lossOf` — the error that stopped a drain, and what was lost with it.
* `Drains` — how a drain goes, batch by batch.
* `Drains.keeps`, `Drains.closings` — what every batch keeps, a drain keeps.
* `Drains.reports`, `Drains.losses` — what a drain reports and what it loses.
-/

namespace LogSpool

/-- The error that stopped a drain, where it is what the journal tells last. -/
def stopIn : List Event → Option EngineError
  | .drainStopped why :: _ => some why
  | _ => none

/-- How many entries a drain lost if it stopped with this error. -/
def lossOf : Option EngineError → Nat
  | some (.requeueLoss _ _ _ _) => 1
  | _ => 0

theorem lossOf_of_ne {why : EngineError}
    (h : ∀ id processed reason cause, why ≠ .requeueLoss id processed reason cause) :
    lossOf (some why) = 0 := by
  cases why with
  | requeueLoss id processed reason cause => exact absurd rfl (h id processed reason cause)
  | _ => rfl

/-! ## Batches of a drain -/

namespace Station

variable {σ : Type} [Sink σ] {intrude : Station σ → Intrusion → Station σ} {maxItems : Nat}
  {s s' : Station σ}

/-- A batch that is answered ends with the event that says so. -/
theorem answered_journal {report : BatchReport}
    (h : s.process intrude maxItems = (.answered report, s')) : stopIn s'.journal = none := by
  rcases hend : s.deliver intrude s.clock.elapsed (s.batchLimit maxItems) 0 with
    ⟨n | why | _, s₁⟩
  · rcases process_of_answered hend with ⟨-, hs⟩ | ⟨-, -, hs⟩ | ⟨-, -, hs⟩
    · obtain ⟨-, rfl⟩ := Prod.mk.inj (hs.symm.trans h)
      rfl
    · cases hs.symm.trans h
    · obtain ⟨-, rfl⟩ := Prod.mk.inj (hs.symm.trans h)
      rfl
  · cases (process_of_failed hend).symm.trans h
  · cases (process_of_abandoned hend).symm.trans h

/-- A batch that is answered loses nothing, and one that fails loses as much as its error says. -/
theorem process_lost (h : OnlyProduces intrude s.busy) {w : Custody} (hgauged : w.buffer.Gauged)
    (hdescribes : w.Describes (fun _ _ => True) s) {result : Outcome BatchReport}
    (hprocess : s.process intrude maxItems = (result, s')) :
    ∃ lost, s'.lostIds = s.lostIds ++ lost ∧ lost.length ≤ 1 ∧
      (∀ report, result = .answered report → lost = []) ∧
      ∀ why, result = .failed why → lost.length = lossOf (some why) := by
  have hlosses := process_losses maxItems h (hdescribes.buffer ▸ hgauged)
  rw [hprocess] at hlosses
  cases hlosses with
  | nothing hnothing hno =>
      refine ⟨[], by rw [hnothing, List.append_nil], by simp, fun _ _ => rfl, ?_⟩
      rintro why rfl
      exact (lossOf_of_ne fun id processed reason cause hwhy =>
        hno id processed reason cause (congrArg Outcome.failed hwhy)).symm
  | @one t e hoffers hloses =>
      refine ⟨[e.id], hloses.lost, Nat.le_refl 1, ?_, ?_⟩
      · rintro report rfl
        rcases hloses.outcome with houtcome | ⟨processed, reason, why, houtcome⟩ <;> cases houtcome
      · rintro why rfl
        rcases hloses.outcome with houtcome | ⟨processed, reason, cause, houtcome⟩
        · cases houtcome
        · rw [Outcome.failed.inj houtcome]
          rfl

/-- As long as the buffer is open, a batch reports the deliveries that the sink accepted. -/
theorem process_counts {P : Recorded σ → Prop} {allowed : Intrusion → Prop}
    {intrude : Station (Recorded σ) → Intrusion → Station (Recorded σ)} {s s' : Station (Recorded σ)}
    (hkeeps : Keeps intrude true allowed P fun b => b.isOpen = true)
    (hs : s.Holds true P fun b => b.isOpen = true) {result : Outcome BatchReport}
    (hprocess : s.process intrude maxItems = (result, s')) :
    ∃ made, s'.sink.record = s.sink.record ++ made ∧
      ∀ n, result.reported? = some n → n = acceptedIn made := by
  have h : OnlyProduces intrude s.busy := hkeeps.produces.of_eq hs.busy
  have hloop : Delivers intrude s.clock.elapsed (s.batchLimit maxItems) 0 s _ _ :=
    deliver_delivers _ _ _ _
  obtain ⟨made, hmade, -, -⟩ := hloop.reports h
  have hleft := hloop.keeps hkeeps hs
  obtain ⟨hreports, -⟩ := process_accounted maxItems h
  rw [← process_record maxItems h] at hmade
  rw [Recorded.since_eq hmade] at hreports
  rw [hprocess] at hmade hreports
  -- only a buffer that is closed cuts a batch short
  exact ⟨made, hmade, hreports.2 fun hcut =>
    absurd (hleft.buffer.symm.trans hcut.closed) (by decide)⟩

end Station

namespace Engine

open Station (answered_journal)

variable {σ : Type} [Sink σ] {P : σ → Prop}

/-! ## Drains -/

section

variable {intrude : Station σ → Intrusion → Station σ} {batch : Nat}

/-- How a drain goes that may run some number of batches, after some entries have been delivered. -/
inductive Drains (intrude : Station σ → Intrusion → Station σ) (batch : Nat) :
    Nat → Nat → Station σ → Outcome Nat → Station σ → Prop
  | exhausted {drained : Nat} {s : Station σ} :
    Drains intrude batch 0 drained s (.answered drained) s
  | empty {fuel drained : Nat} {report : BatchReport} {s s' : Station σ} :
    s.process intrude batch = (.answered report, s') → report.processed = 0 →
    Drains intrude batch (fuel + 1) drained s (.answered drained) s'
  | more {fuel drained : Nat} {report : BatchReport} {s s' s'' : Station σ}
    {outcome : Outcome Nat} :
    s.process intrude batch = (.answered report, s') → report.processed ≠ 0 →
    Drains intrude batch fuel (drained + report.processed) s' outcome s'' →
    Drains intrude batch (fuel + 1) drained s outcome s''
  | stopped {fuel drained : Nat} {why : EngineError} {s s' : Station σ} :
    s.process intrude batch = (.failed why, s') →
    Drains intrude batch (fuel + 1) drained s (.answered (drained + why.processed))
      (s'.record (.drainStopped why))
  | abandoned {fuel drained : Nat} {s s' : Station σ} :
    s.process intrude batch = (.abandoned, s') →
    Drains intrude batch (fuel + 1) drained s .abandoned s'

theorem drain_drains (fuel drained : Nat) (s : Station σ) :
    Drains intrude batch fuel drained s (drain intrude batch fuel drained s).1
      (drain intrude batch fuel drained s).2 := by
  induction fuel generalizing drained s with
  | zero => exact .exhausted
  | succ fuel ih =>
      unfold drain
      rcases hend : s.process intrude batch with ⟨report | why | _, s'⟩
      · dsimp only
        split
        · next hzero => exact .empty hend hzero
        · next hsome => exact .more hend hsome (ih _ s')
      · exact .stopped hend
      · exact .abandoned hend

/-- The batches that are run before an engine is closed are a drain. -/
theorem finalDrain_drains (e : Engine σ) : Drains (Engine.intrude e.config) e.config.processBatchSize
    drainLimit 0 { e.station with busy := true } e.finalDrain.1 e.finalDrain.2 :=
  drain_drains drainLimit 0 _

namespace Drains

variable {fuel drained : Nat} {s s' : Station σ} {outcome : Outcome Nat}

/-- What every batch keeps, a drain keeps. -/
theorem keeps {allowed : Intrusion → Prop} {Q : Buffer → Prop}
    (h : Station.Keeps intrude true allowed P Q)
    (hdrain : Drains intrude batch fuel drained s outcome s') (hs : s.Holds true P Q) :
    s'.Holds true P Q := by
  have hbatch {s s' : Station σ} {result : Outcome BatchReport} (hs : s.Holds true P Q)
      (hprocess : s.process intrude batch = (result, s')) : s'.Holds true P Q := by
    have hkept := Station.process_keeps h batch hs
    rwa [hprocess] at hkept
  induction hdrain with
  | exhausted => exact hs
  | empty hprocess _ => exact hbatch hs hprocess
  | more hprocess _ _ ih => exact ih (hbatch hs hprocess)
  | stopped hprocess =>
      have hkept := hbatch hs hprocess
      exact ⟨hkept.busy, hkept.sink, hkept.buffer⟩
  | abandoned hprocess => exact hbatch hs hprocess

/-- A drain loses nothing unless it stops on a loss or is given up, and then one entry at most. -/
theorem losses (hdrain : Drains intrude batch fuel drained s outcome s')
    (h : Station.OnlyProduces intrude s.busy) {w : Custody} (hgauged : w.buffer.Gauged)
    (hdescribes : w.Describes (fun _ _ => True) s)
    (hstart : fuel = 0 → stopIn s.journal = none) :
    ∃ lost, s'.lostIds = s.lostIds ++ lost ∧ lost.length ≤ 1 ∧
      ∀ n, outcome = .answered n → lost.length = lossOf (stopIn s'.journal) := by
  -- the custody moves on with each batch, so that it describes where the next one begins
  induction hdrain generalizing w with
  | exhausted => exact ⟨[], (List.append_nil _).symm, by simp, fun _ _ => by simp [hstart, lossOf]⟩
  | empty hprocess _ =>
      obtain ⟨lost, hlost, -, hanswered, -⟩ := Station.process_lost h hgauged hdescribes hprocess
      obtain rfl := hanswered _ rfl
      exact ⟨[], hlost, by simp, fun _ _ => by simp [answered_journal hprocess, lossOf]⟩
  | more hprocess _ _ ih =>
      obtain ⟨lost, hlost, -, hanswered, -⟩ := Station.process_lost h hgauged hdescribes hprocess
      obtain rfl := hanswered _ rfl
      have hfollows := Station.process_follows Sink.tracks_true batch h
      rw [hprocess] at hfollows
      obtain ⟨acts, -, hrun⟩ := hfollows.course
      have hrest := ih (h.of_eq hfollows.busy) (Custody.gauged_run hgauged acts)
        (hrun w hdescribes) fun _ => answered_journal hprocess
      rwa [hlost, List.append_nil] at hrest
  | @stopped _ _ why _ s' hprocess =>
      obtain ⟨lost, hlost, hle, -, hfailed⟩ := Station.process_lost h hgauged hdescribes hprocess
      have hrecord : (s'.record (.drainStopped why)).lostIds = s'.lostIds :=
        ((Station.Beside.refl s').record rfl).lostIds
      exact ⟨lost, hrecord.trans hlost, hle, fun _ _ => hfailed why rfl⟩
  | abandoned hprocess =>
      obtain ⟨lost, hlost, hle, -⟩ := Station.process_lost h hgauged hdescribes hprocess
      exact ⟨lost, hlost, hle, fun _ houtcome => by cases houtcome⟩

/-- As long as the buffer is open, a drain reports the deliveries that the sink accepted, in all its
batches together. -/
theorem reports {P : Recorded σ → Prop} {allowed : Intrusion → Prop}
    {intrude : Station (Recorded σ) → Intrusion → Station (Recorded σ)} {s s' : Station (Recorded σ)}
    (hkeeps : Station.Keeps intrude true allowed P fun b => b.isOpen = true)
    (hdrain : Drains intrude batch fuel drained s outcome s')
    (hs : s.Holds true P fun b => b.isOpen = true) :
    ∃ made, s'.sink.record = s.sink.record ++ made ∧
      ∀ n, outcome = .answered n → n = drained + acceptedIn made := by
  induction hdrain with
  | exhausted =>
      refine ⟨[], (List.append_nil _).symm, fun n hn => ?_⟩
      rw [← Outcome.answered.inj hn]
      rfl
  | empty hprocess hzero =>
      obtain ⟨made, hmade, hcount⟩ := Station.process_counts hkeeps hs hprocess
      refine ⟨made, hmade, fun n hn => ?_⟩
      rw [← Outcome.answered.inj hn, ← hcount _ rfl, hzero, Nat.add_zero]
  | more hprocess _ hrest ih =>
      obtain ⟨made, hmade, hcount⟩ := Station.process_counts hkeeps hs hprocess
      have hkept := Station.process_keeps hkeeps batch hs
      rw [hprocess] at hkept
      obtain ⟨made', hmade', hcount'⟩ := ih hkept
      refine ⟨made ++ made', by rw [hmade', hmade, List.append_assoc], fun n hn => ?_⟩
      rw [hcount' n hn, hcount _ rfl, acceptedIn, acceptedIn, acceptedIn, List.countP_append,
        Nat.add_assoc]
  | stopped hprocess =>
      obtain ⟨made, hmade, hcount⟩ := Station.process_counts hkeeps hs hprocess
      refine ⟨made, hmade, fun n hn => ?_⟩
      rw [← Outcome.answered.inj hn, ← hcount _ rfl]
  | abandoned hprocess =>
      obtain ⟨made, hmade, -⟩ := Station.process_counts hkeeps hs hprocess
      exact ⟨made, hmade, fun n hn => by cases hn⟩

/-- No drain closes the sink. -/
theorem closings {intrude : Station (Traced σ) → Intrusion → Station (Traced σ)}
    {s s' : Station (Traced σ)} (hdrain : Drains intrude batch fuel drained s outcome s')
    (h : Station.OnlyErrands intrude s.busy) :
    closingsIn s'.sink.trace = closingsIn s.sink.trace := by
  have hbatch {s s' : Station (Traced σ)} {result : Outcome BatchReport}
      (h : Station.OnlyErrands intrude s.busy) (hprocess : s.process intrude batch = (result, s')) :
      Station.Moves s s' := by
    have hmoves := Station.process_moves batch h
    rwa [hprocess] at hmoves
  induction hdrain with
  | exhausted => rfl
  | empty hprocess _ => exact (hbatch h hprocess).closings
  | more hprocess _ _ ih =>
      have hmoves := hbatch h hprocess
      exact (ih (h.of_eq hmoves.busy)).trans hmoves.closings
  | stopped hprocess => exact (hbatch h hprocess).closings
  | abandoned hprocess => exact (hbatch h hprocess).closings

end Drains

end

end Engine

end LogSpool
