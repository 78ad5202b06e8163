import LogSpool.Proofs.Custody.Closed
import LogSpool.Proofs.Custody.Loss
import LogSpool.Proofs.Custody.Order
import LogSpool.Proofs.Sink.Recorded

/-!
# Accounts of a course

This module compares two moments of a course in which only the processor takes entries out, where the
buffer is still open at the later one and no call is pending at either.  The entries that were queued
at first and those that were accepted since are those that the sink took since, those that were lost
since and those that are queued in the end, each of them once.

* `InOrder.accounts` — what becomes of the queue and of the entries that come in.
* `InOrder.lost_of_quiet` — where nothing was accepted, nothing was lost.
-/

namespace LogSpool

namespace Custody

variable {w : Custody}

theorem delivered_eq (w : Custody) : w.delivered = takenOf (w.attempts.map Attempt.call) := by
  rw [takenOf, List.filter_map, List.map_map]
  rfl

/-- The number of all accepted entries is the last number given out. -/
theorem Conserved.accepted_length (hw : w.Conserved) :
    w.accepted.length = w.buffer.metrics.totalIngested := by
  simpa using congrArg List.length hw.ids

theorem Conserved.totalIngested_le (hw : w.Conserved) (acts : List Act) :
    w.buffer.metrics.totalIngested ≤ (w.run acts).buffer.metrics.totalIngested := by
  rw [← hw.accepted_length, ← (conserved_run hw acts).accepted_length]
  exact (w.accepted_prefix_run acts).length_le

/-- While the buffer is open and no call is pending, the numbers given out are those of the entries
that are queued, delivered or lost. -/
theorem InOrder.perm_ids (hw : w.InOrder) (hopen : w.buffer.isOpen = true)
    (hidle : w.inFlight = none) :
    (w.buffer.queue.map Entry.id ++ (w.delivered.map Entry.id ++ w.lost.map Entry.id)).Perm
      (List.range' 1 w.buffer.metrics.totalIngested) := by
  have hplaces : w.entries = w.buffer.queue ++ (w.delivered ++ w.lost) := by
    simp [entries, Place.all, entriesAt, hw.hands, Hands.empty, Hands.entries, hw.thrown, hidle,
      hw.discarded hopen]
  have hperm := hw.conserved.perm.map Entry.id
  rw [hplaces, List.map_append, List.map_append, hw.conserved.ids] at hperm
  exact hperm

/-- The entries that were queued and those that were accepted since have been taken by the sink, or
lost, or are queued. -/
theorem InOrder.accounts (hw : w.InOrder) {acts : List Act}
    (hacts : ∀ a ∈ acts, a.isInternal = true) (hopen : (w.run acts).buffer.isOpen = true)
    (hidle : w.inFlight = none) (hidle' : (w.run acts).inFlight = none)
    {made : List (Delivery × Answer)} (hmade : (w.run acts).attempts.map Attempt.call =
      w.attempts.map Attempt.call ++ made)
    {lost : List Nat} (hlost : (w.run acts).lost.map Entry.id = w.lost.map Entry.id ++ lost) :
    ((takenOf made).map Entry.id ++ lost ++ (w.run acts).buffer.queue.map Entry.id).Perm
      (w.buffer.queue.map Entry.id ++ List.range' (w.buffer.metrics.totalIngested + 1)
        ((w.run acts).buffer.metrics.totalIngested - w.buffer.metrics.totalIngested)) := by
  have hfirst := hw.perm_ids (isOpen_of_run hopen) hidle
  have hlast := (inOrder_run hacts hw).perm_ids hopen hidle'
  have hle := hw.conserved.totalIngested_le acts
  have hdelivered : (w.run acts).delivered = w.delivered ++ takenOf made := by
    rw [delivered_eq, hmade, takenOf_append, ← delivered_eq]
  have hrange : List.range' 1 (w.run acts).buffer.metrics.totalIngested =
      List.range' 1 w.buffer.metrics.totalIngested ++
        List.range' (w.buffer.metrics.totalIngested + 1)
          ((w.run acts).buffer.metrics.totalIngested - w.buffer.metrics.totalIngested) := by
    rw [Nat.add_comm _ 1, List.range'_append_1, Nat.add_sub_cancel' hle]
  rw [hdelivered, List.map_append, hlost, hrange] at hlast
  -- what was delivered and lost before is on both sides
  rw [List.perm_iff_count] at hfirst hlast ⊢
  intro id
  have hbefore := hfirst id
  have hafter := hlast id
  simp only [List.count_append] at hbefore hafter ⊢
  omega

/-- Where nothing was accepted, nothing was lost: the place of an entry in flight stays free, and
there is storage enough. -/
theorem InOrder.lost_of_quiet (hw : w.InOrder) (hgauged : w.buffer.Gauged)
    (hstorage : w.storage = .ample) (hidle : w.inFlight = none) {acts : List Act}
    (hacts : ∀ a ∈ acts, a.isInternal = true) (hopen : (w.run acts).buffer.isOpen = true)
    (hquiet : (w.run acts).buffer.metrics.totalIngested = w.buffer.metrics.totalIngested) :
    (w.run acts).lost = w.lost := by
  induction acts using List.reverseRecOn with
  | nil => rfl
  | append_singleton acts a ih =>
      have hearlier : ∀ a' ∈ acts, a'.isInternal = true :=
        fun a' ha' => hacts a' (List.mem_append_left _ ha')
      rw [run_append] at hopen hquiet
      have hopen' : (w.run acts).buffer.isOpen = true := isOpen_of_run hopen
      have hconserved := conserved_run hw.conserved acts
      have hquiet' : (w.run acts).buffer.metrics.totalIngested =
          w.buffer.metrics.totalIngested := by
        have hle := hw.conserved.totalIngested_le acts
        have hle' := hconserved.totalIngested_le [a]
        omega
      have hsame := ih hearlier hopen' hquiet'
      rcases lost_or_loses hgauged hstorage hidle hearlier a with hlost | ⟨d, hloses⟩
      · rw [hlost, hsame]
      · -- a loss needs a buffer that was closed, or an entry that was accepted in the meantime
        obtain ⟨before, now, during, -, -, hclosed | ⟨-, hgrown⟩⟩ := hloses.cause
        · exact absurd (hopen'.symm.trans hclosed) (by decide)
        · have hle := hw.conserved.totalIngested_le (before ++ [.offer now])
          omega

end Custody

end LogSpool
