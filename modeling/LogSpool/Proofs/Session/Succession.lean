import Mathlib.Data.List.Chain
import LogSpool.Proofs.Custody.Order
import LogSpool.Proofs.Session.Dialogue

/-!
# The succession of deliveries

This module follows the deliveries of a dialogue.  The entries that the sink takes are those with the
numbers from 1 on, each once and in order, and the queue begins with the number that comes next.  An
entry that is refused is at the head of the queue until it is offered again, so that the next delivery
is of the same entry.

* `Succession` — how the deliveries that were made belong to the buffer that is left.
* `Succession.between`, `Succession.round` — every step and every round continues it.
* `Dialogue.succession` — so does every dialogue.
-/

namespace LogSpool

/-- The deliveries among some calls. -/
def deliveriesOf (calls : List (Call × Answer)) : List (Delivery × Answer) :=
  calls.flatMap fun made => made.1.ended made.2

theorem deliveriesOf_append (calls calls' : List (Call × Answer)) :
    deliveriesOf (calls ++ calls') = deliveriesOf calls ++ deliveriesOf calls' :=
  List.flatMap_append

/-- The calls of some deliveries. -/
def callsOf (made : List (Delivery × Answer)) : List (Call × Answer) :=
  made.map fun one => (.log one.1, one.2)

theorem deliveriesOf_callsOf (made : List (Delivery × Answer)) : deliveriesOf (callsOf made) = made := by
  induction made with
  | nil => rfl
  | cons one later ih => exact congrArg (one :: ·) ih

namespace Round

variable (r : Round)

theorem deliveriesOf_calls : deliveriesOf r.calls = r.deliveries := by
  have hlogs : deliveriesOf (r.deliveries.map fun made => (.log made.1, made.2)) = r.deliveries :=
    deliveriesOf_callsOf r.deliveries
  have hsnapshot :
      deliveriesOf (r.snapshot.toList.map fun made => (Call.snapshot made.1, made.2)) = [] := by
    cases r.snapshot <;> rfl
  rw [calls, deliveriesOf_append, hlogs, hsnapshot, List.append_nil]

theorem takenOf_deliveries : takenOf r.deliveries = r.taken.map Delivery.entry := by
  have htaken : takenOf (r.taken.map (·, Answer.accepted)) = r.taken.map Delivery.entry := by
    rw [takenOf_of_accepted (by simp), List.map_map]
    rfl
  have hrefused :
      takenOf (r.refused.toList.map fun made => (made.1, Answer.refused made.2)) = [] := by
    cases r.refused <;> rfl
  rw [deliveries, takenOf_append, htaken, hrefused, List.append_nil]

end Round

/-- A run of numbers, cut in two. -/
theorem Buffer.Consecutive.of_append {b b' : Buffer} (h : b.Consecutive) {front : List Entry}
    (hqueue : b.queue = front ++ b'.queue) (hnext : b'.nextId = b.nextId) :
    front.map Entry.id = List.range' b.headId front.length ∧
      b'.headId = b.headId + front.length ∧ b'.Consecutive := by
  have hsize : b.size = front.length + b'.size := by
    simp [size, hqueue]
  have hle := h.size_le
  have hhead : b'.headId = b.headId + front.length := by
    simp only [headId, hnext]
    omega
  have hids := h.ids
  rw [hqueue, List.map_append, hsize, ← List.range'_append_1] at hids
  obtain ⟨hfront, hrest⟩ := List.append_inj hids (by simp)
  exact ⟨hfront, hhead, ⟨hhead ▸ hrest, by omega⟩⟩

/-- Which deliveries have been made, with their answers, where a buffer is left. -/
structure Succession (made : List (Delivery × Answer)) (b : Buffer) : Prop where
  taken : (takenOf made).map Entry.id = List.range' 1 b.metrics.totalProcessed
  queue : b.Consecutive
  headId : b.headId = b.metrics.totalProcessed + 1
  /-- What was refused last is offered next. -/
  head : ∀ last ∈ made.getLast?, last.2 ≠ .accepted → b.queue.head? = some last.1.entry
  again : made.IsChain fun x y => x.2 ≠ .accepted → y.1.entry = x.1.entry

namespace Succession

variable {made : List (Delivery × Answer)} {b b' : Buffer}

theorem create {capacity : Nat} {now : Int} (hb : Buffer.create capacity now = .ok b) :
    Succession [] b := by
  obtain rfl := Buffer.create_ok hb
  exact
    { taken := rfl
      queue := { ids := rfl, size_le := Nat.zero_le 1 }
      headId := rfl
      head := by simp
      again := List.IsChain.nil }

theorem accept (h : Succession made b) (f : Fields) (now : Int) :
    Succession made (b.accept f now) where
  taken := h.taken
  queue := h.queue.accept f now
  headId := by
    have hhead := h.headId
    simp only [Buffer.headId, Buffer.accept_nextId, Buffer.accept_size,
      Buffer.accept_totalProcessed] at hhead ⊢
    omega
  head := by
    intro last hlast hrefused
    simp [h.head last hlast hrefused]
  again := h.again

theorem countError (h : Succession made b) : Succession made b.countError where
  taken := h.taken
  queue := ⟨h.queue.ids, h.queue.size_le⟩
  headId := h.headId
  head := h.head
  again := h.again

/-- A round goes on with the head of the queue. -/
theorem head?_of_round {r : Round} {limit : Nat} (heffect : r.Effect limit b b')
    {first : Delivery × Answer} (hfirst : first ∈ r.deliveries.head?) :
    b.queue.head? = some first.1.entry := by
  rw [heffect.queue]
  cases htaken : r.taken with
  | cons d taken =>
      simp [Round.deliveries, htaken] at hfirst
      simp [← hfirst]
  | nil =>
      cases hrefused : r.refused with
      | none => simp [Round.deliveries, htaken, hrefused] at hfirst
      | some last =>
          simp [Round.deliveries, htaken, hrefused] at hfirst
          simp [← hfirst, heffect.head last hrefused]

/-- Within a round only the last delivery can be refused. -/
theorem isChain_deliveries (r : Round) :
    r.deliveries.IsChain fun x y => x.2 ≠ .accepted → y.1.entry = x.1.entry := by
  rw [Round.deliveries]
  induction r.taken with
  | nil => cases r.refused <;> simp
  | cons d taken ih =>
      rw [List.map_cons, List.cons_append, List.isChain_cons]
      exact ⟨fun y _ hrefused => absurd rfl hrefused, ih⟩

/-- What is refused last, in a round or before it, is at the head of the queue that is left. -/
theorem head?_after_round (h : Succession made b) {r : Round} {limit : Nat}
    (heffect : r.Effect limit b b') {last : Delivery × Answer}
    (hlast : last ∈ (made ++ r.deliveries).getLast?) (hrefused : last.2 ≠ .accepted) :
    b'.queue.head? = some last.1.entry := by
  have hqueue := heffect.queue
  cases hcase : r.refused with
  | some refused =>
      rw [Round.deliveries, hcase] at hlast
      simp at hlast
      simp [← hlast, heffect.head refused hcase]
  | none =>
      rcases List.eq_nil_or_concat r.taken with hnone | ⟨taken, d, hsome⟩
      · -- nothing has happened in this round
        rw [hnone, List.map_nil, List.nil_append] at hqueue
        rw [Round.deliveries, hnone, hcase] at hlast
        simp at hlast
        rw [← hqueue]
        exact h.head last hlast hrefused
      · rw [Round.deliveries, hsome, hcase] at hlast
        simp at hlast
        simp [← hlast] at hrefused

/-- A round continues the succession: its first delivery is of the head of the queue. -/
theorem round (h : Succession made b) {r : Round} {limit : Nat} (heffect : r.Effect limit b b') :
    Succession (made ++ r.deliveries) b' := by
  obtain ⟨hids, hhead, hqueue⟩ := h.queue.of_append heffect.queue heffect.nextId
  have hprocessed := heffect.totalProcessed
  rw [List.length_map] at hids hhead
  refine ⟨?_, hqueue, ?_, ?_, ?_⟩
  · rw [takenOf_append, List.map_append, h.taken, r.takenOf_deliveries, hids, h.headId, hprocessed,
      Nat.add_comm _ 1, List.range'_append_1]
  · rw [hhead, h.headId, hprocessed]
    omega
  · intro last hlast hrefused
    exact head?_after_round h heffect hlast hrefused
  · rw [List.isChain_append]
    refine ⟨h.again, isChain_deliveries r, ?_⟩
    intro x hx y hy hrefused
    have hnext := h.head x hx hrefused
    rw [head?_of_round heffect hy] at hnext
    exact Option.some.inj hnext

end Succession

namespace Station.Dialogue

variable {σ α : Type} [Sink σ] {notes : σ → List α} {note : Call × Answer → α}

/-- The deliveries of a dialogue follow one another as they do in its rounds. -/
theorem succession {s s' : Station σ} {parts : List Part}
    (h : Dialogue notes note s parts s') {made : List (Delivery × Answer)}
    (hs : Succession made s.buffer) :
    Succession (made ++ deliveriesOf (parts.flatMap Part.calls)) s'.buffer := by
  induction h with
  | refl => simpa [deliveriesOf] using hs
  | between _ hbetween ih =>
      rcases hbetween.buffer with hb | hb | ⟨f, now, -, hb⟩ <;> rw [hb]
      · exact ih
      · exact ih.countError
      · exact ih.accept f now
  | @ping parts s' s'' answer _ _ hbuffer _ ih =>
      -- a ping is no delivery
      have hnone : deliveriesOf (Part.ping answer).calls = [] := rfl
      rw [List.flatMap_append, deliveriesOf_append, List.flatMap_singleton, hnone, List.append_nil,
        hbuffer]
      exact ih
  | @batch parts s' r _ _ _ _ htells _ ih =>
      have hround : deliveriesOf (Part.batch r).calls = r.deliveries := r.deliveriesOf_calls
      rw [List.flatMap_append, deliveriesOf_append, List.flatMap_singleton, hround,
        ← List.append_assoc]
      exact ih.round htells.effect

end Station.Dialogue

end LogSpool
