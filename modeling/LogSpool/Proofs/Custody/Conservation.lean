import Mathlib.Data.List.Nodup
import Mathlib.Data.List.Pairwise
import LogSpool.Proofs.Custody.Basic

/-!
# Conservation of entries

This module shows that no course of acts makes an entry, loses one from sight or holds one twice.

* `Conserved` — the entries in all places together are the accepted entries, in some order, and
  their numbers are the first numbers there are.
* `conserved_perform`, `conserved_run` — every act and every course keeps this.
* `Partitioned` — what it means for a single number: it is in exactly one place, and there once.
-/

namespace LogSpool

namespace Hands

/-- What is released, and what stays, are all entries in hands. -/
theorem count_release (h : Hands) (hand : String) (x : Entry) :
    (h.release hand).entries.count x + (h.inHand hand).count x = h.entries.count x := by
  have hperm : (h.held.filter (fun held => held.1 == hand) ++
      h.held.filter (fun held => !(held.1 == hand))).Perm h.held :=
    List.filter_append_perm _ h.held
  have hcount := (hperm.map Prod.snd).count_eq x
  rw [List.map_append, List.count_append] at hcount
  change ((h.held.filter fun held => !(held.1 == hand)).map Prod.snd).count x +
    ((h.held.filter fun held => held.1 == hand).map Prod.snd).count x =
      (h.held.map Prod.snd).count x
  omega

/-- An entry that is put into a hand drives out what was there. -/
theorem count_put (h : Hands) (hand : String) (e x : Entry) :
    (h.put hand e).entries.count x + (h.inHand hand).count x =
      h.entries.count x + [e].count x := by
  have hrelease := h.count_release hand x
  have hput : (h.put hand e).entries = e :: (h.release hand).entries := rfl
  rw [hput, List.count_cons, List.count_singleton]
  omega

theorem Distinct.release {h : Hands} (hd : h.Distinct) (hand : String) :
    (h.release hand).Distinct :=
  hd.sublist (List.filter_sublist.map Prod.fst)

theorem Distinct.put {h : Hands} (hd : h.Distinct) (hand : String) (e : Entry) :
    (h.put hand e).Distinct := by
  refine List.nodup_cons.2 ⟨?_, hd.release hand⟩
  intro hmem
  obtain ⟨held, hheld, hname⟩ := List.mem_map.1 hmem
  have hne : held.1 ≠ hand := by simpa using (List.mem_filter.1 hheld).2
  exact hne hname

/-- Where hands are distinct, what a look-up finds is all there is in the hand. -/
theorem inHand_of_get? {h : Hands} (hd : h.Distinct) {hand : String} {e : Entry}
    (hget : h.get? hand = some e) : h.inHand hand = [e] := by
  obtain ⟨held⟩ := h
  change held.lookup hand = some e at hget
  change (held.map Prod.fst).Nodup at hd
  change (held.filter fun p => p.1 == hand).map Prod.snd = [e]
  induction held with
  | nil => simp at hget
  | cons p held ih =>
      obtain ⟨name, x⟩ := p
      obtain ⟨hfresh, hrest⟩ := List.nodup_cons.1 hd
      by_cases hname : hand = name
      · subst hname
        have hx : x = e := by simpa using hget
        have hnone : held.filter (fun p => p.1 == hand) = [] := by
          rw [List.filter_eq_nil_iff]
          intro q hq heq
          exact hfresh (List.mem_map.2 ⟨q, hq, by simpa using heq⟩)
        simp [hnone, hx]
      · have hne : name ≠ hand := fun h => hname h.symm
        rw [List.lookup_cons, beq_false_of_ne hname] at hget
        simpa [hne] using ih hget hrest

end Hands

namespace Custody

theorem count_entries (w : Custody) (x : Entry) :
    w.entries.count x =
      w.buffer.queue.count x + (w.hands.entries.count x + w.thrown.count x) +
        (w.inFlight.map Delivery.entry).toList.count x + w.delivered.count x + w.lost.count x +
        w.discarded.count x := by
  simp [entries, Place.all, entriesAt, List.count_append]
  omega

/-- Everything that was accepted is somewhere, nothing is anywhere twice, and the numbers of the
accepted entries are the first numbers. -/
structure Conserved (w : Custody) : Prop where
  perm : w.entries.Perm w.accepted
  distinct : w.hands.Distinct
  ids : w.accepted.map Entry.id = List.range' 1 w.buffer.metrics.totalIngested
  nextId : w.buffer.nextId = w.buffer.metrics.totalIngested + 1

theorem conserved_around {capacity : Nat} {now : Int} {b : Buffer}
    (hb : Buffer.create capacity now = .ok b) (storage : Storage) :
    (around b storage).Conserved := by
  obtain rfl := Buffer.create_ok hb
  exact
    { perm := by simp [around, entries, Place.all, entriesAt, Hands.empty, Hands.entries,
        delivered, lost]
      distinct := by simp [around, Hands.empty, Hands.Distinct]
      ids := rfl
      nextId := rfl }

/-- An act that only changes the counts of the buffer, and the storage, moves no entry. -/
theorem Conserved.of_buffer {w : Custody} (hw : w.Conserved) {b : Buffer} (storage : Storage)
    (hb : b = w.buffer ∨ b = w.buffer.countError) :
    Conserved { w with buffer := b, storage } := by
  rcases hb with rfl | rfl
  · exact { perm := hw.perm, distinct := hw.distinct, ids := hw.ids, nextId := hw.nextId }
  · exact { perm := hw.perm, distinct := hw.distinct, ids := hw.ids, nextId := hw.nextId }

theorem Conserved.enqueue {w : Custody} (hw : w.Conserved) (f : Fields) (now : Int) :
    (w.perform (.enqueue f now)).Conserved := by
  rcases w.perform_enqueue f now with ⟨-, h⟩ | ⟨b, storage, hb, h⟩
  · -- one more copy in the queue, and one more among the accepted
    rw [h]
    have hcount := List.perm_iff_count.1 hw.perm
    refine { perm := ?_, distinct := hw.distinct, ids := ?_, nextId := ?_ }
    · rw [List.perm_iff_count]
      intro x
      have hx := hcount x
      rw [count_entries] at hx
      simp only [count_entries, Buffer.accept_queue, List.count_append]
      simp only [delivered, lost] at hx ⊢
      omega
    · have hid :
          (Entry.ofFields w.buffer.nextId f now).id = 1 + w.buffer.metrics.totalIngested := by
        change w.buffer.nextId = _
        rw [hw.nextId, Nat.add_comm]
      simp only [List.map_append, List.map_cons, List.map_nil, hw.ids, hid,
        Buffer.accept_totalIngested, List.range'_1_concat]
    · simp [hw.nextId]
  · rw [h]
    exact hw.of_buffer storage hb

/-- An act that accepts nothing conserves, if it leaves as many copies of each entry in all places
together. -/
theorem Conserved.of_move {w w' : Custody} (hw : w.Conserved)
    (hcount : ∀ x, w'.entries.count x = w.entries.count x) (hdistinct : w'.hands.Distinct)
    (haccepted : w'.accepted = w.accepted)
    (htotal : w'.buffer.metrics.totalIngested = w.buffer.metrics.totalIngested)
    (hnext : w'.buffer.nextId = w.buffer.nextId) : w'.Conserved where
  perm := by
    rw [haccepted]
    exact (List.perm_iff_count.2 hcount).trans hw.perm
  distinct := hdistinct
  ids := by rw [haccepted, htotal, hw.ids]
  nextId := by rw [hnext, htotal, hw.nextId]

theorem Conserved.take {w : Custody} (hw : w.Conserved) (hand : String) :
    (w.perform (.take hand)).Conserved := by
  rcases w.perform_take hand with ⟨e, rest, -, hqueue, h⟩ | h
  · rw [h]
    refine hw.of_move (fun x => ?_) (hw.distinct.put hand e) rfl rfl rfl
    have hput := w.hands.count_put hand e x
    simp only [count_entries, Buffer.withQueue_queue, hqueue, List.count_append, List.count_cons,
      List.count_nil, delivered, lost] at hput ⊢
    omega
  · rw [h]
    exact hw

theorem Conserved.giveBack {w : Custody} (hw : w.Conserved) (hand : String) :
    (w.perform (.giveBack hand)).Conserved := by
  rcases w.perform_giveBack hand with ⟨e, hget, -, -, h⟩ | ⟨storage, h⟩
  · rw [h]
    refine hw.of_move (fun x => ?_) (hw.distinct.release hand) rfl rfl rfl
    have hrelease := w.hands.count_release hand x
    -- the release takes nothing out of the hand but the entry that went back
    rw [Hands.inHand_of_get? hw.distinct hget] at hrelease
    simp only [count_entries, Buffer.withQueue_queue, List.count_cons, List.count_nil,
      delivered, lost] at hrelease ⊢
    omega
  · rw [h]
    exact hw.of_buffer storage (Or.inl rfl)

theorem Conserved.discard {w : Custody} (hw : w.Conserved) (hand : String) :
    (w.perform (.discard hand)).Conserved := by
  refine hw.of_move (fun x => ?_) (hw.distinct.release hand) rfl rfl rfl
  have hrelease := w.hands.count_release hand x
  simp only [perform, count_entries, List.count_append, delivered, lost] at hrelease ⊢
  omega

theorem Conserved.offer {w : Custody} (hw : w.Conserved) (now : Int) :
    (w.perform (.offer now)).Conserved := by
  rcases w.perform_offer now with ⟨e, rest, hflight, -, hqueue, h⟩ | h
  · rw [h]
    refine hw.of_move (fun x => ?_) hw.distinct rfl rfl rfl
    simp only [count_entries, Buffer.withQueue_queue, hqueue, hflight, Option.map_some,
      Option.map_none, Option.toList_some, Option.toList_none, List.count_cons, List.count_nil,
      Entry.deliveryAt_entry, delivered, lost]
    omega
  · rw [h]
    exact hw

/-- However the pending delivery is settled, its entry is in one place afterwards: with the sink, at
the head of the queue, or among the lost. -/
theorem Conserved.conclude {w : Custody} (hw : w.Conserved) {d : Delivery}
    (hflight : w.inFlight = some d) {b : Buffer} {storage : Storage} {a : Attempt}
    (hentry : a.entry = d.entry)
    (hqueue : b.queue = (if a.isReturned then [d.entry] else []) ++ w.buffer.queue)
    (htotal : b.metrics.totalIngested = w.buffer.metrics.totalIngested)
    (hnext : b.nextId = w.buffer.nextId) : (w.conclude b storage a).Conserved := by
  refine hw.of_move (fun x => ?_) hw.distinct rfl htotal hnext
  have hdelivered := congrArg (List.count x) (w.delivered_conclude b storage a)
  have hlost := congrArg (List.count x) (w.lost_conclude b storage a)
  have hq := congrArg (List.count x) hqueue
  rw [List.count_append] at hdelivered hlost hq
  simp only [count_entries, hdelivered, hlost, hentry]
  simp only [Custody.conclude, hflight, hq, Option.map_some, Option.map_none, Option.toList_some,
    Option.toList_none, List.count_nil]
  unfold Attempt.isReturned Attempt.isLost
  -- one of the three fates holds, and each moves the one entry that was in flight
  cases a.isDelivered <;> cases a.returned <;> simp <;> omega

theorem Conserved.settle {w : Custody} (hw : w.Conserved) (answer : Answer) (now : Int) :
    (w.perform (.settle answer now)).Conserved := by
  rcases w.perform_settle answer now with
    ⟨d, hflight, ⟨-, h⟩ | ⟨hrefused, -, -, h⟩ | ⟨hrefused, -, storage, h⟩⟩ | h
  · rw [h]
    exact hw.conclude hflight rfl (by simp [Attempt.isReturned, Attempt.isDelivered])
      (Buffer.markProcessed_totalIngested _ _ _) (Buffer.markProcessed_nextId _ _ _)
  · rw [h]
    exact hw.conclude hflight rfl
      (by simp [Attempt.isReturned, Attempt.isDelivered, hrefused]) rfl rfl
  · rw [h]
    exact hw.conclude hflight rfl (by simp [Attempt.isReturned]) rfl rfl
  · rw [h]
    exact hw

theorem Conserved.close {w : Custody} (hw : w.Conserved) : (w.perform .close).Conserved := by
  rcases w.perform_close with ⟨-, h⟩ | ⟨-, h⟩
  · rw [h]
    refine hw.of_move (fun x => ?_) hw.distinct rfl rfl rfl
    simp only [count_entries, Buffer.withQueue_queue, List.count_append, List.count_nil,
      delivered, lost]
    omega
  · rw [h]
    exact hw

/-- Every act conserves the entries. -/
theorem conserved_perform {w : Custody} (hw : w.Conserved) (a : Act) : (w.perform a).Conserved := by
  cases a with
  | enqueue f now => exact hw.enqueue f now
  | take hand => exact hw.take hand
  | giveBack hand => exact hw.giveBack hand
  | discard hand => exact hw.discard hand
  | offer now => exact hw.offer now
  | settle answer now => exact hw.settle answer now
  | countError =>
      obtain ⟨b, hb, h⟩ := w.perform_countError
      rw [h]
      exact hw.of_buffer w.storage hb
  | close => exact hw.close

/-- Every course of acts conserves the entries. -/
theorem conserved_run {w : Custody} (hw : w.Conserved) (acts : List Act) :
    (w.run acts).Conserved :=
  run_induction Conserved (fun _ => true) (fun _ a _ h => conserved_perform h a)
    (fun _ _ => rfl) hw

/-! ## What conservation means for one number -/

/-- Every number that was given out is in exactly one place, and stands there once. -/
structure Partitioned (w : Custody) : Prop where
  one_place : ∀ id, 1 ≤ id → id ≤ w.buffer.metrics.totalIngested →
    ∃! p, id ∈ (w.entriesAt p).map Entry.id
  once : ∀ p, ((w.entriesAt p).map Entry.id).Nodup
  given_out : ∀ p, ∀ id ∈ (w.entriesAt p).map Entry.id,
    1 ≤ id ∧ id ≤ w.buffer.metrics.totalIngested

theorem Conserved.partitioned {w : Custody} (hw : w.Conserved) : w.Partitioned := by
  have hperm : (w.entries.map Entry.id).Perm (List.range' 1 w.buffer.metrics.totalIngested) := by
    rw [← hw.ids]
    exact hw.perm.map Entry.id
  have hmem (id : Nat) : id ∈ List.range' 1 w.buffer.metrics.totalIngested ↔
      ∃ p, id ∈ (w.entriesAt p).map Entry.id := by
    rw [← hperm.mem_iff, entries, List.map_flatMap, List.mem_flatMap]
    exact ⟨fun ⟨p, _, h⟩ => ⟨p, h⟩, fun ⟨p, h⟩ => ⟨p, p.mem_all, h⟩⟩
  have hnodup : (Place.all.flatMap fun p => (w.entriesAt p).map Entry.id).Nodup := by
    rw [← List.map_flatMap]
    exact hperm.nodup_iff.2 List.nodup_range'
  -- without repetitions in all places together, there are none within a place or across two
  obtain ⟨honce, hdisjoint⟩ := List.nodup_flatMap.1 hnodup
  refine { one_place := ?_, once := fun p => honce p p.mem_all, given_out := ?_ }
  · intro id hlow hhigh
    obtain ⟨p, hp⟩ := (hmem id).1 (List.mem_range'_1.2 ⟨hlow, by omega⟩)
    refine ⟨p, hp, fun p' hp' => ?_⟩
    by_contra hne
    have : Std.Symm (Function.onFun List.Disjoint fun p => (w.entriesAt p).map Entry.id) :=
      ⟨fun _ _ h _ hq hp => h hp hq⟩
    exact hdisjoint.forall p'.mem_all p.mem_all hne hp' hp
  · intro p id hid
    have hrange := List.mem_range'_1.1 ((hmem id).2 ⟨p, hid⟩)
    omega

end Custody

end LogSpool
