import LogSpool.Proofs.Station.Course

/-!
# Moments of a batch

This module follows a batch into its loop of deliveries.  A batch that is under way is no state
that a session leaves behind, so the stations in its midst are named here: those at which the sink
is called with an entry, and those at which a call is pending.

* `Station.Offers` — the loop comes to a station and calls the sink with an entry there.
* `Station.Pending` — a call of the batch is pending, and others have come meanwhile.
* `Offers.course`, `Pending.course` — the entry is then in flight, and what happened before is the
  beginning of the chronicle.
-/

namespace LogSpool.Station

variable {σ : Type} [Sink σ] {intrude : Station σ → Intrusion → Station σ}
  {acts : Station σ → Intrusion → List Act} {track : List (Delivery × Answer) → σ → Prop}

/-- A loop of deliveries that begins at a station, and may take `limit` entries, calls the sink
with an entry; the last station is the one at that moment. -/
inductive Offers (intrude : Station σ → Intrusion → Station σ) :
    Nat → Station σ → Entry → Station σ → Prop where
  | first {limit : Nat} {s s₁ : Station σ} {e : Entry} :
    s.dequeue = (.ok (some e), s₁) → Offers intrude (limit + 1) s e s₁
  | later {limit : Nat} {s s₁ s₂ t : Station σ} {e e' : Entry} :
    s.dequeue = (.ok (some e), s₁) →
    s₁.callSink intrude (.log (s₁.deliveryOf e)) = (.accepted, s₂) →
    Offers intrude limit (s₂.delivered (s₁.deliveryOf e)) e' t →
    Offers intrude (limit + 1) s e' t

/-- When the sink is called with an entry it is the one in flight.  The acts so far are the first ones
of the loop, and those of others follow that come while the call is pending. -/
theorem Offers.course (htrack : Sink.Tracks track) {limit : Nat} {s t : Station σ} {e : Entry}
    (hoffers : Offers intrude limit s e t) (h : OnlyProducesBy acts intrude s.busy) :
    t.busy = s.busy ∧ ∃ before,
      before ++ t.callActs intrude acts (.log (t.deliveryOf e)) <+: s.deliverActs intrude acts limit ∧
      Custody.LeadsBy before (·.Describes track s) (·.HasOffered track (t.deliveryOf e) t) := by
  induction hoffers with
  | first htaken =>
      obtain ⟨hbusy, hoffered⟩ := dequeue_course track htaken
      refine ⟨hbusy, _, ?_, hoffered⟩
      rw [deliverActs, htaken]
      dsimp only
      rw [List.singleton_append, List.cons_prefix_cons]
      exact ⟨rfl, List.prefix_append _ _⟩
  | later htaken hcall _ ih =>
      have hdelivered := delivered_follows htrack h htaken hcall
      obtain ⟨hbusy, before, hbefore, hrest⟩ := ih (h.of_eq hdelivered.busy)
      refine ⟨hbusy.trans hdelivered.busy, _, ?_, hdelivered.course.trans hrest⟩
      rw [deliverActs, htaken]
      dsimp only
      rw [hcall]
      simpa only [List.append_assoc, List.cons_append, List.nil_append, List.cons_prefix_cons,
        List.prefix_append_right_inj, true_and] using hbefore

theorem Offers.busy {limit : Nat} {s t : Station σ} {e : Entry}
    (hoffers : Offers intrude limit s e t) (h : OnlyProduces intrude s.busy) : t.busy = s.busy := by
  obtain ⟨acts, hacts⟩ := h.named
  exact (hoffers.course Sink.tracks_true hacts).1

/-! ## While a call is pending -/

/-- A call is pending in a batch that begins at a station and may take `maxItems` entries: the sink
was called with an entry, or at the end with a snapshot, and has since come back to the spool some of
the times that it will; the last station is the one at that moment. -/
inductive Pending (intrude : Station σ → Intrusion → Station σ) (maxItems : Nat) (s : Station σ) :
    Call → Station σ → Prop where
  | entry {e : Entry} {t : Station σ} {first later : List Intrusion} :
    Offers intrude (s.batchLimit maxItems) s e t →
    (Sink.receive (.log (t.deliveryOf e)) t.sink).1.intrusions = first ++ later →
    Pending intrude maxItems s (.log (t.deliveryOf e))
      (first.foldl intrude (t.calling (.log (t.deliveryOf e))))
  | snapshot {processed : Nat} {metrics : Metrics} {t : Station σ} {first later : List Intrusion} :
    s.deliver intrude s.clock.elapsed (s.batchLimit maxItems) 0 = (.answered (processed + 1), t) →
    t.buffer.snapshot = .ok metrics →
    (Sink.receive (.snapshot metrics) t.sink).1.intrusions = first ++ later →
    Pending intrude maxItems s (.snapshot metrics) (first.foldl intrude (t.calling (.snapshot metrics)))

/-- While a call of a batch is pending its delivery is in flight, and what has happened is the
beginning of the chronicle of the batch. -/
theorem Pending.course (htrack : Sink.Tracks track) {maxItems : Nat} {s t : Station σ} {call : Call}
    (hpending : Pending intrude maxItems s call t) (h : OnlyProducesBy acts intrude s.busy) :
    ∃ before, before <+: s.processActs intrude acts maxItems ∧
      Custody.LeadsBy before (·.Describes track s) (·.Shows track call.delivery? t) := by
  cases hpending with
  | @entry e u first later hoffers hsplit =>
      obtain ⟨hbusy, before, hbefore, hoffered⟩ := hoffers.course htrack h
      -- what others have done so far, they do as producers
      have hmeanwhile : ProducesBy (meanwhileActs intrude acts first (u.calling (.log (u.deliveryOf e))))
          (u.calling (.log (u.deliveryOf e)))
          (first.foldl intrude (u.calling (.log (u.deliveryOf e)))) :=
        (h.of_eq hbusy).foldl first rfl
      refine ⟨before ++ meanwhileActs intrude acts first (u.calling (.log (u.deliveryOf e))), ?_,
        hoffered.trans ⟨?_, ?_⟩⟩
      · refine (List.IsPrefix.trans ?_ hbefore).trans (List.prefix_append _ _)
        rw [callActs, hsplit, meanwhileActs_append, List.prefix_append_right_inj]
        exact List.prefix_append _ _
      · intro a ha
        exact Act.isInternal_of_isIntrusion (hmeanwhile.intrusions a ha)
      · intro w hw
        exact (hw.calling htrack _).of_produces hmeanwhile
  | @snapshot processed metrics u first later hdeliver hsnapshot hsplit =>
      have hloop := deliver_followsBy htrack s.clock.elapsed (s.batchLimit maxItems) 0 h
      rw [hdeliver] at hloop
      have hcalling : FollowsBy track [] u (u.calling (.snapshot metrics)) :=
        FollowsBy.of_same rfl rfl rfl rfl fun _ hmade => htrack.receive (.snapshot metrics) hmade
      have hmeanwhile : ProducesBy (meanwhileActs intrude acts first (u.calling (.snapshot metrics)))
          (u.calling (.snapshot metrics)) (first.foldl intrude (u.calling (.snapshot metrics))) :=
        (h.of_eq hloop.busy).foldl first rfl
      refine ⟨s.deliverActs intrude acts (s.batchLimit maxItems) ++
        meanwhileActs intrude acts first (u.calling (.snapshot metrics)), ?_,
        ((hloop.andThen hcalling).trans hmeanwhile.follows).course⟩
      rw [processActs, hdeliver, List.prefix_append_right_inj]
      dsimp only
      rw [snapshotActs, hsnapshot]
      dsimp only
      rw [callActs, hsplit, meanwhileActs_append, List.append_assoc]
      exact List.prefix_append _ _

end LogSpool.Station
