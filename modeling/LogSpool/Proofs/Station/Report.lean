import LogSpool.Proofs.Engine.Course
import LogSpool.Sink.Memory
import LogSpool.Sink.Scripted

/-!
# What a batch reports

This module compares the count that a batch reports with the deliveries that the sink accepted from
it.  The two agree whatever the sink does, with one exception: where the sink closes the buffer
between two entries of a batch, the error that ends the batch carries no count, and what was
delivered before goes unreported.

* `Delivers.reports` — the running count of the loop, exit by exit.
* `CutShort`, `Accounted` — what that exception is, and that there is no other.
* `process_reports_deliveries_iff` — every batch is accounted for.
-/

namespace LogSpool

/-- The number of deliveries that the sink accepted. -/
def acceptedIn (made : List (Delivery × Answer)) : Nat :=
  made.countP (·.2 = .accepted)

/-- The deliveries made after a record was read. -/
def Recorded.since {σ : Type} (after before : Recorded σ) : List (Delivery × Answer) :=
  after.record.drop before.record.length

theorem Recorded.since_eq {σ : Type} {after before : Recorded σ} {made : List (Delivery × Answer)}
    (h : after.record = before.record ++ made) : after.since before = made := by
  simp [since, h]

/-- The count that a batch reports when it returns, in its report or in its error. -/
def Outcome.reported? : Outcome BatchReport → Option Nat
  | .answered report => some report.processed
  | .failed why => some why.processed
  | .abandoned => none

namespace Station

variable {σ : Type} [Sink σ] {intrude : Station (Recorded σ) → Intrusion → Station (Recorded σ)}

/-- A call adds its end to the record, and nothing else does while it is pending. -/
theorem callSink_record {s : Station (Recorded σ)} (h : OnlyProduces intrude s.busy) (call : Call) :
    (s.callSink intrude call).2.busy = s.busy ∧
      (s.callSink intrude call).2.sink.record =
        s.sink.record ++ call.ended (s.callSink intrude call).1 := by
  obtain ⟨t, hproduced, hend⟩ := callSink_eq h call
  rw [hend]
  refine ⟨hproduced.beside.busy, ?_⟩
  change t.sink.record ++ _ = s.sink.record ++ _
  rw [hproduced.beside.sink]
  rfl

/-- How a loop of deliveries that may take `limit` entries ends, where `processed` had been
delivered before, `made` are the calls of the loop and `s` is what it leaves. -/
inductive Ends (limit processed : Nat) (made : List (Delivery × Answer))
    (s : Station (Recorded σ)) : Outcome Nat → Prop
  /-- The limit was reached, or the queue was empty. -/
  | answered {n : Nat} : n = processed + acceptedIn made →
    made.length = limit ∨ s.buffer.isOpen = true → Ends limit processed made s (.answered n)
  /-- The sink refused an entry. -/
  | refused {why : EngineError} : why.processed = processed + acceptedIn made →
    (∃ c ∈ made, c.2 ≠ .accepted) → Ends limit processed made s (.failed why)
  /-- The buffer was found closed. -/
  | closed : (∀ c ∈ made, c.2 = .accepted) → made.length < limit → s.buffer.isOpen = false →
    Ends limit processed made s (.failed .notInitialized)
  | abandoned : (∃ c ∈ made, c.2 ≠ .accepted) → Ends limit processed made s .abandoned

omit [Sink σ] in
/-- One more accepted delivery in front. -/
theorem Ends.cons {limit processed : Nat} {made : List (Delivery × Answer)}
    {s : Station (Recorded σ)} {outcome : Outcome Nat}
    (h : Ends limit (processed + 1) made s outcome) (d : Delivery) :
    Ends (limit + 1) processed ((d, .accepted) :: made) s outcome := by
  have hcount : acceptedIn ((d, .accepted) :: made) = acceptedIn made + 1 := by
    simp [acceptedIn]
  cases h with
  | answered hn hstop => exact .answered (by omega) (by simpa using hstop)
  | refused hn hlast =>
      obtain ⟨c, hc, hanswer⟩ := hlast
      exact .refused (by omega) ⟨c, List.mem_cons_of_mem _ hc, hanswer⟩
  | closed hall hlen hclosed =>
      refine .closed ?_ (by simpa using hlen) hclosed
      intro c hc
      rcases List.mem_cons.1 hc with rfl | hc
      · rfl
      · exact hall c hc
  | abandoned hlast =>
      obtain ⟨c, hc, hanswer⟩ := hlast
      exact .abandoned ⟨c, List.mem_cons_of_mem _ hc, hanswer⟩

/-- The end of a call for an entry that was taken out. -/
theorem callSink_log_record {s s₁ s₂ : Station (Recorded σ)} (h : OnlyProduces intrude s.busy)
    {e : Entry} {answer : Answer} (htaken : s.dequeue = (.ok (some e), s₁))
    (hcall : s₁.callSink intrude (.log (s₁.deliveryOf e)) = (answer, s₂)) :
    s₂.busy = s.busy ∧ s₂.sink.record = s.sink.record ++ [(s₁.deliveryOf e, answer)] := by
  obtain ⟨-, -, hbeside, -⟩ := dequeue_taken htaken
  obtain ⟨hbusy, hrecord⟩ := callSink_record (h.of_eq hbeside.busy) (.log (s₁.deliveryOf e))
  rw [hcall] at hbusy hrecord
  rw [hbeside.sink] at hrecord
  exact ⟨hbusy.trans hbeside.busy, hrecord⟩

/-- Each exit of the loop carries the running count, but for the one where the buffer is closed.
A loop that has called the sink found the buffer open first. -/
theorem Delivers.reports {started limit processed : Nat} {s s' : Station (Recorded σ)}
    {outcome : Outcome Nat} (hloop : Delivers intrude started limit processed s outcome s')
    (h : OnlyProduces intrude s.busy) :
    ∃ made, s'.sink.record = s.sink.record ++ made ∧ (made ≠ [] → s.buffer.isOpen = true) ∧
      Ends limit processed made s' outcome := by
  induction hloop with
  | limit => exact ⟨[], by simp, by simp, .answered rfl (Or.inl rfl)⟩
  | closed hclosed => exact ⟨[], by simp, by simp, .closed (by simp) (by simp) hclosed⟩
  | empty hopen _ => exact ⟨[], by simp, by simp, .answered rfl (Or.inr hopen)⟩
  | @accepted _ _ _ s₁ s₂ _ e _ htaken hcall _ ih =>
      obtain ⟨hbusy, hrecord⟩ := callSink_log_record h htaken hcall
      have hdelivered := s₂.delivered_beside (s₁.deliveryOf e)
      obtain ⟨made, hmade, -, hends⟩ := ih (h.of_eq (hdelivered.busy.trans hbusy))
      refine ⟨(s₁.deliveryOf e, .accepted) :: made, ?_, fun _ => (dequeue_taken htaken).1,
        hends.cons _⟩
      rw [hmade, hdelivered.sink, hrecord, List.append_assoc, List.singleton_append]
  | @refused _ processed _ s₁ s₂ _ e why _ htaken hcall hrecover =>
      obtain ⟨-, hrecord⟩ := callSink_log_record h htaken hcall
      obtain ⟨error, s', hs, hsink, -, hentry⟩ :=
        (s₂.markError.observeBatch started).recover_spec e processed why
      obtain ⟨rfl, rfl⟩ := Prod.mk.inj (hrecover.symm.trans hs)
      refine ⟨[(s₁.deliveryOf e, .refused why)], (congrArg Recorded.record hsink).trans hrecord,
        fun _ => (dequeue_taken htaken).1, ?_⟩
      rcases hentry with ⟨-, rfl, -⟩ | ⟨refusal, -, rfl, -⟩
      · exact .refused rfl ⟨_, List.mem_singleton_self _, by simp⟩
      · exact .refused rfl ⟨_, List.mem_singleton_self _, by simp⟩
  | @stalled _ _ _ s₁ s₂ e htaken hcall =>
      obtain ⟨-, hrecord⟩ := callSink_log_record h htaken hcall
      exact ⟨[(s₁.deliveryOf e, .stalled)],
        (congrArg Recorded.record (s₂.abandon_spec e).1).trans hrecord,
        fun _ => (dequeue_taken htaken).1, .abandoned ⟨_, List.mem_singleton_self _, by simp⟩⟩

/-- Handing over a snapshot is no delivery. -/
theorem persistSnapshot_record {s : Station (Recorded σ)} (h : OnlyProduces intrude s.busy) :
    (s.persistSnapshot intrude).2.sink.record = s.sink.record := by
  rw [persistSnapshot]
  cases s.buffer.snapshot with
  | error why => rfl
  | ok metrics =>
      have hcall := (callSink_record h (.snapshot metrics)).2
      dsimp only
      rcases hend : s.callSink intrude (.snapshot metrics) with ⟨answer, s'⟩
      rw [hend] at hcall
      have hended : (Call.snapshot metrics).ended answer = [] := rfl
      rw [hended, List.append_nil] at hcall
      cases answer <;> exact hcall

/-- A batch that returns, with an answer or with an error, reports as many deliveries as the sink
accepted from it. -/
def ReportsDeliveries (outcome : Outcome BatchReport) (made : List (Delivery × Answer)) : Prop :=
  ∀ n, outcome.reported? = some n → n = acceptedIn made

/-- A loop of deliveries was cut short: the sink accepted every call, there was at least one and
might have been more, but then the buffer was closed. -/
structure CutShort (limit : Nat) (made : List (Delivery × Answer)) (s : Station (Recorded σ)) :
    Prop where
  called : made ≠ []
  accepted : ∀ c ∈ made, c.2 = .accepted
  below : made.length < limit
  closed : s.buffer.isOpen = false

/-- A batch reports what it delivered exactly if its loop of deliveries was not cut short.  If it
was, the buffer has been closed since the batch began, and nothing is reported of what was
delivered. -/
def Accounted (intrude : Station (Recorded σ) → Intrusion → Station (Recorded σ)) (maxItems : Nat)
    (s : Station (Recorded σ)) : Prop :=
  let result := s.process intrude maxItems
  let made := result.2.sink.since s.sink
  let left := (s.deliver intrude s.clock.elapsed (s.batchLimit maxItems) 0).2
  let cut := CutShort (s.batchLimit maxItems) made left
  (ReportsDeliveries result.1 made ↔ ¬ cut) ∧
    (cut → s.buffer.isOpen = true ∧ result.1 = .failed .notInitialized ∧
      result.1.reported? = some 0 ∧ acceptedIn made = made.length)

/-- The calls of a batch are those of its loop of deliveries. -/
theorem process_record (maxItems : Nat) {s : Station (Recorded σ)}
    (h : OnlyProduces intrude s.busy) :
    (s.process intrude maxItems).2.sink.record =
      (s.deliver intrude s.clock.elapsed (s.batchLimit maxItems) 0).2.sink.record := by
  have hbusy := (deliver_follows Recorded.tracks s.clock.elapsed (s.batchLimit maxItems) 0 h).busy
  rcases hend : s.deliver intrude s.clock.elapsed (s.batchLimit maxItems) 0 with ⟨outcome, s₁⟩
  rw [hend] at hbusy
  cases outcome with
  | failed why => rw [process_of_failed hend]
  | abandoned => rw [process_of_abandoned hend]
  | answered n =>
      have hrecord := persistSnapshot_record (h.of_eq hbusy)
      rcases process_of_answered hend with ⟨-, hs⟩ | ⟨-, -, hs⟩ | ⟨-, -, hs⟩ <;> rw [hs]
      · rfl
      · exact hrecord
      · exact hrecord

/-- A batch whose loop was answered reports what the loop counted. -/
theorem process_reported {maxItems n : Nat} {s s₁ : Station (Recorded σ)}
    (hend : s.deliver intrude s.clock.elapsed (s.batchLimit maxItems) 0 = (.answered n, s₁))
    {m : Nat} (hm : (s.process intrude maxItems).1.reported? = some m) : m = n := by
  rcases process_of_answered hend with ⟨hzero, hs⟩ | ⟨-, -, hs⟩ | ⟨-, -, hs⟩ <;> rw [hs] at hm
  · exact (Option.some.inj hm).symm.trans hzero.symm
  · cases hm
  · exact (Option.some.inj hm).symm

/-- Every batch is accounted for while nobody but producers gets in between. -/
theorem process_accounted (maxItems : Nat) {s : Station (Recorded σ)}
    (h : OnlyProduces intrude s.busy) : Accounted intrude maxItems s := by
  obtain ⟨made, hmade, hopen, hends⟩ :=
    (deliver_delivers s.clock.elapsed (s.batchLimit maxItems) 0 s).reports h
  rw [← process_record maxItems h] at hmade
  rw [Accounted, Recorded.since_eq hmade]
  rcases hend : s.deliver intrude s.clock.elapsed (s.batchLimit maxItems) 0 with ⟨outcome, s₁⟩
  rw [hend] at hends
  dsimp only at hends ⊢
  -- of the four exits only the one at a closed buffer can be a cut
  cases hends with
  | answered hn hstop =>
      have hnot : ¬ CutShort (s.batchLimit maxItems) made s₁ := by
        intro hcut
        rcases hstop with hlen | hopen'
        · exact absurd hlen (Nat.ne_of_lt hcut.below)
        · exact absurd (hopen'.symm.trans hcut.closed) (by decide)
      refine ⟨iff_of_true (fun m hm => ?_) hnot, fun hcut => absurd hcut hnot⟩
      rw [process_reported hend hm, hn, Nat.zero_add]
  | refused hn hlast =>
      obtain ⟨c, hc, hanswer⟩ := hlast
      have hnot : ¬ CutShort (s.batchLimit maxItems) made s₁ :=
        fun hcut => hanswer (hcut.accepted c hc)
      refine ⟨iff_of_true (fun m hm => ?_) hnot, fun hcut => absurd hcut hnot⟩
      rw [process_of_failed hend] at hm
      rw [← Option.some.inj hm, hn, Nat.zero_add]
  | abandoned hlast =>
      obtain ⟨c, hc, hanswer⟩ := hlast
      have hnot : ¬ CutShort (s.batchLimit maxItems) made s₁ :=
        fun hcut => hanswer (hcut.accepted c hc)
      refine ⟨iff_of_true (fun m hm => ?_) hnot, fun hcut => absurd hcut hnot⟩
      rw [process_of_abandoned hend] at hm
      cases hm
  | closed hall hlen hclosed =>
      have hcount : acceptedIn made = made.length := by
        rw [acceptedIn, List.countP_eq_length]
        intro c hc
        simpa using hall c hc
      have hfailed : (s.process intrude maxItems).1 = .failed .notInitialized := by
        rw [process_of_failed hend]
      have hzero : (s.process intrude maxItems).1.reported? = some 0 := by
        rw [hfailed]
        rfl
      refine ⟨⟨?_, ?_⟩, fun hcut => ⟨hopen hcut.called, hfailed, hzero, hcount⟩⟩
      · intro hreports hcut
        have hnone := hreports 0 hzero
        exact hcut.called (List.eq_nil_of_length_eq_zero (by omega))
      · intro hnot m hm
        have hnil : made = [] :=
          Classical.byContradiction fun hne => hnot ⟨hne, hall, hlen, hclosed⟩
        rw [hzero] at hm
        rw [hnil, ← Option.some.inj hm]
        rfl

/-- Every batch is accounted for, whatever the sink does: of a processor with its buffer, and of an
engine, where the entries that a sink hands in while it is called may be due for a batch
themselves. -/
theorem process_reports_deliveries_iff (s : Station (Recorded σ)) (maxItems : Nat) :
    Accounted Station.intrude maxItems s ∧
      ∀ config : EngineConfig,
        Accounted (Engine.intrude config) maxItems { s with busy := true } := by
  constructor
  · exact process_accounted maxItems (intrude_onlyProduces _)
  · intro config
    exact process_accounted maxItems (Engine.intrude_onlyProduces config)

/-- Two entries are queued, and the sink closes the buffer while it takes the first: one entry is
delivered, and none is reported. -/
theorem process_unreported_delivery :
    let fields : Fields := ⟨"INFO", "app", "a"⟩
    let buffer := (Buffer.accept ⟨2, [], 1, .initial 2 0, true⟩ fields 0).accept fields 0
    let sink : Scripted MemorySink :=
      ⟨[⟨⟨0, none, [.close]⟩, .passOn⟩], [], [], [], .withRetention 1⟩
    let s := Station.around buffer (Recorded.ofSink sink) ⟨0, 0⟩ 2
    let result := s.process Station.intrude 2
    result.1.reported? = some 0 ∧ acceptedIn (result.2.sink.since s.sink) = 1 ∧
      ¬ ReportsDeliveries result.1 (result.2.sink.since s.sink) := by
  intro fields buffer sink s result
  have hreported : result.1.reported? = some 0 := rfl
  have haccepted : acceptedIn (result.2.sink.since s.sink) = 1 := rfl
  refine ⟨hreported, haccepted, fun h => ?_⟩
  have hzero := h 0 hreported
  rw [haccepted] at hzero
  exact Nat.zero_ne_one hzero

end Station

end LogSpool
