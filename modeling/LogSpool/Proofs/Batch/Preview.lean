import LogSpool.Proofs.Batch.Continuation

/-!
# Previews

This module compares the two ways to look at the head of a queue: to read it, and to take the entries
out.  A preview only reads, and it shows what is going to be taken out next: by callers, one entry after
the other, or by a batch, as far as its sink accepts them.

* `Buffer.dequeues` — several entries taken out one after the other; `dequeues_of_open` says which.
* `Buffer.preview_of_open` — what a preview shows.
* `preview_foretells_deliveries` — the comparison.
-/

namespace LogSpool

/-! ## Reading and taking out -/

namespace Buffer

variable {b : Buffer}

/-- Takes entries out one after the other, and keeps the answers. -/
def dequeues : Nat → Buffer → List (Except EngineError (Option Entry)) × Buffer
  | 0, b => ([], b)
  | n + 1, b =>
    let (answer, b) := b.dequeue
    let (later, b) := dequeues n b
    (answer :: later, b)

/-- As long as there are entries in an open buffer, the oldest ones are taken out in their order. -/
theorem dequeues_of_open (hopen : b.isOpen = true) {n : Nat} (hn : n ≤ b.size) :
    (dequeues n b).1 = (b.queue.take n).map (fun e => .ok (some e)) ∧
      (dequeues n b).2.queue = b.queue.drop n := by
  induction n generalizing b with
  | zero => exact ⟨rfl, rfl⟩
  | succ n ih =>
      obtain ⟨e, rest, hqueue⟩ := List.exists_cons_of_length_pos (Nat.lt_of_lt_of_le n.succ_pos hn)
      have htaken : b.dequeue = (.ok (some e), b.withQueue rest) := by
        simp [dequeue, hopen, hqueue]
      have hrest : n ≤ (b.withQueue rest).size := by
        simp [size, hqueue] at hn
        simpa using hn
      obtain ⟨hanswers, hleft⟩ := ih (b := b.withQueue rest) hopen hrest
      rw [dequeues, htaken, hqueue]
      exact ⟨congrArg (.ok (some e) :: ·) hanswers, hleft⟩

/-- A preview of an open buffer shows the oldest entries, and how many there are of all. -/
theorem preview_of_open (hopen : b.isOpen = true) (n : Nat) :
    b.preview n = .ok ⟨b.size, b.queue.take n, min n b.size⟩ := by
  rw [preview, read_of_open hopen]
  dsimp only
  rw [List.length_take]
  rfl

end Buffer

/-! ## The comparison -/

/-- A round that makes offers up to the first that fails has taken those before it. -/
theorem Round.of_first_failure {r : Round} {offers : List (Delivery × Answer)}
    (h : r.deliveries = untilFailure offers) {j : Nat} {d : Delivery} {why : SinkError}
    (hj : offers[j]? = some (d, .refused why))
    (hbefore : ∀ offer ∈ offers.take j, offer.2 = .accepted) :
    r.refused = some (d, why) ∧ r.taken.length = j := by
  rw [untilFailure_of_failure hbefore hj (by simp)] at h
  obtain ⟨hrefused, htaken⟩ := of_failure h
  have hbelow : j < offers.length := (List.getElem?_eq_some_iff.1 hj).1
  refine ⟨hrefused, ?_⟩
  rw [htaken, List.length_take]
  omega

variable {σ : Type} [Sink σ]

/-- What a preview shows is what is taken out next.  The buffer is open, and its gauges are right, as those
of every buffer are.  A preview returns nothing but the view: the number of all entries, and the oldest
ones of them, `k` or as many as there are.  If entries are taken out as often as the view shows some, then
these are the answers.

A batch of at most `k` entries offers them to the sink.  The sink answers every call, and does not come
back to the spool, and an entry that goes back finds storage; `offers` are the deliveries with the answers
that it has for them.  If it accepts all of them it is given all that the view shows, in this order.  If
it refuses the one behind `j` others, it has accepted these, and every view afterwards starts with the one
that was refused. -/
theorem preview_foretells_deliveries {s : Station (Traced σ)} (hopen : s.buffer.isOpen = true)
    (hgauged : s.buffer.Gauged) (k : Nat) :
    let depth := s.buffer.size
    let items := s.buffer.queue.take k
    let after := (s.process Station.intrude k).2
    s.buffer.preview k = .ok ⟨depth, items, min k depth⟩ ∧ items.length = min k depth ∧
    (s.buffer.dequeues (min k depth)).1 = items.map (fun e => .ok (some e)) ∧
    ∀ P : σ → Prop, Sink.Answering P → P s.sink.inner → s.storage.shortage? = none → 0 < k →
      let offers := Sink.rehearse s.clock s.sink.inner items
      ∃ made, deliveriesIn after.sink.trace = deliveriesIn s.sink.trace ++ made ∧
        ((∀ offer ∈ offers, offer.2 = .accepted) →
          made.map (·.1.entry) = items ∧ takenOf made = items) ∧
        ∀ j d why, offers[j]? = some (d, .refused why) →
          (∀ offer ∈ offers.take j, offer.2 = .accepted) →
            items[j]? = some d.entry ∧ made.map (·.1.entry) = items.take (j + 1) ∧
              takenOf made = items.take j ∧ after.buffer.queue = s.buffer.queue.drop j ∧
              ∀ n, 0 < n → ∃ view, after.buffer.preview n =
                .ok ⟨depth - j, d.entry :: view, min n (depth - j)⟩ := by
  intro depth items after
  have hitems : items = s.buffer.queue.take (min k depth) := List.take_eq_take_min
  refine ⟨Buffer.preview_of_open hopen k, List.length_take, ?_, ?_⟩
  · rw [hitems]
    exact (Buffer.dequeues_of_open hopen (Nat.min_le_right k depth)).1
  · intro P hP hs hstorage hk offers
    obtain ⟨r, heffect, -, hmade, hdeliveries, -⟩ :=
      Station.process_offered hP hs hopen hgauged.bounded hstorage hk
    have hmade : deliveriesIn after.sink.trace = deliveriesIn s.sink.trace ++ untilFailure offers := by
      rw [hmade, hdeliveries]
    have hentries : offers.map (·.1.entry) = items := Sink.rehearse_entries _ _ _
    refine ⟨untilFailure offers, hmade, ?_, ?_⟩
    · intro haccepted
      rw [untilFailure_of_accepted haccepted, takenOf_of_accepted haccepted]
      exact ⟨hentries, hentries⟩
    · intro j d why hj hbefore
      obtain ⟨hrefused, htaken⟩ := Round.of_first_failure hdeliveries hj hbefore
      have hleft : after.buffer.queue = s.buffer.queue.drop j := htaken ▸ (heffect.shed hopen).queue
      have hentry : items[j]? = some d.entry := by
        rw [← hentries, List.getElem?_map, hj]
        rfl
      rw [untilFailure_of_failure hbefore hj (by simp)]
      refine ⟨hentry, ?_, ?_, hleft, fun n hn => ?_⟩
      · rw [List.map_append, List.map_take, hentries, List.take_add_one, hentry]
        rfl
      · rw [takenOf_append, takenOf_of_accepted hbefore, List.map_take, hentries]
        exact List.append_nil _
      · -- the entry that was refused is at the head again
        obtain ⟨view, hview⟩ := List.head?_eq_some_iff.1 (heffect.head _ hrefused)
        have hsize : after.buffer.size = depth - j := by
          rw [Buffer.size, hleft, List.length_drop]
          rfl
        obtain ⟨n, rfl⟩ := Nat.exists_eq_succ_of_ne_zero hn.ne'
        refine ⟨view.take n, ?_⟩
        rw [Buffer.preview_of_open heffect.isOpen, hsize, hview]
        rfl

/-- Three entries in the queue, of which the second is refused: all three are shown, one is taken, and the
view after that starts with the second. -/
theorem preview_foretells_deliveries_of_second_refusal :
    let entry := fun id => (⟨id, "INFO", "app", "a", 0⟩ : Entry)
    let sink : Scripted MemorySink := ⟨[⟨.none, .passOn⟩, ⟨.none, .refuse (.unavailable "down")⟩],
      [], [], [], .withRetention 8⟩
    let fields : Fields := ⟨"INFO", "app", "a"⟩
    let empty : Buffer := ⟨4, [], 1, .initial 4 0, true⟩
    let buffer := ((empty.accept fields 0).accept fields 0).accept fields 0
    let s := Station.around buffer (Traced.ofSink sink) ⟨0, 0⟩ 1
    let after := (s.process Station.intrude 5).2
    s.buffer.preview 5 = .ok ⟨3, [entry 1, entry 2, entry 3], 3⟩ ∧
      takenIn after.sink.trace = [entry 1] ∧
      ∃ view, after.buffer.preview 1 = .ok ⟨2, entry 2 :: view, 1⟩ := by
  intro entry sink fields empty buffer s after
  have hb : Buffer.create 4 0 = .ok _ := rfl
  have hgauged : s.buffer.Gauged :=
    (((Buffer.gauged_create hb).accept (by decide)).accept (by decide)).accept (by decide)
  have hsink : s.sink.inner.Harmless := ⟨by decide, by decide, by decide⟩
  obtain ⟨hview, -, -, hbatch⟩ := preview_foretells_deliveries rfl hgauged 5
  obtain ⟨made, hmade, -, hrefused⟩ :=
    hbatch _ (Scripted.answering MemorySink.answers) hsink rfl (by decide)
  have hfirst : ∀ offer ∈ (Sink.rehearse s.clock s.sink.inner (s.buffer.queue.take 5)).take 1,
      offer.2 = .accepted := List.forall_mem_singleton.2 rfl
  obtain ⟨-, -, htaken, -, hlater⟩ :=
    hrefused 1 (s.deliveryOf (entry 2)) (.unavailable "down") rfl hfirst
  refine ⟨hview, ?_, hlater 1 Nat.zero_lt_one⟩
  rw [takenIn, hmade]
  exact htaken

end LogSpool
