import LogSpool.Proofs.Batch.Preview
import LogSpool.Proofs.Buffer.Document
import LogSpool.Proofs.Session.Finality

/-!
# Every preview can be read

This module carries the documents of previews over to sessions: whatever anybody does, what the buffer
shows then can be read from its text, and from no text of another preview.

* `Buffer.ShowsLegibly` — a buffer shows the oldest entries, and what it shows can be read.
* `previews_legible` — so does every buffer that anybody can bring about.
-/

namespace LogSpool

/-- A buffer has a preview for every limit, which can be read from its text.  The buffer is open, has
accepted fewer than 2^64 entries, and what is in its queue was accepted at times of 64 bits. -/
def Buffer.ShowsLegibly (b : Buffer) : Prop :=
  b.isOpen = true → b.metrics.totalIngested < 2 ^ 64 →
    (∀ e ∈ b.queue, -2 ^ 63 ≤ e.ingestedAt ∧ e.ingestedAt < 2 ^ 63) → ∀ limit : Nat,
      ∃ p : Preview, b.preview limit = .ok p ∧ p.Legible ∧
        p.queueDepth = b.queue.length ∧ p.items = b.queue.take limit ∧
        p.returned = min limit b.queue.length

/-- The numbers of what a buffer shows have 64 bits, as the numbers given out so far have. -/
theorem Custody.Conserved.showsLegibly {w : Custody} (hw : w.Conserved) : w.buffer.ShowsLegibly := by
  intro hopen hcount htimes limit
  have hdepth : w.buffer.size < 2 ^ 64 := Nat.lt_of_le_of_lt hw.size_le hcount
  refine ⟨_, Buffer.preview_of_open hopen limit, Preview.Fits.legible ?_, rfl, rfl, rfl⟩
  refine ⟨hdepth, fun e he => ?_, Nat.lt_of_le_of_lt (Nat.min_le_right _ _) hdepth⟩
  have hmem : e ∈ w.buffer.queue := List.mem_of_mem_take he
  obtain ⟨-, hid⟩ := hw.partitioned.given_out .queue e.id (List.mem_map_of_mem hmem)
  obtain ⟨hearliest, hlatest⟩ := htimes e hmem
  exact ⟨by omega, hearliest, hlatest⟩

/-- A preview cannot be forged by the texts of its entries.  Whatever anybody has done, in whatever order,
and whatever characters are in the texts, an open buffer shows for every limit what can be read from its
document again: a single line, which is a record with the members in their order, stands for this preview
and for no other one.

So it is at every moment that acts of anybody lead to, after every session at a desk and after every
session of an engine, with whatever storage. -/
theorem previews_legible {capacity : Nat} {now : Int} {b : Buffer}
    (hb : Buffer.create capacity now = .ok b) (storage : Storage) :
    (∀ w, Custody.Reachable b w → w.buffer.ShowsLegibly) ∧
    (∀ (σ : Type) [Sink σ] (sink : σ) (clock : Clock) (batch : Nat)
      (requests : List (Desk.Request σ)),
      ((Desk.opened b sink clock batch storage).serveAll requests).station.buffer.ShowsLegibly) ∧
    (∀ (σ : Type) [Sink σ] (config : EngineConfig) (sink : σ) (clock : Clock) (e : Engine σ),
      Engine.withSink config sink clock storage = .ok e → ∀ ops : List (Engine.Operation σ),
      (e.run ops).station.buffer.ShowsLegibly) := by
  refine ⟨fun w hw => (hw.conserved hb).showsLegibly, ?_, ?_⟩
  · intro σ _ sink clock batch requests
    obtain ⟨w, hw, hdescribes⟩ := Desk.serveAll_describes b sink clock batch storage requests
    exact hdescribes.buffer ▸ (hw.conserved hb).showsLegibly
  · intro σ _ config sink clock e he ops
    obtain ⟨-, hb', acts, -, hdescribes⟩ := Engine.run_course he ops
    have hw := (Custody.Reachable.opened (b := e.station.buffer) storage).run acts
    exact hdescribes.buffer ▸ (hw.conserved hb').showsLegibly

/-- A message looks like the end of its entry and the start of another one, which a caller has taken out
and given back.  The text of what is shown stands for the entry with this message. -/
theorem previews_legible_of_feigned_entry :
    let message := "a\"\x7d,\x7b\"id\":7,\\\n\x01é"
    let b : Buffer := ⟨2, [], 1, .initial 2 0, true⟩
    let d := (Desk.opened b (MemorySink.withRetention 1) (.startingAt (-5)) 1).serveAll
      [.operation (.station (.enqueue ⟨"INFO", "app", message⟩)),
        .operation (.station (.enqueue ⟨"INFO", "app", "b"⟩)),
        .operation (.take "left"), .operation (.giveBack "left")]
    let p : Preview := ⟨2, [⟨1, "INFO", "app", message, -5⟩], 1⟩
    Buffer.create 2 0 = .ok b ∧ d.station.buffer.preview 1 = .ok p ∧
      SingleLine p.document.write.toList ∧ Preview.ofText? p.document.write = some p := by
  intro message b d p
  have hb : Buffer.create 2 0 = .ok b := rfl
  have hshows : d.station.buffer.ShowsLegibly := (previews_legible hb .ample).2.1 _ _ _ _ _
  have hopen : d.station.buffer.isOpen = true := by decide
  have hcount : d.station.buffer.metrics.totalIngested < 2 ^ 64 := by decide
  have hqueue : d.station.buffer.queue =
      [⟨1, "INFO", "app", message, -5⟩, ⟨2, "INFO", "app", "b", -5⟩] := by decide
  -- From here on only these facts about the end of the session are used.
  clear_value d
  have htimes : ∀ e ∈ d.station.buffer.queue, -2 ^ 63 ≤ e.ingestedAt ∧ e.ingestedAt < 2 ^ 63 := by
    rw [hqueue]
    decide
  obtain ⟨p', hpreview, hlegible, hdepth, hitems, hreturned⟩ := hshows hopen hcount htimes 1
  have hp : p' = p := by
    obtain ⟨depth, items, returned⟩ := p'
    rw [hqueue] at hdepth hitems hreturned
    obtain rfl := hdepth
    obtain rfl := hitems
    obtain rfl := hreturned
    rfl
  rw [hp] at hpreview hlegible
  exact ⟨hb, hpreview, hlegible.singleLine, hlegible.recovered⟩

end LogSpool
