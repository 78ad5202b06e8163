import LogSpool.Buffer
import LogSpool.Proofs.Json.Document
import LogSpool.Proofs.Json.Line

/-!
# What the document of a preview says

This module shows that the document of a preview says what the preview shows and nothing else, whatever
characters are in the texts of the entries: no text of an entry can look like the end of its quotes, like
another member or like another entry.

* `Entry.Fits`, `Preview.Fits` — numbers of 64 bits, as entries and previews have them.
* `Preview.ofDocument?`, `Preview.ofText?` — the preview that a document or a text stands for;
  `ofDocument?_eq_some_iff` says that it is taken from its own document only, with all members in their
  order.
* `Preview.Legible` — what can be read from the text of a preview; by `Fits.legible` it can.
-/

namespace LogSpool

/-! ## Numbers of 64 bits -/

/-- The number of an entry is a natural number of 64 bits, and its time an integer of 64 bits. -/
structure Entry.Fits (e : Entry) : Prop where
  id : e.id < 2 ^ 64
  earliest : -2 ^ 63 ≤ e.ingestedAt
  latest : e.ingestedAt < 2 ^ 63

/-- The counts of a preview are natural numbers of 64 bits, and its entries have such numbers too. -/
structure Preview.Fits (p : Preview) : Prop where
  queueDepth : p.queueDepth < 2 ^ 64
  items : ∀ e ∈ p.items, e.Fits
  returned : p.returned < 2 ^ 64

theorem Entry.Fits.exact {e : Entry} (h : e.Fits) : e.document.Exact := by
  obtain ⟨hid, hearliest, hlatest⟩ := h
  refine .record ?_
  simp only [List.forall_mem_cons, List.not_mem_nil, false_implies, implies_true, and_true]
  exact ⟨Json.exact_natural hid, .text _, .text _, .text _, .integer hearliest (by omega)⟩

theorem Preview.Fits.exact {p : Preview} (h : p.Fits) : p.document.Exact := by
  refine .record ?_
  simp only [List.forall_mem_cons, List.not_mem_nil, false_implies, implies_true, and_true]
  refine ⟨Json.exact_natural h.queueDepth, .list ?_, Json.exact_natural h.returned⟩
  intro item hitem
  obtain ⟨e, he, rfl⟩ := List.mem_map.1 hitem
  exact (h.items e he).exact

/-! ## From documents to previews -/

/-- The entry that a document stands for: all members are there, in their order, and no others. -/
def Entry.ofDocument? : Json → Option Entry
  | .record [("id", .integer (.ofNat id)), ("level", .text level), ("source", .text source),
      ("message", .text message), ("ingested_at_ms", .integer ingestedAt)] =>
    some ⟨id, level, source, message, ingestedAt⟩
  | _ => none

/-- The preview that a document stands for. -/
def Preview.ofDocument? : Json → Option Preview
  | .record [("queue_depth", .integer (.ofNat queueDepth)), ("items", .list items),
      ("returned", .integer (.ofNat returned))] =>
    (items.mapM Entry.ofDocument?).map fun items => ⟨queueDepth, items, returned⟩
  | _ => none

/-- The preview that a text stands for. -/
def Preview.ofText? (s : String) : Option Preview :=
  (Json.read s).toOption.bind ofDocument?

/-- An entry is taken from its document only. -/
theorem Entry.ofDocument?_eq_some_iff {j : Json} {e : Entry} :
    Entry.ofDocument? j = some e ↔ j = e.document := by
  constructor
  · intro h
    unfold ofDocument? at h
    split at h
    · obtain rfl := Option.some.inj h
      rfl
    · cases h
  · rintro rfl
    rfl

theorem Entry.mapM_ofDocument?_eq_some_iff {items : List Json} {entries : List Entry} :
    items.mapM Entry.ofDocument? = some entries ↔ items = entries.map Entry.document := by
  induction items generalizing entries with
  | nil => cases entries <;> simp
  | cons item items ih =>
      cases entries <;>
        simp [Option.bind_eq_some_iff, Entry.ofDocument?_eq_some_iff, ih]

/-- A preview is taken from its document only. -/
theorem Preview.ofDocument?_eq_some_iff {j : Json} {p : Preview} :
    Preview.ofDocument? j = some p ↔ j = p.document := by
  constructor
  · intro h
    unfold ofDocument? at h
    split at h
    · obtain ⟨entries, hentries, rfl⟩ := Option.map_eq_some_iff.1 h
      rw [Entry.mapM_ofDocument?_eq_some_iff] at hentries
      rw [hentries]
      rfl
    · cases h
  · rintro rfl
    have hentries := Entry.mapM_ofDocument?_eq_some_iff.2 (rfl : p.items.map Entry.document = _)
    exact Option.map_eq_some_iff.2 ⟨p.items, hentries, rfl⟩

/-! ## From texts to previews -/

/-- What can be read from the text of a preview, whatever characters are in the texts of its entries. -/
structure Preview.Legible (p : Preview) : Prop where
  /-- No character is below U+0020. -/
  singleLine : SingleLine p.document.write.toList
  /-- The text is a record of three members in this order, in which each item is a record of five
  members in this order. -/
  members : Json.read p.document.write = .ok (.record [
    ("queue_depth", .integer p.queueDepth),
    ("items", .list (p.items.map fun e => .record [
      ("id", .integer e.id),
      ("level", .text e.level),
      ("source", .text e.source),
      ("message", .text e.message),
      ("ingested_at_ms", .integer e.ingestedAt)])),
    ("returned", .integer p.returned)])
  /-- The text stands for the preview. -/
  recovered : ofText? p.document.write = some p
  /-- No other preview has this text. -/
  unique : ∀ q : Preview, q.Fits → q.document.write = p.document.write → q = p

theorem Preview.Fits.recovered {p : Preview} (h : p.Fits) : ofText? p.document.write = some p := by
  rw [ofText?, Json.read_write h.exact]
  exact ofDocument?_eq_some_iff.2 rfl

theorem Preview.Fits.legible {p : Preview} (h : p.Fits) : p.Legible where
  singleLine := Json.singleLine_write p.document
  members := Json.read_write h.exact
  recovered := h.recovered
  unique q hq hsame := by
    have hrecovered := hq.recovered
    rw [hsame, h.recovered] at hrecovered
    exact (Option.some.inj hrecovered).symm

end LogSpool
